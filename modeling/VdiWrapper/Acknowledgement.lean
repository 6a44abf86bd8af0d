import VdiWrapper.Completion

/-!
# Acknowledged implies stored

Two more pairs of books, kept on the same trace as those of the server.  A delivered `VDC_Write`
is owed to the sink until the sink accepts it, and an accepted chunk is owed an acknowledgement
until its `CompleteCommand` succeeds.  Both are settled whenever the loop polls a device.
-/

namespace Vdi

open Runs

variable {ω σ : Type} {env : Env ω σ}

/-- The chunk a `sink->write` accepted. -/
def acceptance : Event → Option VdcCommand
  | .sinkWrite cmd true => some cmd
  | _ => none

/-- The chunk a `CompleteCommand` is called for. -/
def acknowledging : Event → Option VdcCommand
  | .completeCommand _ cmd _ _ _ _ => if cmd.commandCode = vdcWrite then some cmd else none
  | _ => none

/-- The chunk a successful `CompleteCommand` acknowledged. -/
def acknowledgement : Event → Option VdcCommand
  | .completeCommand _ cmd _ _ _ hr =>
      if cmd.commandCode = vdcWrite ∧ failed hr = false then some cmd else none
  | _ => none

/-- The `VDC_Write` a successful `GetCommand` delivered. -/
def writeDelivery : Event → Option VdcCommand
  | .getCommand _ _ hr (some cmd) =>
      if failed hr = false ∧ cmd.commandCode = vdcWrite then some cmd else none
  | _ => none

/-- The chunk offered to the sink. -/
def offer : Event → Option VdcCommand
  | .sinkWrite cmd _ => some cmd
  | _ => none

def accepted (es : List Event) : List VdcCommand := es.filterMap acceptance

def acknowledged (es : List Event) : List VdcCommand := es.filterMap acknowledgement

def writesDelivered (es : List Event) : List VdcCommand := es.filterMap writeDelivery

/-- An accepted chunk is owed an acknowledgement. -/
def ackLedger : Ledger Event VdcCommand where
  owes := acceptance
  attempts := acknowledging
  pays := acknowledgement
  attempts_of_pays := by
    intro e x h
    cases e with
    | completeCommand device cmd code size position hr =>
        simp only [acknowledgement, Option.ite_none_right_eq_some] at h
        obtain ⟨⟨hcode, -⟩, hx⟩ := h
        simp [acknowledging, hcode, ← hx]
    | _ => cases h

/-- A delivered chunk is owed to the sink. -/
def sinkLedger : Ledger Event VdcCommand where
  owes := writeDelivery
  attempts := offer
  pays := acceptance
  attempts_of_pays := by
    intro e x h
    cases e with
    | sinkWrite cmd ok =>
        cases ok with
        | true => exact h
        | false => cases h
    | _ => cases h

/-- An event that neither polls, nor writes, nor acknowledges. -/
@[simp] def Event.OffChunk : Event → Prop
  | .getCommand .. | .sinkWrite .. => False
  | .completeCommand _ cmd _ _ _ _ => cmd.commandCode ≠ vdcWrite
  | _ => True

theorem Event.OffChunk.silent_ack {e : Event} (h : e.OffChunk) :
    ackLedger.Silent Event.Polls e := by
  cases e with
  | getCommand | sinkWrite => exact h.elim
  | completeCommand => exact ⟨id, rfl, if_neg h⟩
  | _ => exact ⟨id, rfl, rfl⟩

theorem Event.OffChunk.silent_sink {e : Event} (h : e.OffChunk) :
    sinkLedger.Silent Event.Polls e := by
  cases e <;> first | exact h.elim | exact ⟨id, rfl, rfl⟩

theorem Event.AroundLoop.offChunk {e : Event} (h : e.AroundLoop) : e.OffChunk := by
  cases e <;> first | exact h.elim | trivial

/-- Both pairs of books are orderly, and only valid chunks are offered. -/
structure Stocked (es : List Event) : Prop where
  acks : ackLedger.Orderly Event.Polls es
  stores : sinkLedger.Orderly Event.Polls es
  sane : ∀ cmd ok, .sinkWrite cmd ok ∈ es → cmd.Sane

/-- Both pairs of books are settled. -/
structure Balanced (es : List Event) : Prop where
  acks : ackLedger.Settled es
  stores : sinkLedger.Settled es

theorem balanced_nil : Balanced [] := ⟨rfl, rfl⟩

theorem Balanced.append {es es' : List Event} (h : Balanced es) (h' : Balanced es') :
    Balanced (es ++ es') :=
  ⟨h.acks.append_iff.mpr h'.acks, h.stores.append_iff.mpr h'.stores⟩

theorem Stocked.append {es es' : List Event} (h : Stocked es) (hb : Balanced es)
    (h' : Stocked es') : Stocked (es ++ es') := by
  refine ⟨h.acks.append hb.acks h'.acks, h.stores.append hb.stores h'.stores, ?_⟩
  intro cmd ok hmem
  rcases List.mem_append.mp hmem with hmem | hmem
  · exact h.sane cmd ok hmem
  · exact h'.sane cmd ok hmem

theorem stocked_of_offChunk {es : List Event} (h : ∀ e ∈ es, e.OffChunk) :
    Stocked es ∧ Balanced es :=
  ⟨⟨.of_silent fun e he => (h e he).silent_ack, .of_silent fun e he => (h e he).silent_sink,
      fun _ _ hmem => (h _ hmem).elim⟩,
    Ledger.Silent.settled fun e he => (h e he).silent_ack,
    Ledger.Silent.settled fun e he => (h e he).silent_sink⟩

theorem Stocked.append_offChunk {es es' : List Event} (h : Stocked es)
    (h' : ∀ e ∈ es', e.OffChunk) : Stocked (es ++ es') := by
  refine ⟨h.acks.append_silent fun e he => (h' e he).silent_ack,
    h.stores.append_silent fun e he => (h' e he).silent_sink, fun cmd ok hmem => ?_⟩
  rcases List.mem_append.mp hmem with hmem | hmem
  · exact h.sane cmd ok hmem
  · exact (h' _ hmem).elim

/-- One more event that fits into both pairs of books. -/
theorem Stocked.snoc {es : List Event} {e : Event} (h : Stocked es)
    (hack : ackLedger.Fits Event.Polls es e) (hsink : sinkLedger.Fits Event.Polls es e)
    (hsane : ∀ cmd ok, e = .sinkWrite cmd ok → cmd.Sane) : Stocked (es ++ [e]) := by
  refine ⟨h.acks.snoc hack, h.stores.snoc hsink, fun cmd ok hmem => ?_⟩
  rcases List.mem_append.mp hmem with hmem | hmem
  · exact h.sane cmd ok hmem
  · exact hsane cmd ok (List.mem_singleton.mp hmem).symm

theorem fetched_stocked (device : Device) (timeout : UInt32) (hr : HResult)
    (cmd : Option VdcCommand) (t₀ t₁ : UInt64) :
    Stocked (fetched device timeout hr cmd t₀ t₁) := by
  refine ⟨?_, ?_, by simp [fetched]⟩
  · simp [fetched, Ledger.Orderly, Ledger.fits_iff, Ledger.Settled, Ledger.owed, Ledger.paid,
      ackLedger, acceptance, acknowledging, acknowledgement, Event.Polls, List.filterMap_cons]
  · simp [fetched, Ledger.Orderly, Ledger.fits_iff, Ledger.Settled, Ledger.owed, Ledger.paid,
      sinkLedger, acceptance, offer, writeDelivery, Event.Polls, List.filterMap_cons]

/-- A `GetCommand` that delivers no `VDC_Write` incurs no debt. -/
theorem fetched_balanced {device : Device} {timeout : UInt32} {hr : HResult}
    {cmd : Option VdcCommand} {t₀ t₁ : UInt64}
    (h : writeDelivery (.getCommand device timeout hr cmd) = none) :
    Balanced (fetched device timeout hr cmd t₀ t₁) := by
  refine ⟨rfl, ?_⟩
  simp only [fetched, Ledger.Settled, Ledger.owed, Ledger.paid, sinkLedger,
    List.filterMap_cons, h]
  rfl

theorem writeDelivery_eq_none {device : Device} {timeout : UInt32} {hr : HResult}
    {cmd : Option VdcCommand} (h : failed hr = true ∨ cmd = none) :
    writeDelivery (.getCommand device timeout hr cmd) = none := by
  rcases h with hhr | rfl
  · cases cmd with
    | none => rfl
    | some cmd => exact if_neg (by simp [hhr])
  · rfl

/-- Polling a device without a `VDC_Write` for the answer. -/
theorem fetched_idle {device : Device} {timeout : UInt32} {hr : HResult}
    {cmd : Option VdcCommand} {t₀ t₁ : UInt64} {rest : List Event}
    (h : writeDelivery (.getCommand device timeout hr cmd) = none)
    (hrest : ∀ e ∈ rest, e.OffChunk) :
    Stocked (fetched device timeout hr cmd t₀ t₁ ++ rest) ∧
      Balanced (fetched device timeout hr cmd t₀ t₁ ++ rest) :=
  ⟨(fetched_stocked ..).append_offChunk hrest,
    (fetched_balanced h).append (stocked_of_offChunk hrest).2⟩

/-- Offering the delivered chunk to the sink. -/
theorem offered_stocked {device : Device} {timeout : UInt32} {hr : HResult} {cmd : VdcCommand}
    {t₀ t₁ t₂ t₃ t₄ : UInt64} {ok : Bool} (hhr : failed hr = false)
    (hcode : cmd.commandCode = vdcWrite) (sane : cmd.Sane) :
    Stocked (delivered device timeout hr cmd t₀ t₁ t₂ t₃ ++
      [.sinkIsOpen true, .nowUs t₄, .sinkWrite cmd ok]) := by
  have hwrite : writeDelivery (.getCommand device timeout hr (some cmd)) = some cmd :=
    if_pos ⟨hhr, hcode⟩
  have hquiet : ∀ e ∈ [Event.nowUs t₂, .nowUs t₃] ++ [.sinkIsOpen true, .nowUs t₄],
      e.OffChunk := by simp
  have hpre := (fetched_stocked device timeout hr (some cmd) t₀ t₁).append_offChunk hquiet
  have hfits_ack : ackLedger.Fits Event.Polls (fetched device timeout hr (some cmd) t₀ t₁ ++
      ([Event.nowUs t₂, .nowUs t₃] ++ [.sinkIsOpen true, .nowUs t₄])) (.sinkWrite cmd ok) :=
    ⟨False.elim, fun _ _ => ⟨rfl, rfl⟩, fun _ h => by cases h⟩
  have hfits_sink : sinkLedger.Fits Event.Polls (fetched device timeout hr (some cmd) t₀ t₁ ++
      ([Event.nowUs t₂, .nowUs t₃] ++ [.sinkIsOpen true, .nowUs t₄])) (.sinkWrite cmd ok) := by
    refine ⟨False.elim, fun _ h => (by cases h), fun x hx => ?_⟩
    cases hx
    simp only [fetched, Ledger.Owing, Ledger.owed, Ledger.paid, sinkLedger, List.cons_append,
      List.nil_append, List.filterMap_cons, hwrite]
    rfl
  have hlist : delivered device timeout hr cmd t₀ t₁ t₂ t₃ ++
      [.sinkIsOpen true, .nowUs t₄, .sinkWrite cmd ok] =
      fetched device timeout hr (some cmd) t₀ t₁ ++
        ([Event.nowUs t₂, .nowUs t₃] ++ [.sinkIsOpen true, .nowUs t₄]) ++ [.sinkWrite cmd ok] := by
    simp [delivered]
  rw [hlist]
  apply hpre.snoc hfits_ack hfits_sink
  intro cmd' ok' heq
  cases heq
  exact sane

/-- After the sink accepted the chunk, it is paid for and an acknowledgement is due. -/
theorem accepted_due {device : Device} {timeout : UInt32} {hr : HResult} {cmd : VdcCommand}
    {t₀ t₁ t₂ t₃ t₄ t₅ : UInt64} (hhr : failed hr = false)
    (hcode : cmd.commandCode = vdcWrite) :
    ackLedger.Owing cmd (delivered device timeout hr cmd t₀ t₁ t₂ t₃ ++
        [.sinkIsOpen true, .nowUs t₄, .sinkWrite cmd true] ++ [.nowUs t₅]) ∧
      sinkLedger.Settled (delivered device timeout hr cmd t₀ t₁ t₂ t₃ ++
        [.sinkIsOpen true, .nowUs t₄, .sinkWrite cmd true] ++ [.nowUs t₅]) := by
  have hwrite : writeDelivery (.getCommand device timeout hr (some cmd)) = some cmd :=
    if_pos ⟨hhr, hcode⟩
  refine ⟨rfl, ?_⟩
  simp only [delivered, fetched, Ledger.Settled, Ledger.owed, Ledger.paid, sinkLedger,
    List.cons_append, List.nil_append, List.filterMap_cons, hwrite]
  rfl

/-- Stage 4 acknowledges the chunk the sink accepted. -/
theorem Completed.stocked {device : Device} {cmd : VdcCommand} {times : StageTimes}
    {c c' : Client} {pre es : List Event} {flow : Flow}
    (h : Completed device cmd times c es flow c') (hcode : cmd.commandCode = vdcWrite)
    (hpre : Stocked pre) (hdue : ackLedger.Owing cmd pre) (hpaid : sinkLedger.Settled pre) :
    Stocked (pre ++ es) ∧ (flow = .next → Balanced (pre ++ es)) := by
  obtain ⟨t₀, hr, rest, rfl, hrest, hok⟩ : ∃ t₀ hr rest,
      es = [.nowUs t₀] ++
        [.completeCommand device cmd errorSuccess cmd.size cmd.position hr] ++ rest ∧
        (∀ e ∈ rest, e.OffChunk) ∧ (flow = .next → Vdi.failed hr = false) := by
    cases h with
    | failed t₀ t₁ hr hhr => exact ⟨t₀, hr, _, rfl, by simp [failure], fun h => by cases h⟩
    | faulted t₀ t₁ hr hhr hfired => exact ⟨t₀, hr, _, rfl, by simp [failure], fun h => by cases h⟩
    | done t₀ t₁ hr hhr hfired cmd' => exact ⟨t₀, hr, _, rfl, by simp, fun _ => hhr⟩
  have hclock : ∀ e ∈ [Event.nowUs t₀], e.OffChunk := by simp
  have hpre₀ : Stocked (pre ++ [.nowUs t₀]) := hpre.append_offChunk hclock
  have hdue₀ : ackLedger.Owing cmd (pre ++ [.nowUs t₀]) :=
    hdue.append_silent fun e he => (hclock e he).silent_ack
  have hfits_ack : ackLedger.Fits Event.Polls (pre ++ [.nowUs t₀])
      (.completeCommand device cmd errorSuccess cmd.size cmd.position hr) := by
    refine ⟨False.elim, fun _ h => (by cases h), fun x hx => ?_⟩
    have hx : (if cmd.commandCode = vdcWrite then some cmd else none) = some x := hx
    rw [if_pos hcode] at hx
    cases hx
    exact hdue₀
  have hfits_sink : sinkLedger.Fits Event.Polls (pre ++ [.nowUs t₀])
      (.completeCommand device cmd errorSuccess cmd.size cmd.position hr) :=
    ⟨False.elim, fun _ h => (by cases h), fun _ h => (by cases h)⟩
  have hcomplete : Stocked (pre ++ [.nowUs t₀] ++
      [.completeCommand device cmd errorSuccess cmd.size cmd.position hr]) := by
    apply hpre₀.snoc hfits_ack hfits_sink
    intro cmd' ok' heq
    cases heq
  have hlist : pre ++ ([.nowUs t₀] ++
      [.completeCommand device cmd errorSuccess cmd.size cmd.position hr] ++ rest) =
      pre ++ [.nowUs t₀] ++
        [.completeCommand device cmd errorSuccess cmd.size cmd.position hr] ++ rest := by simp
  rw [hlist]
  refine ⟨hcomplete.append_offChunk hrest, fun hnext => ?_⟩
  have hack : ackLedger.Settled (pre ++ [.nowUs t₀] ++
      [.completeCommand device cmd errorSuccess cmd.size cmd.position hr]) :=
    hdue₀.pay rfl (if_pos ⟨hcode, hok hnext⟩)
  have hstore : sinkLedger.Settled (pre ++ [.nowUs t₀] ++
      [.completeCommand device cmd errorSuccess cmd.size cmd.position hr]) := by
    rw [List.append_assoc]
    exact hpaid.append_iff.mpr rfl
  exact Balanced.append ⟨hack, hstore⟩ (stocked_of_offChunk hrest).2

theorem StallCheck.offChunk {now : UInt64} {c c' : Client} {es : List Event}
    (h : StallCheck now c es c') : ∀ e ∈ es, e.OffChunk := by
  cases h <;> simp

theorem Completed.offChunk {device : Device} {cmd : VdcCommand} {times : StageTimes}
    {c c' : Client} {es : List Event} {flow : Flow} (h : Completed device cmd times c es flow c')
    (hcode : cmd.commandCode ≠ vdcWrite) : ∀ e ∈ es, e.OffChunk := by
  cases h <;> simp [failure, hcode]

/-- One turn of the loop: both books stay orderly, and a turn that goes on settles them. -/
theorem Iteration.stocked {start : UInt64} {device : Device} {c c' : Client} {es : List Event}
    {flow : Flow} (h : Iteration start device c es flow c') :
    Stocked es ∧ (flow = .next → Balanced es) := by
  cases h with
  | closed t₀ t₁ hr cmd hhr =>
      exact ⟨(fetched_stocked ..).append_offChunk (by simp), fun h => by cases h⟩
  | timedOut t₀ t₁ cmd check =>
      refine (fetched_idle (writeDelivery_eq_none (.inl failed_vdETimeout))
        fun e he => ?_).imp_right fun hb _ => hb
      rcases List.mem_cons.mp he with rfl | he
      · trivial
      · exact check.offChunk e he
  | failed t₀ t₁ hr cmd hhr hclose heof htimeout =>
      exact ⟨(fetched_stocked ..).append_offChunk (by simp [failure]), fun h => by cases h⟩
  | null t₀ t₁ hr hhr =>
      exact (fetched_idle (writeDelivery_eq_none (.inr rfl)) (by simp)).imp_right fun hb _ => hb
  | closeCommand t₀ t₁ t₂ t₃ hr cmd hhr hcode =>
      exact ⟨(fetched_stocked ..).append_offChunk (by simp), fun h => by cases h⟩
  | refused t₀ t₁ t₂ t₃ hr cmd hhr refused =>
      refine ⟨?_, fun h => by cases h⟩
      have hpre : Stocked (delivered device c.commandTimeoutMs hr cmd t₀ t₁ t₂ t₃) :=
        (fetched_stocked ..).append_offChunk (by simp)
      cases refused with
      | invalid hcode insane | sinkClosed hcode sane =>
          exact hpre.append_offChunk (by simp [failure])
      | rejected hcode sane t₄ =>
          have hlist : delivered device c.commandTimeoutMs hr cmd t₀ t₁ t₂ t₃ ++
              .sinkIsOpen true :: .nowUs t₄ :: .sinkWrite cmd false ::
                failure .sinkWriteFailed { c with lastCommandUs := t₁ } =
              delivered device c.commandTimeoutMs hr cmd t₀ t₁ t₂ t₃ ++
                [.sinkIsOpen true, .nowUs t₄, .sinkWrite cmd false] ++
                  failure .sinkWriteFailed { c with lastCommandUs := t₁ } := by simp
          rw [hlist]
          exact (offered_stocked hhr hcode sane).append_offChunk (by simp [failure])
  | served t₀ t₁ t₂ t₃ hr cmd hhr hcode stored completed =>
      cases stored with
      | other hother =>
          have hidle : writeDelivery (.getCommand device c.commandTimeoutMs hr (some cmd)) =
              none := if_neg fun h => hother h.2
          rw [List.append_nil, delivered, List.append_assoc]
          have hclock : ∀ e ∈ [Event.nowUs t₂, .nowUs t₃], e.OffChunk := by simp
          refine (fetched_idle hidle fun e he => ?_).imp_right fun hb _ => hb
          rcases List.mem_append.mp he with he | he
          · exact hclock e he
          · exact completed.offChunk hother e he
      | written hwrite sane t₄ t₅ =>
          have hclock : ∀ e ∈ [Event.nowUs t₅], e.OffChunk := by simp
          have hpre : Stocked (delivered device c.commandTimeoutMs hr cmd t₀ t₁ t₂ t₃ ++
              [.sinkIsOpen true, .nowUs t₄, .sinkWrite cmd true] ++ [.nowUs t₅]) :=
            (offered_stocked hhr hwrite sane).append_offChunk hclock
          obtain ⟨hdue, hpaid⟩ := accepted_due hhr hwrite
          simpa using completed.stocked hwrite hpre hdue hpaid

/-- Any number of turns. -/
theorem LoopRun.stocked {start : UInt64} {devices : List Device} {c c' : Client} {k : Nat}
    {es : List Event} {flow : Flow} (h : LoopRun start devices c k es flow c') :
    Stocked es ∧ (flow = .next → Balanced es) := by
  induction h with
  | start => exact ⟨⟨always_nil, always_nil, by simp⟩, fun _ => balanced_nil⟩
  | turn before served turn ih =>
      obtain ⟨hstocked, hbalanced⟩ := ih
      obtain ⟨hturn, hnext⟩ := turn.stocked
      exact ⟨hstocked.append (hbalanced rfl) hturn,
        fun hflow => (hbalanced rfl).append (hnext hflow)⟩

theorem CommandRun.stocked {c c' : Client} {es : List Event} {returned : Bool}
    (h : CommandRun c es returned c') : Stocked es := by
  have hquiet : ∀ {es : List Event}, (∀ e ∈ es, e.AroundLoop) → Stocked es ∧ Balanced es :=
    fun hes => stocked_of_offChunk fun e he => (hes e he).offChunk
  rcases h.frame with hes |
    ⟨before, loop, after, start, devices, k, flow, c₁, rfl, hbefore, hafter, run⟩
  · exact (hquiet hes).1
  · obtain ⟨hstocked, hbalanced⟩ := hquiet hbefore
    exact (hstocked.append hbalanced run.stocked.1).append_offChunk fun e he =>
      (hafter e he).aroundLoop.offChunk

/-! ## What the server may conclude -/

/-- What the sink accepted and what the server was told, at every moment of a trace. -/
structure AcknowledgedStored (es : List Event) : Prop where
  /-- Whenever a device is polled, everything accepted has been acknowledged, in order. -/
  polls : Always (fun pre e => e.Polls → accepted pre = acknowledged pre) es
  /-- At every moment at most the last accepted chunk awaits its acknowledgement. -/
  lags : Throughout (fun pre => accepted pre = acknowledged pre ∨
    ∃ cmd, accepted pre = acknowledged pre ++ [cmd]) es
  /-- No delivery is accepted twice, and none out of order. -/
  once : Throughout (fun pre => accepted pre <+: writesDelivered pre) es
  /-- `CompleteCommand` is only called for a `VDC_Write` when the sink has just accepted it. -/
  acknowledges : Always (fun pre e => ∀ cmd, acknowledging e = some cmd →
    accepted pre = acknowledged pre ++ [cmd]) es
  /-- The sink is only offered valid chunks. -/
  valid : ∀ cmd ok, .sinkWrite cmd ok ∈ es → cmd.Sane

/-- **Acknowledged implies stored.**  Every call of `process_commands` keeps the two lists
together, on any client, with any number of devices and any sink, whatever the environment
answers and however long it is watched. -/
theorem processCommands_acknowledgedStored (env : Env ω σ) (fuel : Nat) (client : Client)
    (outside : Outside ω σ) : AcknowledgedStored (commandTrace env fuel client outside) := by
  have run := runCommands_commandRun env fuel client outside
  have hstocked := run.stocked
  refine ⟨?_, hstocked.acks.lagging, ?_, ?_, hstocked.sane⟩
  · exact hstocked.acks.imp fun pre e _ fits => fits.boundary
  · refine hstocked.stores.lagging.imp fun pre hlag => ?_
    rcases hlag with hsettled | ⟨x, howing⟩
    · have heq : writesDelivered pre = accepted pre := hsettled
      exact heq ▸ List.prefix_refl _
    · have heq : writesDelivered pre = accepted pre ++ [x] := howing
      rw [heq]
      exact List.prefix_append _ _
  · exact hstocked.acks.imp fun pre e _ fits => fits.attempt

end Vdi
