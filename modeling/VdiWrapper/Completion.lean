import VdiWrapper.CommandRun
import VdiWrapper.Lib.Ledger

/-!
# Completion discipline

The books of the server: `GetCommand` hands out a command, `CompleteCommand` returns it.  A turn
of the loop keeps them orderly and, if it goes on, settled; the two lists read off a call of
`process_commands` therefore differ by at most the last command at every moment.  What the last
turn may leave open is `Unanswered`.
-/

namespace Vdi

open Runs

variable {ω σ : Type} {env : Env ω σ} {m m' : Machine ω σ}

/-- The command a successful `GetCommand` delivers, with the device that delivered it. -/
def delivery : Event → Option (Device × VdcCommand)
  | .getCommand device _ hr (some cmd) => if failed hr then none else some (device, cmd)
  | _ => none

/-- The command a `CompleteCommand` is called with, and the device it is called on. -/
def completion : Event → Option (Device × VdcCommand)
  | .completeCommand device cmd _ _ _ _ => some (device, cmd)
  | _ => none

def deliveries (es : List Event) : List (Device × VdcCommand) := es.filterMap delivery

def completions (es : List Event) : List (Device × VdcCommand) := es.filterMap completion

/-- A delivered command is owed to the server until it is completed. -/
def serverLedger : Ledger Event (Device × VdcCommand) where
  owes := delivery
  attempts := completion
  pays := completion
  attempts_of_pays := id

/-- `GetCommand` is called. -/
def Event.Polls : Event → Prop
  | .getCommand .. => True
  | _ => False

/-- `CompleteCommand` reports success with the size and the position of the command itself. -/
def Event.Faithful : Event → Prop
  | .completeCommand _ cmd code size position _ =>
      code = errorSuccess ∧ size = cmd.size ∧ position = cmd.position
  | .log line => line ≠ .commandDispatchFailed
  | _ => True

/-- An event that neither fetches nor completes. -/
@[simp] def Event.OffServer : Event → Prop
  | .getCommand .. | .completeCommand .. | .log .commandDispatchFailed => False
  | _ => True

theorem Event.OffServer.silent {e : Event} (h : e.OffServer) :
    serverLedger.Silent Event.Polls e := by
  cases e <;> first | exact h.elim | exact ⟨id, rfl, rfl⟩

theorem Event.OffServer.faithful {e : Event} (h : e.OffServer) : e.Faithful := by
  cases e with
  | log line => cases line <;> first | exact h.elim | simp [Event.Faithful]
  | completeCommand => exact h.elim
  | _ => trivial

theorem failure_offServer {line : LogLine} {c : Client} (h : line ≠ .commandDispatchFailed) :
    ∀ e ∈ failure line c, e.OffServer := by
  simp [failure, h]

theorem StallCheck.offServer {now : UInt64} {c c' : Client} {es : List Event}
    (h : StallCheck now c es c') : ∀ e ∈ es, e.OffServer := by
  cases h <;>
    simp

theorem Stored.offServer {cmd : VdcCommand} {c c' : Client} {es : List Event} {sinkUs : UInt64}
    (h : Stored cmd c es sinkUs c') : ∀ e ∈ es, e.OffServer := by
  cases h <;>
    simp

theorem Refused.offServer {cmd : VdcCommand} {c c' : Client} {es : List Event}
    (h : Refused cmd c es c') : ∀ e ∈ es, e.OffServer := by
  cases h <;>
    simp [failure]

/-- The books are orderly and every completion is faithful. -/
structure Conducted (es : List Event) : Prop where
  orderly : serverLedger.Orderly Event.Polls es
  faithful : ∀ e ∈ es, e.Faithful

theorem Conducted.append_offServer {es es' : List Event} (h : Conducted es)
    (h' : ∀ e ∈ es', e.OffServer) : Conducted (es ++ es') := by
  refine ⟨h.orderly.append_silent fun e he => (h' e he).silent, fun e he => ?_⟩
  rcases List.mem_append.mp he with he | he
  · exact h.faithful e he
  · exact (h' e he).faithful

theorem Conducted.append {es es' : List Event} (h : Conducted es)
    (hs : serverLedger.Settled es) (h' : Conducted es') : Conducted (es ++ es') := by
  refine ⟨h.orderly.append hs h'.orderly, fun e he => ?_⟩
  rcases List.mem_append.mp he with he | he
  · exact h.faithful e he
  · exact h'.faithful e he

theorem fetched_conducted (device : Device) (timeout : UInt32) (hr : HResult)
    (cmd : Option VdcCommand) (t₀ t₁ : UInt64) :
    Conducted (fetched device timeout hr cmd t₀ t₁) := by
  have hclock : ∀ t pre, serverLedger.Fits Event.Polls pre (.nowUs t) := fun t pre =>
    Ledger.Silent.fits ⟨id, rfl, rfl⟩
  have hsettled : serverLedger.Settled [.nowUs t₀] := rfl
  have hget : serverLedger.Fits Event.Polls [.nowUs t₀] (.getCommand device timeout hr cmd) :=
    ⟨fun _ => hsettled, fun _ _ => ⟨hsettled, rfl⟩, fun _ h => by cases h⟩
  refine ⟨?_, by simp [fetched, Event.Faithful]⟩
  simp only [fetched, Ledger.Orderly, always_cons, always_nil, and_true]
  exact ⟨hclock _ _, hget, hclock _ _⟩

/-- A `GetCommand` that fails or hands out null incurs no debt. -/
theorem fetched_settled {device : Device} {timeout : UInt32} {hr : HResult}
    {cmd : Option VdcCommand} {t₀ t₁ : UInt64} (h : failed hr = true ∨ cmd = none) :
    serverLedger.Settled (fetched device timeout hr cmd t₀ t₁) := by
  have hnone : delivery (.getCommand device timeout hr cmd) = none := by
    rcases h with hhr | rfl
    · cases cmd with
      | none => rfl
      | some cmd => exact if_pos hhr
    · rfl
  simp only [fetched, Ledger.Settled, Ledger.owed, Ledger.paid, serverLedger,
    List.filterMap_cons, hnone]
  rfl

theorem fetched_quiet {device : Device} {timeout : UInt32} {hr : HResult}
    {cmd : Option VdcCommand} {t₀ t₁ : UInt64} {rest : List Event}
    (h : failed hr = true ∨ cmd = none) (hrest : ∀ e ∈ rest, e.OffServer) :
    Conducted (fetched device timeout hr cmd t₀ t₁ ++ rest) ∧
      serverLedger.Settled (fetched device timeout hr cmd t₀ t₁ ++ rest) :=
  ⟨(fetched_conducted ..).append_offServer hrest,
    (fetched_settled h).append_silent fun e he => (hrest e he).silent⟩

theorem delivered_owing {device : Device} {timeout : UInt32} {hr : HResult} {cmd : VdcCommand}
    {t₀ t₁ t₂ t₃ : UInt64} (h : failed hr = false) :
    serverLedger.Owing (device, cmd) (delivered device timeout hr cmd t₀ t₁ t₂ t₃) := by
  have hsome : delivery (.getCommand device timeout hr (some cmd)) = some (device, cmd) :=
    if_neg (by simp [h])
  simp only [delivered, fetched, Ledger.Owing, Ledger.owed, Ledger.paid, serverLedger,
    List.cons_append, List.nil_append, List.filterMap_cons, hsome]
  rfl

theorem delivered_conducted (device : Device) (timeout : UInt32) (hr : HResult)
    (cmd : VdcCommand) (t₀ t₁ t₂ t₃ : UInt64) :
    Conducted (delivered device timeout hr cmd t₀ t₁ t₂ t₃) := by
  apply (fetched_conducted device timeout hr (some cmd) t₀ t₁).append_offServer
  simp

/-- Stage 4 completes the command that is owed, on the device it is owed to. -/
theorem Completed.conducted {device : Device} {cmd : VdcCommand} {times : StageTimes}
    {c c' : Client} {pre es : List Event} {flow : Flow}
    (h : Completed device cmd times c es flow c') (hpre : Conducted pre)
    (howing : serverLedger.Owing (device, cmd) pre) :
    Conducted (pre ++ es) ∧ serverLedger.Settled (pre ++ es) := by
  have hclock : ∀ t, ∀ e ∈ [Event.nowUs t], e.OffServer := by
    simp
  obtain ⟨t₀, hr, rest, rfl, hrest⟩ : ∃ t₀ hr rest,
      es = .nowUs t₀ :: .completeCommand device cmd errorSuccess cmd.size cmd.position hr ::
        rest ∧ ∀ e ∈ rest, e.OffServer := by
    cases h with
    | failed t₀ t₁ hr hhr | faulted t₀ t₁ hr hhr hfired =>
        refine ⟨t₀, hr, _, rfl, ?_⟩
        simp [failure]
    | done t₀ t₁ hr hhr hfired cmd' => exact ⟨t₀, hr, _, rfl, hclock t₁⟩
  have howing₀ : serverLedger.Owing (device, cmd) (pre ++ [.nowUs t₀]) :=
    howing.append_silent fun e he => (hclock t₀ e he).silent
  have hconducted₀ : Conducted (pre ++ [.nowUs t₀]) := hpre.append_offServer (hclock t₀)
  have hfits : serverLedger.Fits Event.Polls (pre ++ [.nowUs t₀])
      (.completeCommand device cmd errorSuccess cmd.size cmd.position hr) := by
    refine ⟨False.elim, fun x hx => (by cases hx), fun x hx => ?_⟩
    cases hx
    exact howing₀
  have hconducted : Conducted (pre ++ [.nowUs t₀] ++
      [.completeCommand device cmd errorSuccess cmd.size cmd.position hr]) := by
    refine ⟨hconducted₀.orderly.snoc hfits, fun e he => ?_⟩
    rcases List.mem_append.mp he with he | he
    · exact hconducted₀.faithful e he
    · rw [List.mem_singleton.mp he]
      exact ⟨rfl, rfl, rfl⟩
  have hsettled : serverLedger.Settled (pre ++ [.nowUs t₀] ++
      [.completeCommand device cmd errorSuccess cmd.size cmd.position hr]) :=
    howing₀.pay rfl rfl
  rw [show pre ++ .nowUs t₀ :: .completeCommand device cmd errorSuccess cmd.size cmd.position hr ::
    rest = pre ++ [.nowUs t₀] ++
      [.completeCommand device cmd errorSuccess cmd.size cmd.position hr] ++ rest by simp]
  exact ⟨hconducted.append_offServer hrest, hsettled.append_silent fun e he => (hrest e he).silent⟩

/-- Why a delivered command may stay without completion, judged by what followed its delivery. -/
structure Unanswered (cmd : VdcCommand) (post : List Event) : Prop where
  reason : cmd.commandCode = vdcClose ∨
    (cmd.commandCode = vdcWrite ∧
      (¬ cmd.Sane ∨ .sinkIsOpen false ∈ post ∨ .sinkWrite cmd false ∈ post))
  last : ∀ e ∈ post, ¬ e.Polls

theorem Refused.unanswered {cmd : VdcCommand} {c c' : Client} {es : List Event}
    (h : Refused cmd c es c') : Unanswered cmd es := by
  refine ⟨.inr ?_, fun e he => (h.offServer e he).silent.boundary⟩
  cases h with
  | invalid hcode insane => exact ⟨hcode, .inl insane⟩
  | sinkClosed hcode sane => exact ⟨hcode, .inr (.inl (by simp))⟩
  | rejected hcode sane t₀ => exact ⟨hcode, .inr (.inr (by simp))⟩

/-- The last command delivered was never completed, for one of the reasons of `Unanswered`. -/
def LeavesOpen (es : List Event) : Prop :=
  ∃ pre device timeout hr cmd post,
    es = pre ++ .getCommand device timeout hr (some cmd) :: post ∧ failed hr = false ∧
      serverLedger.Settled pre ∧ serverLedger.Owing (device, cmd) es ∧ Unanswered cmd post

theorem LeavesOpen.prepend {pre es : List Event} (h : LeavesOpen es)
    (hs : serverLedger.Settled pre) : LeavesOpen (pre ++ es) := by
  obtain ⟨before, device, timeout, hr, cmd, post, rfl, hhr, hbefore, howing, hopen⟩ := h
  exact ⟨pre ++ before, device, timeout, hr, cmd, post, by simp, hhr,
    hs.append_iff.mpr hbefore, hs.append_owing_iff.mpr howing, hopen⟩

theorem LeavesOpen.append_offServer {es es' : List Event} (h : LeavesOpen es)
    (h' : ∀ e ∈ es', e.OffServer) : LeavesOpen (es ++ es') := by
  obtain ⟨before, device, timeout, hr, cmd, post, rfl, hhr, hbefore, howing, hopen⟩ := h
  refine ⟨before, device, timeout, hr, cmd, post ++ es', by simp, hhr, hbefore,
    howing.append_silent fun e he => (h' e he).silent, ?_, ?_⟩
  · rcases hopen.reason with hclose | ⟨hwrite, hreason⟩
    · exact .inl hclose
    · refine .inr ⟨hwrite, hreason.imp_right fun h => ?_⟩
      simp only [List.mem_append]
      exact h.imp .inl .inl
  · intro e he
    rcases List.mem_append.mp he with he | he
    · exact hopen.last e he
    · exact (h' e he).silent.boundary

/-- A stretch that ends right after an unanswered delivery. -/
theorem delivered_leavesOpen {device : Device} {timeout : UInt32} {hr : HResult}
    {cmd : VdcCommand} {t₀ t₁ t₂ t₃ : UInt64} {es : List Event} (hhr : failed hr = false)
    (hes : ∀ e ∈ es, e.OffServer) (hopen : Unanswered cmd es) :
    LeavesOpen (delivered device timeout hr cmd t₀ t₁ t₂ t₃ ++ es) := by
  refine ⟨[.nowUs t₀], device, timeout, hr, cmd, .nowUs t₁ :: .nowUs t₂ :: .nowUs t₃ :: es,
    by simp [delivered, fetched], hhr, rfl,
    (delivered_owing hhr).append_silent fun e he => (hes e he).silent, ?_, ?_⟩
  · simpa using hopen.reason
  · simpa [Event.Polls] using hopen.last

/-- One turn of the loop: the books stay orderly, a turn that goes on settles them, and a turn
that stops settles them or leaves its command open. -/
theorem Iteration.conducted {start : UInt64} {device : Device} {c c' : Client} {es : List Event}
    {flow : Flow} (h : Iteration start device c es flow c') :
    Conducted es ∧ (serverLedger.Settled es ∨ flow = .stop ∧ LeavesOpen es) := by
  cases h with
  | closed t₀ t₁ hr cmd hhr =>
      exact (fetched_quiet (.inl (failed_of_closeSignal hhr)) (by simp)).imp_right .inl
  | timedOut t₀ t₁ cmd check =>
      refine (fetched_quiet (.inl failed_vdETimeout) fun e he => ?_).imp_right .inl
      rcases List.mem_cons.mp he with rfl | he
      · simp
      · exact check.offServer e he
  | failed t₀ t₁ hr cmd hhr hclose heof htimeout =>
      exact (fetched_quiet (.inl hhr) (failure_offServer (by simp))).imp_right .inl
  | null t₀ t₁ hr hhr =>
      exact (fetched_quiet (.inr rfl) (by simp)).imp_right .inl
  | closeCommand t₀ t₁ t₂ t₃ hr cmd hhr hcode =>
      have hopen : Unanswered cmd [] := ⟨.inl hcode, by simp⟩
      have hleft : LeavesOpen (delivered device c.commandTimeoutMs hr cmd t₀ t₁ t₂ t₃ ++ []) :=
        delivered_leavesOpen hhr (by simp) hopen
      rw [List.append_nil] at hleft
      exact ⟨delivered_conducted .., .inr ⟨rfl, hleft⟩⟩
  | refused t₀ t₁ t₂ t₃ hr cmd hhr refused =>
      exact ⟨(delivered_conducted ..).append_offServer refused.offServer,
        .inr ⟨rfl, delivered_leavesOpen hhr refused.offServer refused.unanswered⟩⟩
  | served t₀ t₁ t₂ t₃ hr cmd hhr hcode stored completed =>
      have howing : serverLedger.Owing (device, cmd)
          (delivered device c.commandTimeoutMs hr cmd t₀ t₁ t₂ t₃) := delivered_owing hhr
      have hpre := delivered_conducted device c.commandTimeoutMs hr cmd t₀ t₁ t₂ t₃
      obtain ⟨hconducted, hsettled⟩ :=
        completed.conducted (hpre.append_offServer stored.offServer)
          (howing.append_silent fun e he => (stored.offServer e he).silent)
      exact ⟨hconducted, .inl hsettled⟩

/-- Any number of turns. -/
theorem LoopRun.conducted {start : UInt64} {devices : List Device} {c c' : Client} {k : Nat}
    {es : List Event} {flow : Flow} (h : LoopRun start devices c k es flow c') :
    Conducted es ∧ (serverLedger.Settled es ∨ flow = .stop ∧ LeavesOpen es) := by
  induction h with
  | start => exact ⟨⟨always_nil, by simp⟩, .inl rfl⟩
  | turn before served turn ih =>
      obtain ⟨hconducted, hsettled | ⟨hstop, -⟩⟩ := ih
      · obtain ⟨hturn, hend⟩ := turn.conducted
        refine ⟨hconducted.append hsettled hturn, ?_⟩
        exact hend.imp hsettled.append_iff.mpr (And.imp_right fun h => h.prepend hsettled)
      · cases hstop

theorem Event.AroundLoop.offServer {e : Event} (h : e.AroundLoop) : e.OffServer := by
  cases e with
  | log line => cases line <;> first | exact h.elim | trivial
  | getCommand | completeCommand => exact h.elim
  | _ => trivial

/-- A call of `process_commands` keeps the books orderly and leaves at most one command open. -/
theorem CommandRun.conducted {c c' : Client} {es : List Event} {returned : Bool}
    (h : CommandRun c es returned c') :
    Conducted es ∧ (serverLedger.Settled es ∨ LeavesOpen es) := by
  have hquiet : ∀ {es : List Event}, (∀ e ∈ es, e.AroundLoop) →
      Conducted es ∧ serverLedger.Settled es := fun hes =>
    ⟨⟨.of_silent fun e he => (hes e he).offServer.silent,
        fun e he => (hes e he).offServer.faithful⟩,
      Ledger.Silent.settled fun e he => (hes e he).offServer.silent⟩
  rcases h.frame with hes |
    ⟨before, loop, after, start, devices, k, flow, c₁, rfl, hbefore, hafter, run⟩
  · exact (hquiet hes).imp_right .inl
  · obtain ⟨hconducted, hsettled⟩ := hquiet hbefore
    obtain ⟨hloop, hend⟩ := run.conducted
    refine ⟨(hconducted.append hsettled hloop).append_offServer fun e he =>
      (hafter e he).aroundLoop.offServer, ?_⟩
    rcases hend with hend | ⟨-, hopen⟩
    · exact .inl ((hsettled.append_iff.mpr hend).append_silent fun e he =>
        (hafter e he).aroundLoop.offServer.silent)
    · exact .inr ((hopen.prepend hsettled).append_offServer fun e he =>
        (hafter e he).aroundLoop.offServer)

/-! ## The discipline -/

/-- What the server may rely on: completions follow deliveries one by one, on the same device and
with the command's own size and position, and only the last delivery can stay unanswered. -/
structure CompletionDiscipline (es : List Event) : Prop where
  /-- At every moment the completions are the deliveries, or all but the last. -/
  follows : Throughout (fun pre => completions pre <+: deliveries pre ∧
    (deliveries pre).length ≤ (completions pre).length + 1) es
  /-- `GetCommand` is only called when every command delivered has been completed. -/
  polls : Always (fun pre e => e.Polls → deliveries pre = completions pre) es
  /-- `CompleteCommand` is only called for the one command delivered and not yet completed. -/
  completes : Always (fun pre e => ∀ x, completion e = some x →
    deliveries pre = completions pre ++ [x]) es
  /-- It reports success, with the size and the position of the command. -/
  reports : ∀ device cmd code size position hr,
    .completeCommand device cmd code size position hr ∈ es →
      code = errorSuccess ∧ size = cmd.size ∧ position = cmd.position
  /-- In the end every command is completed, or the last one stays open for a reason. -/
  ends : deliveries es = completions es ∨
    ∃ pre device timeout hr cmd post,
      es = pre ++ .getCommand device timeout hr (some cmd) :: post ∧ failed hr = false ∧
        deliveries pre = completions pre ∧ deliveries es = completions es ++ [(device, cmd)] ∧
        Unanswered cmd post
  /-- `dispatch_command` never fails. -/
  dispatches : .log .commandDispatchFailed ∉ es

/-- **Completion discipline.**  Every call of `process_commands` observes it, on any client, with
any number of devices, whatever the environment answers and however long it is watched. -/
theorem processCommands_completionDiscipline (env : Env ω σ) (fuel : Nat) (client : Client)
    (outside : Outside ω σ) : CompletionDiscipline (commandTrace env fuel client outside) := by
  have run := runCommands_commandRun env fuel client outside
  obtain ⟨hconducted, hend⟩ := run.conducted
  refine ⟨?_, ?_, ?_, ?_, hend, ?_⟩
  · refine hconducted.orderly.lagging.imp fun pre hlag => ?_
    rcases hlag with hsettled | ⟨x, howing⟩
    · have heq : deliveries pre = completions pre := hsettled
      rw [heq]
      exact ⟨List.prefix_refl _, Nat.le_succ _⟩
    · have heq : deliveries pre = completions pre ++ [x] := howing
      rw [heq]
      exact ⟨List.prefix_append _ _, by simp⟩
  · exact hconducted.orderly.imp fun pre e _ fits => fits.boundary
  · exact hconducted.orderly.imp fun pre e _ fits => fits.attempt
  · intro device cmd code size position hr hmem
    exact hconducted.faithful _ hmem
  · intro hmem
    exact hconducted.faithful _ hmem rfl

end Vdi
