import VdiWrapper.Lifecycle
import VdiWrapper.Scripted

/-!
# Shutdown sequencing

How a call of `process_commands` ends.  The last answer of `GetCommand` decides: `VD_E_CLOSE` and
`VD_E_EOF` put the client into `FLUSHING`, and what follows the loop then flushes, releases and
closes in the documented order; a `VDC_Close` command leaves the loop in `STREAMING` and only the
devices are released.
-/

namespace Vdi

open Runs

variable {ω σ : Type}

/-- What a `GetCommand` answered. -/
def pollAnswer : Event → Option (HResult × Option VdcCommand)
  | .getCommand _ _ hr cmd => some (hr, cmd)
  | _ => none

def pollAnswers (es : List Event) : List (HResult × Option VdcCommand) := es.filterMap pollAnswer

@[simp] theorem pollAnswers_append (es es' : List Event) :
    pollAnswers (es ++ es') = pollAnswers es ++ pollAnswers es' :=
  List.filterMap_append

/-- The failure code by which the server ends the session. -/
def EndsStream (hr : HResult) : Prop := hr = vdEClose ∨ hr = vdEEof

instance : DecidablePred EndsStream := fun _ => inferInstanceAs (Decidable (_ ∨ _))

/-- The sentinel command by which it asks the client to stop. -/
def AsksToClose (hr : HResult) (cmd : Option VdcCommand) : Prop :=
  failed hr = false ∧ ∃ c, cmd = some c ∧ c.commandCode = vdcClose

/-- A close signal: `VD_E_CLOSE`, `VD_E_EOF` or a `VDC_Close` command. -/
def CloseSignal (answer : HResult × Option VdcCommand) : Prop :=
  EndsStream answer.1 ∨ AsksToClose answer.1 answer.2

theorem EndsStream.failed {hr : HResult} (h : EndsStream hr) : failed hr = true := by
  rcases h with rfl | rfl
  · exact failed_vdEClose
  · exact failed_vdEEof

theorem EndsStream.not_asksToClose {hr : HResult} {cmd : Option VdcCommand} (h : EndsStream hr) :
    ¬ AsksToClose hr cmd := fun hask => by
  have hfailed := h.failed
  rw [hask.1] at hfailed
  cases hfailed

/-! ## What the last turn answered -/

/-- An event that is no `GetCommand`. -/
@[simp] def Event.NoPoll : Event → Prop
  | .getCommand .. => False
  | _ => True

theorem pollAnswers_eq_nil {es : List Event} (h : ∀ e ∈ es, e.NoPoll) : pollAnswers es = [] := by
  apply List.filterMap_eq_nil_iff.mpr
  intro e he
  have hno := h e he
  cases e <;> first | exact hno.elim | rfl

theorem Event.AroundLoop.noPoll {e : Event} (h : e.AroundLoop) : e.NoPoll := by
  cases e <;> first | exact h.elim | trivial

theorem fetched_pollAnswers {device : Device} {timeout : UInt32} {hr : HResult}
    {cmd : Option VdcCommand} {t₀ t₁ : UInt64} {rest : List Event}
    (h : ∀ e ∈ rest, e.NoPoll) :
    pollAnswers (fetched device timeout hr cmd t₀ t₁ ++ rest) = [(hr, cmd)] := by
  rw [pollAnswers_append, pollAnswers_eq_nil h]
  rfl

theorem StallCheck.noPoll {now : UInt64} {c c' : Client} {es : List Event}
    (h : StallCheck now c es c') : ∀ e ∈ es, e.NoPoll := by
  cases h <;> simp

theorem Refused.noPoll {cmd : VdcCommand} {c c' : Client} {es : List Event}
    (h : Refused cmd c es c') : ∀ e ∈ es, e.NoPoll := by
  cases h <;> simp [failure]

theorem Stored.noPoll {cmd : VdcCommand} {c c' : Client} {es : List Event} {sinkUs : UInt64}
    (h : Stored cmd c es sinkUs c') : ∀ e ∈ es, e.NoPoll := by
  cases h <;> simp

theorem Completed.noPoll {device : Device} {cmd : VdcCommand} {times : StageTimes}
    {c c' : Client} {es : List Event} {flow : Flow} (h : Completed device cmd times c es flow c') :
    ∀ e ∈ es, e.NoPoll := by
  cases h <;> simp [failure]

/-- How a turn went, by what `GetCommand` answered: the stream ended, the server asked to close, or
the answer was no close signal. -/
inductive Answered (device : Device) (c : Client) (hr : HResult) (cmd : Option VdcCommand) :
    List Event → Flow → Client → Prop
  | ended {c' : Client} (t₀ t₁ : UInt64) (hends : EndsStream hr) (hstate : c'.state = .flushing) :
      Answered device c hr cmd
        (fetched device c.commandTimeoutMs hr cmd t₀ t₁ ++
          [.transition c.state .flushing, .sinkFlush]) .stop c'
  | asked {es : List Event} {c' : Client} (hask : AsksToClose hr cmd)
      (hstate : c'.state = c.state) : Answered device c hr cmd es .stop c'
  | other {es : List Event} {flow : Flow} {c' : Client} (hother : ¬ CloseSignal (hr, cmd)) :
      Answered device c hr cmd es flow c'

theorem Iteration.answered {start : UInt64} {device : Device} {c c' : Client} {es : List Event}
    {flow : Flow} (h : Iteration start device c es flow c') :
    ∃ hr cmd, pollAnswers es = [(hr, cmd)] ∧ Answered device c hr cmd es flow c' := by
  cases h with
  | closed t₀ t₁ hr cmd hhr =>
      exact ⟨hr, cmd, fetched_pollAnswers (by simp), .ended t₀ t₁ hhr rfl⟩
  | timedOut t₀ t₁ cmd check =>
      refine ⟨vdETimeout, cmd, fetched_pollAnswers ?_, .other ?_⟩
      · exact List.forall_mem_cons.mpr ⟨trivial, check.noPoll⟩
      · rintro (hends | hask)
        · have hcodes : ¬ EndsStream vdETimeout := by
            unfold EndsStream
            decide
          exact hcodes hends
        · have hfailed := failed_vdETimeout
          rw [hask.1] at hfailed
          cases hfailed
  | failed t₀ t₁ hr cmd hhr hclose heof htimeout =>
      refine ⟨hr, cmd, fetched_pollAnswers (by simp [failure]), .other ?_⟩
      rintro (hends | hask)
      · rcases hends with rfl | rfl
        · exact hclose rfl
        · exact heof rfl
      · rw [hask.1] at hhr
        cases hhr
  | null t₀ t₁ hr hhr =>
      refine ⟨hr, none, fetched_pollAnswers (by simp), .other ?_⟩
      rintro (hends | ⟨-, c, hc, -⟩)
      · rw [hends.failed] at hhr
        cases hhr
      · cases hc
  | closeCommand t₀ t₁ t₂ t₃ hr cmd hhr hcode =>
      exact ⟨hr, some cmd, fetched_pollAnswers (by simp), .asked ⟨hhr, cmd, rfl, hcode⟩ rfl⟩
  | refused t₀ t₁ t₂ t₃ hr cmd hhr refused =>
      have hcode : cmd.commandCode = vdcWrite := by cases refused <;> assumption
      rw [delivered, List.append_assoc]
      refine ⟨hr, some cmd, fetched_pollAnswers ?_, .other ?_⟩
      · exact List.forall_mem_append.mpr ⟨by simp, refused.noPoll⟩
      · rintro (hends | ⟨-, c, hc, hclose⟩)
        · rw [hends.failed] at hhr
          cases hhr
        · cases hc
          rw [hcode] at hclose
          exact absurd hclose (by decide)
  | served t₀ t₁ t₂ t₃ hr cmd hhr hcode stored completed =>
      rw [delivered, List.append_assoc, List.append_assoc]
      refine ⟨hr, some cmd, fetched_pollAnswers ?_, .other ?_⟩
      · exact List.forall_mem_append.mpr
          ⟨by simp, List.forall_mem_append.mpr ⟨stored.noPoll, completed.noPoll⟩⟩
      · rintro (hends | ⟨-, c, hc, hclose⟩)
        · rw [hends.failed] at hhr
          cases hhr
        · cases hc
          exact hcode hclose

/-- A loop that goes on has met no close signal. -/
theorem LoopRun.no_signal {start : UInt64} {devices : List Device} {c c' : Client} {k : Nat}
    {es : List Event} (h : LoopRun start devices c k es .next c') :
    ∀ a ∈ pollAnswers es, ¬ CloseSignal a := by
  generalize hflow : Flow.next = flow at h
  induction h with
  | start => simp [pollAnswers]
  | turn before served turn ih =>
      obtain ⟨hr, cmd, hanswers, hways⟩ := turn.answered
      intro a ha
      rw [pollAnswers_append, List.mem_append, hanswers, List.mem_singleton] at ha
      rcases ha with ha | rfl
      · exact ih rfl a ha
      · cases hways with
        | ended | asked => cases hflow
        | other hother => exact hother

/-! ## The order of effects -/

/-- The calls whose order the shutdown fixes. -/
@[simp] def Event.isEffect : Event → Bool
  | .sinkWrite .. | .sinkFlush | .deviceRelease _ | .setClose _ | .setRelease _ => true
  | _ => false

def effects (es : List Event) : List Event := es.filter Event.isEffect

@[simp] theorem effects_append (es es' : List Event) :
    effects (es ++ es') = effects es ++ effects es' :=
  List.filter_append es es'

/-- The documented order: the writes, the flush, the release of every device opened, and then,
perhaps after another flush, the close and the release of the device set. -/
def DocumentedOrder (deviceSet : Option DeviceSet) (es : List Event) : Prop :=
  ∃ ds writes n k, deviceSet = some ds ∧ (∀ e ∈ writes, ∃ cmd ok, e = .sinkWrite cmd ok) ∧
    effects es = writes ++ List.replicate (n + 1) .sinkFlush ++
      (openedDevices es).map .deviceRelease ++ List.replicate k .sinkFlush ++
      [.setClose ds, .setRelease ds]

/-- A turn that goes on does not flush. -/
theorem Iteration.no_flush {start : UInt64} {device : Device} {c c' : Client} {es : List Event}
    (h : Iteration start device c es .next c') : .sinkFlush ∉ es := by
  cases h with
  | timedOut t₀ t₁ cmd check => cases check <;> simp [fetched]
  | null => simp [fetched]
  | served t₀ t₁ t₂ t₃ hr cmd hhr hcode stored completed =>
      cases completed
      cases stored <;> simp [delivered, fetched]

theorem LoopRun.no_flush {start : UInt64} {devices : List Device} {c c' : Client} {k : Nat}
    {es : List Event} (h : LoopRun start devices c k es .next c') : .sinkFlush ∉ es := by
  generalize hflow : Flow.next = flow at h
  induction h with
  | start => simp
  | turn before served turn ih =>
      subst hflow
      simp [ih rfl, turn.no_flush]

/-- The effects of a loop that goes on are writes. -/
theorem LoopRun.effects_writes {start : UInt64} {devices : List Device} {c c' : Client} {k : Nat}
    {es : List Event} (h : LoopRun start devices c k es .next c') :
    ∀ e ∈ effects es, ∃ cmd ok, e = .sinkWrite cmd ok := by
  intro e he
  obtain ⟨hmem, heffect⟩ := List.mem_filter.mp he
  have hloop := h.inLoop e hmem
  cases e with
  | sinkWrite cmd ok => exact ⟨cmd, ok, rfl⟩
  | sinkFlush => exact absurd hmem h.no_flush
  | deviceRelease | setClose | setRelease => exact hloop.elim
  | _ => cases heffect

theorem effects_opening {ds : DeviceSet} {name : String} {opened : List (HResult × Device)} :
    effects (opening ds name opened) = [] := by
  apply List.filter_eq_nil_iff.mpr
  intro e he
  obtain ⟨p, -, rfl⟩ := List.mem_map.mp he
  simp

/-- What follows the loop of a stream that ended. -/
theorem effects_finishing {devices : List Device} {c : Client} {ds : DeviceSet}
    (hstate : c.state = .flushing) (hopen : c.devicesClosed = false)
    (hset : c.deviceSet = some ds) :
    effects (finishing devices c) =
      devices.map .deviceRelease ++ [.sinkFlush, .setClose ds, .setRelease ds] := by
  have hreleases : effects (devices.map .deviceRelease) = devices.map .deviceRelease := by
    apply List.filter_eq_self.mpr
    intro e he
    obtain ⟨device, -, rfl⟩ := List.mem_map.mp he
    rfl
  rw [finishing, if_pos ⟨hstate, hopen⟩, effects_append, effects_append, hreleases]
  simp [closing, closingFlush, closingSet, hstate, hset, effects, List.filter_cons]

/-! ## The end of a call -/

/-- The answer that ended the call: that of its last `GetCommand`. -/
def lastAnswer (es : List Event) : Option (HResult × Option VdcCommand) :=
  (pollAnswers es).getLast?

/-- The call returned in `CLOSED`, with its effects in the documented order. -/
structure ShutDown (deviceSet : Option DeviceSet) (es : List Event) (returned : Bool)
    (c : Client) : Prop where
  returned : returned = true
  closed : c.state = .closed
  order : DocumentedOrder deviceSet es

theorem pollAnswers_opening {ds : DeviceSet} {name : String} {opened : List (HResult × Device)} :
    pollAnswers (opening ds name opened) = [] :=
  pollAnswers_eq_nil fun e he => (opening_aroundLoop e he).noPoll

theorem pollAnswers_finishing {devices : List Device} {c : Client} :
    pollAnswers (finishing devices c) = [] :=
  pollAnswers_eq_nil fun e he => (finishing_afterLoop e he).aroundLoop.noPoll

/-- A call whose last answer is a close signal got through the loop and stopped there, in the turn
that was answered so. -/
theorem CommandRun.signalled {c c' : Client} {es : List Event} {returned : Bool} {hr : HResult}
    {cmd : Option VdcCommand} (h : CommandRun c es returned c')
    (hlast : lastAnswer es = some (hr, cmd)) (hsignal : CloseSignal (hr, cmd)) :
    ∃ ds opened start k es₀ c₀ device es₁ c₁,
      c.state = .streaming ∧ c.deviceSet = some ds ∧ (∀ p ∈ opened, failed p.1 = false) ∧
      returned = true ∧ c' = c₁.finished ∧
      es = opening ds c.deviceName opened ++ .nowUs start :: (es₀ ++ es₁) ++
        finishing (opened.map Prod.snd) c₁ ∧
      LoopRun start (opened.map Prod.snd) (c.streamingSince start) k es₀ .next c₀ ∧
      Iteration start device c₀ es₁ .stop c₁ ∧ Answered device c₀ hr cmd es₁ .stop c₁ := by
  have hpolled : pollAnswers es ≠ [] := by
    intro hnil
    rw [lastAnswer, hnil] at hlast
    cases hlast
  cases h with
  | wrongState | noDeviceSet => exact absurd rfl hpolled
  | openFailed =>
      refine absurd ?_ hpolled
      rw [pollAnswers_append, pollAnswers_opening]
      rfl
  | serving hstate hset hopened hcount run =>
      have hpolls : ∀ start rest, pollAnswers (.nowUs start :: rest) = pollAnswers rest :=
        fun _ _ => rfl
      rw [lastAnswer, pollAnswers_append, pollAnswers_opening, List.nil_append, hpolls] at hlast
      exact absurd hsignal (run.no_signal _ (List.mem_of_getLast? hlast))
  | @served ds opened start k loop c₁ hstate hset hopened hcount run =>
      obtain ⟨k₀, es₀, c₀, device, es₁, rfl, rfl, before, served, turn⟩ := run.last
      obtain ⟨hr', cmd', hanswers, hways⟩ := turn.answered
      have hpolls : pollAnswers (opening ds c.deviceName opened ++ .nowUs start :: (es₀ ++ es₁) ++
          finishing (opened.map Prod.snd) c₁) = pollAnswers es₀ ++ [(hr', cmd')] := by
        rw [pollAnswers_append, pollAnswers_append, pollAnswers_opening, pollAnswers_finishing,
          List.append_nil, List.nil_append, ← hanswers, ← pollAnswers_append]
        rfl
      rw [lastAnswer, hpolls, List.getLast?_append] at hlast
      cases hlast
      exact ⟨ds, opened, start, k₀, es₀, c₀, device, es₁, c₁, hstate, hset, hopened, rfl, rfl,
        rfl, before, turn, hways⟩

/-- A call that ended on `VD_E_CLOSE` or `VD_E_EOF` shut the session down in order. -/
theorem CommandRun.shutDown {c c' : Client} {es : List Event} {returned : Bool} {hr : HResult}
    {cmd : Option VdcCommand} (h : CommandRun c es returned c') (hlife : Lifecycle c)
    (hlast : lastAnswer es = some (hr, cmd)) (hends : EndsStream hr) :
    ShutDown c.deviceSet es returned c' := by
  obtain ⟨ds, opened, start, k, es₀, c₀, device, es₁, c₁, hstate, hset, hopened, rfl, rfl, rfl,
    before, turn, hways⟩ := h.signalled hlast (.inl hends)
  have hopen : c.devicesClosed = false := hlife.open_of_state (by simp [hstate])
  obtain ⟨hset₀, hclosed₀⟩ := before.keeps
  have hsession := turn.session
  simp only [Client.session, Prod.mk.injEq] at hsession
  have hset₁ : c₁.deviceSet = some ds := by rw [hsession.1, hset₀, hset]
  have hopen₁ : c₁.devicesClosed = false := by rw [hsession.2.1, hclosed₀, hopen]
  cases hways with
  | asked hask hstate₁ => exact absurd hask hends.not_asksToClose
  | other hother => exact absurd (.inl hends) hother
  | ended t₀ t₁ _ hflushing =>
      have hdevices : openedDevices (opening ds c.deviceName opened ++ .nowUs start ::
          (es₀ ++ (fetched device c₀.commandTimeoutMs hr cmd t₀ t₁ ++
            [.transition c₀.state .flushing, .sinkFlush])) ++
          finishing (opened.map Prod.snd) c₁) = opened.map Prod.snd := by
        have hloop : openedDevices (.nowUs start ::
            (es₀ ++ (fetched device c₀.commandTimeoutMs hr cmd t₀ t₁ ++
              [.transition c₀.state .flushing, .sinkFlush]))) = [] := by
          have hcons : ∀ rest, openedDevices (.nowUs start :: rest) = openedDevices rest :=
            fun _ => rfl
          rw [hcons, openedDevices_append, before.openedDevices_eq]
          rfl
        rw [openedDevices_append, openedDevices_append, openedDevices_opening hopened, hloop,
          openedDevices_finishing, List.append_nil, List.append_nil]
      refine ⟨rfl, ?_, ds, effects es₀, 0, 1, hset, before.effects_writes, ?_⟩
      · unfold Client.finished
        rw [if_pos ⟨hflushing, hopen₁⟩]
        rfl
      · have hcons : ∀ rest, effects (.nowUs start :: rest) = effects rest := fun _ => rfl
        have hlastTurn : effects (fetched device c₀.commandTimeoutMs hr cmd t₀ t₁ ++
            [.transition c₀.state .flushing, .sinkFlush]) = [.sinkFlush] := rfl
        rw [hdevices, effects_append, effects_append, effects_opening, hcons, effects_append,
          hlastTurn, effects_finishing hflushing hopen₁ hset₁]
        simp

/-- Only the end of the stream leads from `STREAMING` to `FLUSHING`. -/
theorem Iteration.ended_of_flushing {start : UInt64} {device : Device} {c c' : Client}
    {es : List Event} (h : Iteration start device c es .stop c') (hstate : c.state = .streaming)
    (hflushing : c'.state = .flushing) :
    ∃ hr cmd t₀ t₁, EndsStream hr ∧ es = fetched device c.commandTimeoutMs hr cmd t₀ t₁ ++
      [.transition c.state .flushing, .sinkFlush] := by
  cases h with
  | closed t₀ t₁ hr cmd hhr => exact ⟨hr, cmd, t₀, t₁, hhr, rfl⟩
  | failed => cases hflushing
  | closeCommand =>
      rw [hstate] at hflushing
      cases hflushing
  | refused t₀ t₁ t₂ t₃ hr cmd hhr refused =>
      rw [refused.state_session.1] at hflushing
      cases hflushing
  | served t₀ t₁ t₂ t₃ hr cmd hhr hcode stored completed => cases completed <;> cases hflushing

/-- The trace of a call that ended in `CLOSED`: the loop went on until `closer` was polled and the
stream had ended. -/
inductive ClosedRun (c : Client) : List Event → Prop
  | mk {before loop after : List Event} {start : UInt64} {devices : List Device} {k : Nat}
      {c₀ : Client} {closer : Device} {hr : HResult} {cmd : Option VdcCommand} {t₀ t₁ : UInt64}
      (hbefore : ∀ e ∈ before, e.AroundLoop) (hopened : openedDevices before = devices)
      (run : LoopRun start devices (c.streamingSince start) k loop .next c₀)
      (served : devices[k % devices.length]? = some closer) (hends : EndsStream hr)
      (hafter : ∀ e ∈ after, e.AfterLoop) :
      ClosedRun c (before ++ loop ++ fetched closer c₀.commandTimeoutMs hr cmd t₀ t₁ ++
        .transition c₀.state .flushing :: .sinkFlush :: after)

theorem CommandRun.closedRun {c c' : Client} {es : List Event} {returned : Bool}
    (h : CommandRun c es returned c') (hstate : c.state = .streaming)
    (hclosed : c'.state = .closed) : ClosedRun c es := by
  cases h with
  | wrongState hother => exact absurd hstate hother
  | noDeviceSet =>
      rw [hstate] at hclosed
      cases hclosed
  | openFailed => cases hclosed
  | serving _ hset hopened hcount run =>
      rw [run.state_of_next, Client.streamingSince_state, hstate] at hclosed
      cases hclosed
  | @served ds opened start k loop c₁ _ hset hopened hcount run =>
      obtain ⟨k₀, es₀, c₀, closer, es₁, rfl, rfl, before, served, turn⟩ := run.last
      have hstate₀ : c₀.state = .streaming := before.state_of_next.trans hstate
      have hflushing : c₁.state = .flushing := by
        unfold Client.finished at hclosed
        split at hclosed
        · next hfinish => exact hfinish.1
        · rcases turn.state_of_stop with hway | hway | hway
          · exact hway
          · rw [hway] at hclosed
            cases hclosed
          · rw [hway, hstate₀] at hclosed
            cases hclosed
      obtain ⟨hr, cmd, t₀, t₁, hends, rfl⟩ := turn.ended_of_flushing hstate₀ hflushing
      have hfront : ∀ e ∈ opening ds c.deviceName opened ++ [.nowUs start], e.AroundLoop :=
        List.forall_mem_append.mpr ⟨opening_aroundLoop, by simp⟩
      have hdevices : openedDevices (opening ds c.deviceName opened ++ [.nowUs start]) =
          opened.map Prod.snd := by
        rw [openedDevices_append, openedDevices_opening hopened]
        exact List.append_nil _
      have hrun : ClosedRun c ((opening ds c.deviceName opened ++ [.nowUs start]) ++ es₀ ++
          fetched closer c₀.commandTimeoutMs hr cmd t₀ t₁ ++
          .transition c₀.state .flushing :: .sinkFlush :: finishing (opened.map Prod.snd) c₁) :=
        .mk hfront hdevices before served hends finishing_afterLoop
      simpa using hrun

/-- A call that ended on `VDC_Close` leaves the state as it was. -/
theorem CommandRun.state_of_asked {c c' : Client} {es : List Event} {returned : Bool}
    {hr : HResult} {cmd : Option VdcCommand} (h : CommandRun c es returned c')
    (hlast : lastAnswer es = some (hr, cmd)) (hask : AsksToClose hr cmd) :
    c'.state = .streaming := by
  obtain ⟨ds, opened, start, k, es₀, c₀, device, es₁, c₁, hstate, hset, hopened, rfl, rfl, rfl,
    before, turn, hways⟩ := h.signalled hlast (.inr hask)
  cases hways with
  | ended t₀ t₁ hends hflushing => exact absurd hask hends.not_asksToClose
  | other hother => exact absurd (.inr hask) hother
  | asked _ hstate₁ =>
      have hstreaming : c₁.state = .streaming := by
        rw [hstate₁, before.state_of_next]
        exact hstate
      unfold Client.finished
      rw [if_neg (by simp [hstreaming])]
      exact hstreaming

/-- **Shutdown sequencing.**  For any client that made any public calls before, a call of
`process_commands` that is ended by a close signal returns in `CLOSED` with its effects in the
documented order exactly when the signal is `VD_E_CLOSE` or `VD_E_EOF`. -/
theorem shutDown_iff_endsStream {σ : Type} (env : Env ω σ) (enableLogging : Bool)
    (faultInjector : FaultInjector) (outside : Outside ω σ) (calls : List ApiCall) (fuel : Nat)
    (outside' : Outside ω σ) (hr : HResult) (cmd : Option VdcCommand) :
    let client := (session env enableLogging faultInjector outside calls).client
    lastAnswer (commandTrace env fuel client outside') = some (hr, cmd) →
    CloseSignal (hr, cmd) →
    (ShutDown client.deviceSet (commandTrace env fuel client outside')
        (runCommands env fuel client outside').1 (runCommands env fuel client outside').2.client ↔
      EndsStream hr) := by
  intro client hlast hsignal
  have hlife : Lifecycle client :=
    session_lifecycle env enableLogging faultInjector outside calls
  have run := runCommands_commandRun env fuel client outside'
  constructor
  · intro hshut
    rcases hsignal with hends | hask
    · exact hends
    · have hstate := run.state_of_asked hlast hask
      rw [hshut.closed] at hstate
      cases hstate
  · exact run.shutDown hlife hlast

/-- One write and then `VD_E_CLOSE`: the session is shut down in order. -/
theorem shutDown_after_vdEClose :
    let env := scriptedEnv nullSink
    let start := scriptedStart [[deliver (oneByte 7)]] ()
    let client := (session env false {} start [.connect "backup" 1, .openDevices]).client
    ShutDown client.deviceSet (commandTrace env 2 client start) (runCommands env 2 client start).1
      (runCommands env 2 client start).2.client :=
  (shutDown_iff_endsStream (scriptedEnv nullSink) false {}
    (scriptedStart [[deliver (oneByte 7)]] ()) [.connect "backup" 1, .openDevices] 2
    (scriptedStart [[deliver (oneByte 7)]] ()) vdEClose none (by decide +kernel)
    (.inl (.inl rfl))).mpr (.inl rfl)

/-- One write and then a `VDC_Close` command: the call returns in `STREAMING`, with the sink not
flushed and the device set still open. -/
theorem not_shutDown_after_vdcClose :
    let env := scriptedEnv nullSink
    let start := scriptedStart [[deliver (oneByte 7), deliver (bareCommand vdcClose)]] ()
    let client := (session env false {} start [.connect "backup" 1, .openDevices]).client
    (runCommands env 2 client start).1 = true ∧
      lastAnswer (commandTrace env 2 client start) = some (deliver (bareCommand vdcClose)) ∧
      CloseSignal (deliver (bareCommand vdcClose)) ∧
      effects (commandTrace env 2 client start) =
        [.sinkWrite (oneByte 7) true, .deviceRelease 0] ∧
      (runCommands env 2 client start).2.client.state = .streaming ∧
      ¬ ShutDown client.deviceSet (commandTrace env 2 client start)
        (runCommands env 2 client start).1 (runCommands env 2 client start).2.client := by
  intro env start client
  have hstate : (runCommands env 2 client start).2.client.state = .streaming := by decide +kernel
  refine ⟨by decide +kernel, by decide +kernel, .inr ⟨rfl, _, rfl, rfl⟩, by decide +kernel, hstate,
    fun h => ?_⟩
  have hclosed := h.closed
  rw [hstate] at hclosed
  cases hclosed

end Vdi
