import VdiWrapper.Session

/-!
# The session lifecycle

The state machine of `SessionState`, read off the assignments to `state_` in the trace, and the
invariant that ties `state_`, `devices_closed_` and `device_set_` together between public calls.
-/

namespace Vdi

open Runs

variable {ω σ : Type} {env : Env ω σ} {m m' : Machine ω σ}

/-- The edges of the state machine. -/
inductive Edge : SessionState → SessionState → Prop
  | connected : Edge .init .connected
  | connectFailed : Edge .init .failed
  | opened : Edge .connected .streaming
  | openFailed : Edge .connected .failed
  | flushing : Edge .streaming .flushing
  | streamFailed : Edge .streaming .failed
  | flushed : Edge .flushing .closed
  /-- Any state but `CLOSED` itself can be closed. -/
  | closed {src : SessionState} (hsrc : src ≠ .closed) : Edge src .closed

/-- Only an assignment to `state_` moves it, and only along an edge. -/
def StateStep (s : SessionState) (e : Event) (s' : SessionState) : Prop :=
  match e with
  | .transition src dst => src = s ∧ dst = s' ∧ Edge src dst
  | _ => s' = s

/-- The trace takes `state_` from `s` to `s'`, along edges only. -/
abbrev StatePath (s : SessionState) (es : List Event) (s' : SessionState) : Prop :=
  Path StateStep s es s'

/-- An event that does not assign to `state_`. -/
@[simp] def Event.Steady : Event → Prop
  | .transition .. => False
  | _ => True

theorem statePath_of_steady {s : SessionState} {es : List Event} (h : ∀ e ∈ es, e.Steady) :
    StatePath s es s := by
  apply Path.idle
  intro e he
  have hsteady := h e he
  cases e <;> first | exact hsteady.elim | rfl

theorem statePath_failure {line : LogLine} {c : Client} (h : Edge c.state .failed) :
    StatePath c.state (failure line c) .failed :=
  .cons rfl (.single ⟨rfl, rfl, h⟩)

/-! ## The loop -/

theorem fetched_steady {device : Device} {timeout : UInt32} {hr : HResult}
    {cmd : Option VdcCommand} {t₀ t₁ : UInt64} :
    ∀ e ∈ fetched device timeout hr cmd t₀ t₁, e.Steady := by
  simp [fetched]

theorem delivered_steady {device : Device} {timeout : UInt32} {hr : HResult} {cmd : VdcCommand}
    {t₀ t₁ t₂ t₃ : UInt64} : ∀ e ∈ delivered device timeout hr cmd t₀ t₁ t₂ t₃, e.Steady := by
  simp [delivered, fetched]

theorem StallCheck.steady {now : UInt64} {c c' : Client} {es : List Event}
    (h : StallCheck now c es c') : ∀ e ∈ es, e.Steady := by
  cases h <;> simp

theorem Stored.steady {cmd : VdcCommand} {c c' : Client} {es : List Event} {sinkUs : UInt64}
    (h : Stored cmd c es sinkUs c') : ∀ e ∈ es, e.Steady := by
  cases h <;> simp

theorem Refused.statePath {cmd : VdcCommand} {c c' : Client} {es : List Event}
    (h : Refused cmd c es c') (hstate : c.state = .streaming) :
    StatePath c.state es .failed := by
  have hfail : ∀ line, StatePath c.state (failure line c) .failed := fun line =>
    statePath_failure (hstate ▸ .streamFailed)
  cases h with
  | invalid hcode insane => exact hfail _
  | sinkClosed hcode sane => exact .cons rfl (hfail _)
  | rejected hcode sane t₀ => exact .cons rfl (.cons rfl (.cons rfl (hfail _)))

theorem Completed.statePath {device : Device} {cmd : VdcCommand} {times : StageTimes}
    {c c' : Client} {es : List Event} {flow : Flow} (h : Completed device cmd times c es flow c')
    (hstate : c.state = .streaming) : StatePath c.state es c'.state := by
  have hfail : ∀ line, StatePath c.state (failure line c) .failed := fun line =>
    statePath_failure (hstate ▸ .streamFailed)
  cases h with
  | failed t₀ t₁ hr hhr => exact .cons rfl (.cons rfl (.cons rfl (hfail _)))
  | faulted t₀ t₁ hr hhr hfired => exact .cons rfl (.cons rfl (.cons rfl (hfail _)))
  | done t₀ t₁ hr hhr hfired cmd' => exact statePath_of_steady (by simp)

/-- A turn taken in `STREAMING` follows the edges. -/
theorem Iteration.statePath {start : UInt64} {device : Device} {c c' : Client} {es : List Event}
    {flow : Flow} (h : Iteration start device c es flow c') (hstate : c.state = .streaming) :
    StatePath c.state es c'.state := by
  cases h with
  | closed t₀ t₁ hr cmd hhr =>
      apply (statePath_of_steady fetched_steady).append
      exact .cons ⟨rfl, rfl, hstate ▸ .flushing⟩ (.single rfl)
  | timedOut t₀ t₁ cmd check =>
      rw [check.state_session.1]
      refine (statePath_of_steady fetched_steady).append (.cons rfl ?_)
      exact statePath_of_steady check.steady
  | failed t₀ t₁ hr cmd hhr hclose heof htimeout =>
      exact (statePath_of_steady fetched_steady).append
        (statePath_failure (hstate ▸ .streamFailed))
  | null t₀ t₁ hr hhr => exact (statePath_of_steady fetched_steady).append (.single rfl)
  | closeCommand t₀ t₁ t₂ t₃ hr cmd hhr hcode => exact statePath_of_steady delivered_steady
  | refused t₀ t₁ t₂ t₃ hr cmd hhr refused =>
      rw [refused.state_session.1]
      exact (statePath_of_steady delivered_steady).append (refused.statePath hstate)
  | served t₀ t₁ t₂ t₃ hr cmd hhr hcode stored completed =>
      have hstored := stored.state_session.1
      have hpath := completed.statePath (hstored.trans hstate)
      rw [hstored] at hpath
      exact ((statePath_of_steady delivered_steady).append
        (statePath_of_steady stored.steady)).append hpath

/-- So do any number of turns. -/
theorem LoopRun.statePath {start : UInt64} {devices : List Device} {c c' : Client} {k : Nat}
    {es : List Event} {flow : Flow} (h : LoopRun start devices c k es flow c')
    (hstate : c.state = .streaming) : StatePath c.state es c'.state := by
  induction h with
  | start => exact .nil _
  | turn before served turn ih =>
      have hmid := before.state_of_next.trans hstate
      exact ih.append (turn.statePath hmid)

/-! ## The invariant -/

/-- How the fields hang together between public calls. -/
structure Lifecycle (c : Client) : Prop where
  closed_iff : c.state = .closed ↔ c.devicesClosed = true
  not_flushing : c.state ≠ .flushing
  deviceSet : c.state = .connected ∨ c.state = .streaming → c.deviceSet.isSome
  noDeviceSet : c.state = .init ∨ c.state = .closed → c.deviceSet = none

theorem lifecycle_new (enableLogging : Bool) (faultInjector : FaultInjector) :
    Lifecycle (Client.new enableLogging faultInjector) :=
  ⟨by simp [Client.new], by simp [Client.new], by simp [Client.new], fun _ => rfl⟩

theorem lifecycle_closed (c : Client) : Lifecycle c.closed :=
  ⟨by simp [Client.closed], by simp [Client.closed], by simp [Client.closed], fun _ => rfl⟩

/-- A client that is `FAILED` and not closed is consistent whatever else it holds. -/
theorem lifecycle_failed {c : Client} (hstate : c.state = .failed)
    (hopen : c.devicesClosed = false) : Lifecycle c :=
  ⟨by simp [hstate, hopen], by simp [hstate], by simp [hstate], by simp [hstate]⟩

theorem Lifecycle.open_of_state {c : Client} (h : Lifecycle c) (hstate : c.state ≠ .closed) :
    c.devicesClosed = false := by
  by_contra hclosed
  exact hstate (h.closed_iff.mpr (by simpa using hclosed))

/-- What one public call does to the lifecycle. -/
structure Lawful (c : Client) (es : List Event) (c' : Client) : Prop where
  path : StatePath c.state es c'.state
  lifecycle : Lifecycle c'
  deviceSetFound : .log .noDeviceSet ∉ es

/-- A call that assigns nothing that matters here. -/
theorem Lawful.steady {c c' : Client} {es : List Event} (h : Lifecycle c)
    (hes : ∀ e ∈ es, e.Steady) (hlog : .log .noDeviceSet ∉ es) (hstate : c'.state = c.state)
    (hset : c'.deviceSet = c.deviceSet) (hclosed : c'.devicesClosed = c.devicesClosed) :
    Lawful c es c' := by
  refine ⟨hstate ▸ statePath_of_steady hes, ⟨?_, ?_, ?_, ?_⟩, hlog⟩
  · rw [hstate, hclosed]
    exact h.closed_iff
  · rw [hstate]
    exact h.not_flushing
  · rw [hstate, hset]
    exact h.deviceSet
  · rw [hstate, hset]
    exact h.noDeviceSet

theorem closing_statePath {c : Client} (h : c.state ≠ .closed) :
    StatePath c.state (closing c) .closed := by
  have hquiet : ∀ e ∈ closingFlush c ++ closingSet c, e.Steady := by
    unfold closingFlush closingSet
    cases c.deviceSet <;> split <;> simp
  exact (statePath_of_steady hquiet).append (.single ⟨rfl, rfl, .closed h⟩)

theorem uninit_steady {hr : HResult} : ∀ e ∈ uninit hr, e.Steady := by
  unfold uninit
  split <;> simp

theorem ConnectRun.lawful {name : String} {count : Int} {c c' : Client} {es : List Event}
    (h : ConnectRun name count c es c') (hlife : Lifecycle c) (hstate : c.state = .init) :
    Lawful c es c' := by
  have hopen : c.devicesClosed = false := hlife.open_of_state (by simp [hstate])
  have hfail : ∀ line, StatePath c.state (failure line c) .failed := fun line =>
    statePath_failure (hstate ▸ .connectFailed)
  have huninit : ∀ hr s, StatePath s (uninit hr) s := fun hr s =>
    statePath_of_steady uninit_steady
  cases h with
  | comFailed hr hhr =>
      exact ⟨.cons rfl (hfail _), lifecycle_failed rfl hopen, by simp [failure]⟩
  | createFailed hr hr' ds hhr hhr' =>
      refine ⟨?_, lifecycle_failed rfl hopen, by simp [failure, uninit]⟩
      exact (Path.append (.cons rfl (.single rfl)) (hfail _)).append (huninit hr _)
  | createExFailed hr hr' hr'' ds hhr hhr' hhr'' =>
      refine ⟨?_, lifecycle_failed rfl hopen, by simp [uninit]⟩
      refine Path.append ?_ (huninit hr _)
      exact .cons rfl (.cons rfl (.cons rfl (.cons rfl (.cons rfl
        (.single ⟨rfl, rfl, hstate ▸ .connectFailed⟩)))))
  | connected hr hr' hr'' ds hhr hhr' hhr'' =>
      refine ⟨?_, ⟨by simp [hopen], by simp, fun _ => rfl, by simp⟩, by simp [uninit]⟩
      refine Path.append ?_ (huninit hr _)
      exact .cons rfl (.cons rfl (.cons rfl (.single ⟨rfl, rfl, hstate ▸ .connected⟩)))

theorem OpenRun.lawful {c c' : Client} {es : List Event} (h : OpenRun c es c')
    (hlife : Lifecycle c) (hstate : c.state = .connected) : Lawful c es c' := by
  have hopen : c.devicesClosed = false := hlife.open_of_state (by simp [hstate])
  have hsome := hlife.deviceSet (.inl hstate)
  cases h with
  | noDeviceSet hset =>
      rw [hset] at hsome
      cases hsome
  | failed ds hset hr hhr =>
      refine ⟨.cons rfl (statePath_failure (hstate ▸ .openFailed)), lifecycle_failed rfl hopen, ?_⟩
      simp [failure]
  | opened ds hset hr hhr =>
      refine ⟨.cons rfl (.single ⟨rfl, rfl, hstate ▸ .opened⟩), ?_, by simp⟩
      exact ⟨by simp [hopen], by simp, fun _ => by simp [hset], by simp⟩

theorem Client.streamingSince_state (start : UInt64) (c : Client) :
    (c.streamingSince start).state = c.state := rfl

theorem opening_steady {ds : DeviceSet} {name : String} {opened : List (HResult × Device)} :
    ∀ e ∈ opening ds name opened, e.Steady := by
  intro e he
  obtain ⟨p, -, rfl⟩ := List.mem_map.mp he
  trivial

/-- Releasing the devices, closing a flushed session and reporting. -/
theorem finishing_statePath (devices : List Device) {c : Client} (hstate : c.state ≠ .closed) :
    StatePath c.state (finishing devices c) c.finished.state := by
  have hreleases : ∀ e ∈ devices.map Event.deviceRelease, e.Steady := by simp
  refine Path.append (Path.append (statePath_of_steady hreleases) ?_) (.single rfl)
  unfold Client.finished
  split
  · exact closing_statePath hstate
  · exact .nil _

theorem log_not_mem_opening {line : LogLine} {ds : DeviceSet} {name : String}
    {opened : List (HResult × Device)} : .log line ∉ opening ds name opened := by
  simp [opening]

theorem log_not_mem_closing {line : LogLine} {c : Client} : .log line ∉ closing c :=
  fun h => closing_afterLoop _ h

theorem log_not_mem_finishing {line : LogLine} {devices : List Device} {c : Client} :
    .log line ∉ finishing devices c :=
  fun h => finishing_afterLoop _ h

/-- The loop leaves everything the invariant speaks of as it was, except for `state_`. -/
theorem LoopRun.keeps {start : UInt64} {devices : List Device} {c c' : Client} {k : Nat}
    {es : List Event} {flow : Flow}
    (h : LoopRun start devices (c.streamingSince start) k es flow c') :
    c'.deviceSet = c.deviceSet ∧ c'.devicesClosed = c.devicesClosed := by
  have hsession := h.session
  simp only [Client.session, Prod.mk.injEq] at hsession
  exact ⟨hsession.1, hsession.2.1⟩

/-- Any way through `process_commands` is lawful. -/
theorem CommandRun.lawful {c c' : Client} {es : List Event} {returned : Bool}
    (h : CommandRun c es returned c') (hlife : Lifecycle c) : Lawful c es c' := by
  cases h with
  | wrongState hstate => exact Lawful.steady hlife (by simp) (by simp) rfl rfl rfl
  | noDeviceSet hstate hset =>
      have hsome := hlife.deviceSet (.inr hstate)
      rw [hset] at hsome
      cases hsome
  | @openFailed ds opened hr device hstate hset hopened hcount hhr =>
      refine ⟨?_, lifecycle_failed rfl (hlife.open_of_state (by simp [hstate])), ?_⟩
      · exact (statePath_of_steady opening_steady).append
          (.cons rfl (statePath_failure (hstate ▸ .streamFailed)))
      · simp [log_not_mem_opening, failure]
  | @serving ds opened start k es c' hstate hset hopened hcount run =>
      have hpath := run.statePath hstate
      have hend : c'.state = .streaming := run.state_of_next.trans hstate
      have hopen := hlife.open_of_state (by simp [hstate])
      obtain ⟨hkeeps, hclosed⟩ := run.keeps
      refine ⟨(statePath_of_steady opening_steady).append (.cons rfl hpath), ⟨?_, ?_, ?_, ?_⟩, ?_⟩
      · simp [hend, hclosed, hopen]
      · simp [hend]
      · simp [hkeeps, hset]
      · simp [hend]
      · have hloop : .log .noDeviceSet ∉ es := fun hmem => run.inLoop _ hmem
        simp [log_not_mem_opening, hloop]
  | @served ds opened start k es c₁ hstate hset hopened hcount run =>
      have hpath := run.statePath hstate
      have hopen := hlife.open_of_state (by simp [hstate])
      obtain ⟨hkeeps, hclosed⟩ := run.keeps
      have hway : c₁.state = .flushing ∨ c₁.state = .failed ∨ c₁.state = .streaming := by
        rw [← hstate]
        exact run.state_of_stop
      have hnotClosed : c₁.state ≠ .closed := by
        rcases hway with h | h | h <;> simp [h]
      refine ⟨?_, ?_, ?_⟩
      · have hopening : StatePath c.state (opening ds c.deviceName opened ++ [.nowUs start])
            c.state := (statePath_of_steady opening_steady).append (.single rfl)
        have hall := (hopening.append hpath).append
          (finishing_statePath (opened.map Prod.snd) hnotClosed)
        simpa using hall
      · unfold Client.finished
        rw [hclosed, hopen]
        rcases hway with hway | hway | hway
        · rw [if_pos ⟨hway, rfl⟩]
          exact lifecycle_closed c₁
        · rw [if_neg (by simp [hway])]
          exact lifecycle_failed hway (hclosed.trans hopen)
        · rw [if_neg (by simp [hway])]
          exact ⟨by simp [hway, hclosed, hopen], by simp [hway], fun _ => by simp [hkeeps, hset],
            by simp [hway]⟩
      · have hloop : .log .noDeviceSet ∉ es := fun hmem => run.inLoop _ hmem
        simp [log_not_mem_opening, log_not_mem_finishing, hloop]

/-- **Every public call is lawful.** -/
theorem CallRun.lawful {c c' : Client} {call : ApiCall} {es : List Event} {flow : Flow}
    (h : CallRun c call es flow c') (hlife : Lifecycle c) : Lawful c es c' := by
  cases h with
  | connectRefused | openRefused => exact Lawful.steady hlife (by simp) (by simp) rfl rfl rfl
  | connect hstate run => exact run.lawful hlife hstate
  | openDevices hstate run => exact run.lawful hlife hstate
  | served run | serving run => exact run.lawful hlife
  | setCommandTimeout | setFailAfterNChunks | closedAgain =>
      exact Lawful.steady hlife (by simp) (by simp) rfl rfl rfl
  | close hopen =>
      have hstate : c.state ≠ .closed := fun hclosed => by
        rw [hlife.closed_iff, hopen] at hclosed
        cases hclosed
      exact ⟨closing_statePath hstate, lifecycle_closed c, log_not_mem_closing⟩

theorem Lawful.trans {c c' c'' : Client} {es es' : List Event} (h : Lawful c es c')
    (h' : Lawful c' es' c'') : Lawful c (es ++ es') c'' :=
  ⟨h.path.append h'.path, h'.lifecycle, by simp [h.deviceSetFound, h'.deviceSetFound]⟩

theorem SessionRun.lawful {c c' : Client} {es : List Event} {flow : Flow}
    (h : SessionRun c es flow c') (hlife : Lifecycle c) : Lawful c es c' := by
  induction h with
  | start => exact ⟨.nil _, hlife, by simp⟩
  | call before run ih => exact ih.trans (run.lawful ih.lifecycle)

theorem DestroyRun.lawful {c c' : Client} {es : List Event} (h : DestroyRun c es c')
    (hlife : Lifecycle c) : Lawful c es c' := by
  cases h with
  | nothing => exact Lawful.steady hlife (by simp) (by simp) rfl rfl rfl
  | closedAgain => exact Lawful.steady hlife (by simp) (by simp) rfl rfl rfl
  | close hstate hopen =>
      refine ⟨.cons rfl (closing_statePath hstate.1), lifecycle_closed c, ?_⟩
      simp [log_not_mem_closing]

theorem LifetimeRun.lawful {c c' : Client} {es : List Event} {flow : Flow}
    (h : LifetimeRun c es flow c') (hlife : Lifecycle c) : Lawful c es c' := by
  cases h with
  | serving run => exact run.lawful hlife
  | destroyed run destroyed =>
      have hcalls := run.lawful hlife
      exact hcalls.trans (destroyed.lawful hcalls.lifecycle)

/-! ## Safety of the lifecycle -/

theorem Edge.left {src dst : SessionState} (h : Edge src dst) :
    src ≠ .closed ∧ (src = .failed → dst = .closed) := by
  cases h with
  | closed hsrc => exact ⟨hsrc, fun _ => rfl⟩
  | _ => exact ⟨by simp, by simp⟩

/-- The events of a call that is made in a state it is not meant for, or `none` for a call that is
meant for it. -/
def ApiCall.refusal (c : Client) : ApiCall → Option (List Event)
  | .connect .. =>
      if c.state = .init then none else some [.log (.wrongState "connect" c.state)]
  | .openDevices =>
      if c.state = .connected then none else some [.log (.wrongState "open_devices" c.state)]
  | .processCommands _ =>
      if c.state = .streaming then none
      else some [.log (.wrongState "process_commands" c.state)]
  | .close => if c.devicesClosed then some [] else none
  | _ => none

theorem refusal_logs {call : ApiCall} {c : Client} {es : List Event}
    (h : call.refusal c = some es) : ∀ e ∈ es, ∃ line, e = .log line := by
  cases call with
  | connect | openDevices | processCommands =>
      simp only [ApiCall.refusal, Option.ite_none_left_eq_some, Option.some.injEq] at h
      obtain ⟨-, rfl⟩ := h
      simp
  | close =>
      simp only [ApiCall.refusal, Option.ite_none_right_eq_some, Option.some.injEq] at h
      obtain ⟨-, rfl⟩ := h
      simp
  | setCommandTimeout | setFailAfterNChunks => cases h

/-- A refused call logs at most that it is refused; the fields and everything outside stay as they
are. -/
theorem apiCall_refused {call : ApiCall} {es : List Event}
    (h : call.refusal m.client = some es) :
    (call.run env).run m = (.next, { m with trace := m.trace ++ es }) := by
  cases call with
  | connect name count =>
      simp only [ApiCall.refusal, Option.ite_none_left_eq_some, Option.some.injEq] at h
      obtain ⟨hstate, rfl⟩ := h
      have hrun : (connect env name count).run m =
          (false,
            { m with trace := m.trace ++ [.log (.wrongState "connect" m.client.state)] }) := by
        unfold connect
        rw [run_self_bind, if_pos hstate]
        rfl
      exact run_bind hrun
  | openDevices =>
      simp only [ApiCall.refusal, Option.ite_none_left_eq_some, Option.some.injEq] at h
      obtain ⟨hstate, rfl⟩ := h
      have hrun : (openDevices env).run m =
          (false,
            { m with trace := m.trace ++ [.log (.wrongState "open_devices" m.client.state)] }) := by
        unfold openDevices
        rw [run_self_bind, if_pos hstate]
        rfl
      exact run_bind hrun
  | processCommands fuel =>
      simp only [ApiCall.refusal, Option.ite_none_left_eq_some, Option.some.injEq] at h
      obtain ⟨hstate, rfl⟩ := h
      have hrun : (processCommands env fuel).run m =
          (true,
            { m with
              trace := m.trace ++ [.log (.wrongState "process_commands" m.client.state)] }) := by
        unfold processCommands
        rw [run_self_bind, if_pos hstate]
        rfl
      exact run_bind hrun
  | setCommandTimeout timeoutMs => cases h
  | setFailAfterNChunks n => cases h
  | close =>
      simp only [ApiCall.refusal, Option.ite_none_right_eq_some, Option.some.injEq] at h
      obtain ⟨hclosed, rfl⟩ := h
      have hrun : (close env).run m = ((), m) := by
        unfold close
        rw [run_self_bind, if_pos hclosed]
        rfl
      rw [List.append_nil]
      exact run_bind hrun

/-- The loop never touches `device_set_`. -/
theorem whileFuel_deviceSet {start : UInt64} {devices : List Device} {fuel : Nat} {flow : Flow}
    (h : whileFuel (forEach (loopBody env start) devices) fuel m = (flow, m')) :
    m'.client.deviceSet = m.client.deviceSet := by
  obtain ⟨k, es, -, run⟩ := whileFuel_loopRun h
  have hsession := run.session
  simp only [Client.session, Prod.mk.injEq] at hsession
  exact hsession.1

/-- What the lifecycle promises of a client that has made the calls behind the trace of `m`. -/
structure LifecycleSafe (env : Env ω σ) (m : Machine ω σ) : Prop where
  /-- The assignments to `state_` lead from `INIT` to its value along the edges. -/
  edges : StatePath .init m.trace m.client.state
  /-- `CLOSED` is never left, and `FAILED` only for `CLOSED`. -/
  left : ∀ src dst, .transition src dst ∈ m.trace →
    src ≠ .closed ∧ (src = .failed → dst = .closed)
  closed_iff : m.client.state = .closed ↔ m.client.devicesClosed = true
  not_flushing : m.client.state ≠ .flushing
  /-- A call in the wrong state, and a second `close`, change no field and call nothing. -/
  refuses : ∀ (call : ApiCall) (es : List Event), call.refusal m.client = some es →
    (call.run env).run m = (.next, { m with trace := m.trace ++ es }) ∧
      ∀ e ∈ es, ∃ line, e = .log line
  deviceSet : m.client.state = .connected ∨ m.client.state = .streaming →
    m.client.deviceSet.isSome
  /-- The loop of `process_commands`, which alone reaches `FLUSHING`, keeps it. -/
  loopDeviceSet : m.client.state = .streaming → ∀ start devices fuel m₁,
    m₁.client.deviceSet = m.client.deviceSet →
      (whileFuel (forEach (loopBody env start) devices) fuel m₁).2.client.deviceSet.isSome
  /-- The branches for a missing device set are never taken. -/
  found : .log .noDeviceSet ∉ m.trace

theorem Lawful.safe {c : Client} (h : Lawful c m.trace m.client) (hinit : c.state = .init) :
    LifecycleSafe env m := by
  have hpath := h.path
  rw [hinit] at hpath
  refine ⟨hpath, ?_, h.lifecycle.closed_iff, h.lifecycle.not_flushing, ?_, h.lifecycle.deviceSet,
    ?_, h.deviceSetFound⟩
  · intro src dst hmem
    obtain ⟨s, s', hsrc, hdst, hedge⟩ := hpath.exists_step _ hmem
    exact hedge.left
  · intro call es hrefusal
    exact ⟨apiCall_refused hrefusal, refusal_logs hrefusal⟩
  · intro hstate start devices fuel m₁ hm₁
    rw [whileFuel_deviceSet (Prod.eta _).symm, hm₁]
    exact h.lifecycle.deviceSet (.inr hstate)

/-- A client is consistent after any sequence of public calls. -/
theorem session_lifecycle (env : Env ω σ) (enableLogging : Bool) (faultInjector : FaultInjector)
    (outside : Outside ω σ) (calls : List ApiCall) :
    Lifecycle (session env enableLogging faultInjector outside calls).client := by
  obtain ⟨flow, run, -⟩ := session_sessionRun env enableLogging faultInjector outside calls
  exact (run.lawful (lifecycle_new enableLogging faultInjector)).lifecycle

/-- **Session lifecycle safety.**  It holds after any sequence of public calls, and after the
destructor, whatever the environment answers. -/
theorem session_lifecycleSafe (env : Env ω σ) (enableLogging : Bool)
    (faultInjector : FaultInjector) (outside : Outside ω σ) (calls : List ApiCall) :
    LifecycleSafe env (session env enableLogging faultInjector outside calls) ∧
      LifecycleSafe env (lifetime env enableLogging faultInjector outside calls) := by
  have hnew := lifecycle_new enableLogging faultInjector
  obtain ⟨_, run, -⟩ := session_sessionRun env enableLogging faultInjector outside calls
  obtain ⟨_, run', -⟩ := lifetime_lifetimeRun env enableLogging faultInjector outside calls
  exact ⟨(run.lawful hnew).safe rfl, (run'.lawful hnew).safe rfl⟩

end Vdi
