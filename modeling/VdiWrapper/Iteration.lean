import VdiWrapper.Execution

/-!
# What one turn of the loop can do

The relations below list every way through the loop body, stage by stage: the events it appends to
the trace, how it is left, and the fields it leaves behind.  `loopBody_iteration` proves the list
complete, and `LoopRun` chains turns in round-robin order.  No later proof looks inside the loop
again: an invariant of a run is an induction over `LoopRun` with one case per constructor of
`Iteration`.

The fields a turn never touches are collected in `Client.session`.
-/

namespace Vdi

open Runs

variable {ω σ : Type} {env : Env ω σ} {m m' : Machine ω σ}

/-- The fields that no turn of the loop changes. -/
def Client.session (c : Client) : Option DeviceSet × Bool × String × Int × UInt32 :=
  (c.deviceSet, c.devicesClosed, c.deviceName, c.deviceCount, c.commandTimeoutMs)

@[simp] theorem recordWrite_state (cmd : VdcCommand) (c : Client) :
    (recordWrite cmd c).state = c.state := by
  unfold recordWrite simulateBufferPool
  split <;> rfl

@[simp] theorem recordWrite_session (cmd : VdcCommand) (c : Client) :
    (recordWrite cmd c).session = c.session := by
  unfold recordWrite simulateBufferPool
  split <;> rfl

/-! ## The stages -/

/-- `check_stall` at time `now`: arm the detector, wait, warn, or note progress. -/
inductive StallCheck (now : UInt64) (c : Client) : List Event → Client → Prop
  | armed (h : c.lastStallWarnUs = 0) : StallCheck now c [] { c with lastStallWarnUs := now }
  | early (h : c.lastStallWarnUs ≠ 0)
      (hearly : now - c.lastStallWarnUs < stallWarnMs.toUInt64 * 1000) : StallCheck now c [] c
  | warned (h : c.lastStallWarnUs ≠ 0)
      (hlate : ¬ now - c.lastStallWarnUs < stallWarnMs.toUInt64 * 1000)
      (hbytes : c.metrics.totalBytes = c.lastBytesTotal) :
      StallCheck now c [.log (.possibleStall c.metrics.totalBytes c.state)]
        { c with lastStallWarnUs := now }
  | progressed (h : c.lastStallWarnUs ≠ 0)
      (hlate : ¬ now - c.lastStallWarnUs < stallWarnMs.toUInt64 * 1000)
      (hbytes : c.metrics.totalBytes ≠ c.lastBytesTotal) :
      StallCheck now c []
        { c with lastBytesTotal := c.metrics.totalBytes, lastStallWarnUs := now }

/-- The events of a failure that ends the session. -/
def failure (line : LogLine) (c : Client) : List Event := [.log line, .transition c.state .failed]

/-- Stage 3 passed: nothing to store, or the chunk was accepted by the sink. -/
inductive Stored (cmd : VdcCommand) (c : Client) : List Event → UInt64 → Client → Prop
  | other (hcode : cmd.commandCode ≠ vdcWrite) : Stored cmd c [] 0 c
  | written (hcode : cmd.commandCode = vdcWrite) (sane : cmd.Sane) (t₀ t₁ : UInt64) :
      Stored cmd c [.sinkIsOpen true, .nowUs t₀, .sinkWrite cmd true, .nowUs t₁] (t₁ - t₀)
        { recordWrite cmd c with lastBytesTotal := (recordWrite cmd c).metrics.totalBytes }

/-- Stage 3 failed: the chunk is invalid, the sink is closed, or the sink rejects it. -/
inductive Refused (cmd : VdcCommand) (c : Client) : List Event → Client → Prop
  | invalid (hcode : cmd.commandCode = vdcWrite) (insane : ¬ cmd.Sane) :
      Refused cmd c (failure .invalidWriteCommand c) { recordWrite cmd c with state := .failed }
  | sinkClosed (hcode : cmd.commandCode = vdcWrite) (sane : cmd.Sane) :
      Refused cmd c (.sinkIsOpen false :: failure .sinkNotOpen c)
        { recordWrite cmd c with state := .failed }
  | rejected (hcode : cmd.commandCode = vdcWrite) (sane : cmd.Sane) (t₀ : UInt64) :
      Refused cmd c
        (.sinkIsOpen true :: .nowUs t₀ :: .sinkWrite cmd false :: failure .sinkWriteFailed c)
        { recordWrite cmd c with state := .failed }

/-- Stage 4: the completion fails, the fault injector fires, or the chunk is recorded with
whatever the structure holds after completion. -/
inductive Completed (device : Device) (cmd : VdcCommand) (times : StageTimes) (c : Client) :
    List Event → Flow → Client → Prop
  | failed (t₀ t₁ : UInt64) (hr : HResult) (hhr : failed hr = true) :
      Completed device cmd times c
        (.nowUs t₀ :: .completeCommand device cmd errorSuccess cmd.size cmd.position hr ::
          .nowUs t₁ :: failure (.completeCommandFailed hr) c)
        .stop { c with state := .failed }
  | faulted (t₀ t₁ : UInt64) (hr : HResult) (hhr : failed hr = false)
      (hfired : c.faultInjector.onChunkCompleted.1 = true) :
      Completed device cmd times c
        (.nowUs t₀ :: .completeCommand device cmd errorSuccess cmd.size cmd.position hr ::
          .nowUs t₁ ::
          failure (.faultInjectorTriggered c.faultInjector.onChunkCompleted.2.chunkCount) c)
        .stop { c with faultInjector := c.faultInjector.onChunkCompleted.2, state := .failed }
  | done (t₀ t₁ : UInt64) (hr : HResult) (hhr : failed hr = false)
      (hfired : c.faultInjector.onChunkCompleted.1 = false) (cmd' : VdcCommand) :
      Completed device cmd times c
        [.nowUs t₀, .completeCommand device cmd errorSuccess cmd.size cmd.position hr, .nowUs t₁]
        .next
        { c with
          faultInjector := c.faultInjector.onChunkCompleted.2
          metrics := c.metrics.recordChunkTiming (chunkTiming times (t₁ - t₀) cmd') }

/-! ## The turn -/

/-- Stage 1: `GetCommand` between two clock readings. -/
def fetched (device : Device) (timeout : UInt32) (hr : HResult) (cmd : Option VdcCommand)
    (t₀ t₁ : UInt64) : List Event :=
  [.nowUs t₀, .getCommand device timeout hr cmd, .nowUs t₁]

/-- Stages 1 and 2 of a delivered command. -/
def delivered (device : Device) (timeout : UInt32) (hr : HResult) (cmd : VdcCommand)
    (t₀ t₁ t₂ t₃ : UInt64) : List Event :=
  fetched device timeout hr (some cmd) t₀ t₁ ++ [.nowUs t₂, .nowUs t₃]

/-- Every way through the loop body for one device. -/
inductive Iteration (start : UInt64) (device : Device) (c : Client) :
    List Event → Flow → Client → Prop
  /-- `VD_E_CLOSE` or `VD_E_EOF`. -/
  | closed (t₀ t₁ : UInt64) (hr : HResult) (cmd : Option VdcCommand)
      (hhr : hr = vdEClose ∨ hr = vdEEof) :
      Iteration start device c
        (fetched device c.commandTimeoutMs hr cmd t₀ t₁ ++
          [.transition c.state .flushing, .sinkFlush])
        .stop { c with lastCommandUs := t₁, state := .flushing }
  | timedOut {es : List Event} {c' : Client} (t₀ t₁ : UInt64) (cmd : Option VdcCommand)
      (check : StallCheck t₁ { c with lastCommandUs := t₁ } es c') :
      Iteration start device c
        (fetched device c.commandTimeoutMs vdETimeout cmd t₀ t₁ ++
          .log (.getCommandTimedOut c.commandTimeoutMs) :: es)
        .next c'
  | failed (t₀ t₁ : UInt64) (hr : HResult) (cmd : Option VdcCommand) (hhr : failed hr = true)
      (hclose : hr ≠ vdEClose) (heof : hr ≠ vdEEof) (htimeout : hr ≠ vdETimeout) :
      Iteration start device c
        (fetched device c.commandTimeoutMs hr cmd t₀ t₁ ++ failure (.getCommandFailed hr) c)
        .stop { c with lastCommandUs := t₁, state := .failed }
  /-- Success with a null command pointer. -/
  | null (t₀ t₁ : UInt64) (hr : HResult) (hhr : failed hr = false) :
      Iteration start device c
        (fetched device c.commandTimeoutMs hr none t₀ t₁ ++ [.log .nullCommand])
        .next { c with lastCommandUs := t₁ }
  /-- `VDC_Close` leaves the loop without touching `state_`. -/
  | closeCommand (t₀ t₁ t₂ t₃ : UInt64) (hr : HResult) (cmd : VdcCommand)
      (hhr : failed hr = false) (hcode : cmd.commandCode = vdcClose) :
      Iteration start device c
        (delivered device c.commandTimeoutMs hr cmd t₀ t₁ t₂ t₃)
        .stop { c with lastCommandUs := t₁ }
  | refused {es : List Event} {c' : Client} (t₀ t₁ t₂ t₃ : UInt64) (hr : HResult)
      (cmd : VdcCommand) (hhr : failed hr = false)
      (refused : Refused cmd { c with lastCommandUs := t₁ } es c') :
      Iteration start device c
        (delivered device c.commandTimeoutMs hr cmd t₀ t₁ t₂ t₃ ++ es) .stop c'
  | served {es es' : List Event} {c' c'' : Client} {sinkUs : UInt64} {flow : Flow}
      (t₀ t₁ t₂ t₃ : UInt64) (hr : HResult) (cmd : VdcCommand) (hhr : failed hr = false)
      (hcode : cmd.commandCode ≠ vdcClose)
      (stored : Stored cmd { c with lastCommandUs := t₁ } es sinkUs c')
      (completed : Completed device cmd
        { sessionStartUs := start, gcStart := t₀, gcUs := t₁ - t₀, dispatchUs := t₃ - t₂, sinkUs }
        c' es' flow c'') :
      Iteration start device c
        (delivered device c.commandTimeoutMs hr cmd t₀ t₁ t₂ t₃ ++ es ++ es') flow c''

/-- The turns of the loop over `devices`, begun with the fields `c`: how many were taken, what
they observed, how the last was left and the fields it left behind. -/
inductive LoopRun (start : UInt64) (devices : List Device) (c : Client) :
    Nat → List Event → Flow → Client → Prop
  | start : LoopRun start devices c 0 [] .next c
  | turn {k : Nat} {es es' : List Event} {c' c'' : Client} {flow : Flow} {device : Device}
      (before : LoopRun start devices c k es .next c')
      (served : devices[k % devices.length]? = some device)
      (turn : Iteration start device c' es' flow c'') :
      LoopRun start devices c (k + 1) (es ++ es') flow c''

/-! ## The list of ways is complete -/

theorem checkStall_run {now : UInt64} {u : Unit}
    (h : (checkStall now : VdiM ω σ Unit).run m = (u, m')) :
    ∃ es, StallCheck now m.client es m'.client ∧ m'.trace = m.trace ++ es := by
  obtain ⟨c, mid, hself, h⟩ := bind_run h
  obtain ⟨rfl, rfl⟩ := self_run hself
  split at h
  · next hzero =>
    rw [update_run h]
    exact ⟨[], .armed hzero, by simp⟩
  · next hzero =>
    dsimp only at h
    split at h
    · next hearly =>
      obtain ⟨-, rfl⟩ := pure_run h
      exact ⟨[], .early hzero hearly, by simp⟩
    · next hlate =>
      split at h
      · next hbytes =>
        obtain ⟨_, m₁, hlog, h⟩ := bind_run h
        rw [update_run h, log_run hlog]
        exact ⟨_, .warned hzero hlate hbytes, rfl⟩
      · next hbytes =>
        rw [update_run h]
        exact ⟨[], .progressed hzero hlate hbytes, by simp⟩

/-- Logging an error and setting `FAILED` before leaving with `a`. -/
theorem failure_run {α : Type} {line : LogLine} {a b : α}
    (h : (do log line; setState .failed; return a : VdiM ω σ α).run m = (b, m')) :
    b = a ∧ m'.client = { m.client with state := .failed } ∧
      m'.trace = m.trace ++ failure line m.client := by
  obtain ⟨_, m₁, hlog, h⟩ := bind_run h
  obtain ⟨_, m₂, hset, h⟩ := bind_run h
  obtain ⟨rfl, rfl⟩ := pure_run h
  obtain ⟨hclient, htrace⟩ := setState_run hset
  rw [log_run hlog] at hclient htrace
  exact ⟨rfl, hclient, by simp [htrace, failure]⟩

theorem writeChunk_run {cmd : VdcCommand} {r : Option UInt64}
    (hcode : cmd.commandCode = vdcWrite) (h : (writeChunk env cmd).run m = (r, m')) :
    ∃ es, m'.trace = m.trace ++ es ∧
      ((∃ sinkUs, r = some sinkUs ∧ Stored cmd m.client es sinkUs m'.client) ∨
        (r = none ∧ Refused cmd m.client es m'.client)) := by
  obtain ⟨_, m₁, hrecord, h⟩ := bind_run h
  have h₁ := update_run hrecord
  split at h
  · next hvalid =>
    obtain ⟨rfl, hclient, htrace⟩ := failure_run h
    have insane : ¬ cmd.Sane := by
      rw [← validateWriteCommand_eq_true_iff]
      simpa using hvalid
    refine ⟨failure .invalidWriteCommand m.client, ?_, .inr ⟨rfl, ?_⟩⟩
    · simp [htrace, h₁, failure]
    · rw [hclient, h₁]
      exact .invalid hcode insane
  · next hvalid =>
    have sane : cmd.Sane := validateWriteCommand_eq_true_iff.mp (by simpa using hvalid)
    obtain ⟨isOpen, m₂, hopen, h⟩ := bind_run h
    obtain ⟨hclient₂, htrace₂⟩ := sinkCall_run hopen
    rw [h₁] at hclient₂ htrace₂
    split at h
    · next hclosed =>
      obtain ⟨rfl, hclient, htrace⟩ := failure_run h
      have hfalse : isOpen = false := by simpa using hclosed
      refine ⟨.sinkIsOpen false :: failure .sinkNotOpen m.client, ?_, .inr ⟨rfl, ?_⟩⟩
      · simp [htrace, htrace₂, hclient₂, hfalse, failure]
      · rw [hclient, hclient₂]
        exact .sinkClosed hcode sane
    · next hisOpen =>
      have htrue : isOpen = true := by simpa using hisOpen
      obtain ⟨t₀, m₃, hclock, h⟩ := bind_run h
      obtain ⟨hclient₃, htrace₃⟩ := nowUs_run hclock
      obtain ⟨ok, m₄, hwrite, h⟩ := bind_run h
      obtain ⟨hclient₄, htrace₄⟩ := sinkCall_run hwrite
      rw [hclient₃, hclient₂] at hclient₄
      rw [htrace₃, htrace₂, htrue] at htrace₄
      split at h
      · next hrejected =>
        obtain ⟨rfl, hclient, htrace⟩ := failure_run h
        have hfalse : ok = false := by simpa using hrejected
        refine ⟨.sinkIsOpen true :: .nowUs t₀ :: .sinkWrite cmd false ::
          failure .sinkWriteFailed m.client, ?_, .inr ⟨rfl, ?_⟩⟩
        · simp [htrace, htrace₄, hclient₄, hfalse, failure]
        · rw [hclient, hclient₄]
          exact .rejected hcode sane t₀
      · next haccepted =>
        have hok : ok = true := by simpa using haccepted
        obtain ⟨t₁, m₅, hclock', h⟩ := bind_run h
        obtain ⟨hclient₅, htrace₅⟩ := nowUs_run hclock'
        obtain ⟨_, m₆, hlast, h⟩ := bind_run h
        obtain ⟨rfl, rfl⟩ := pure_run h
        have h₆ := update_run hlast
        refine ⟨[.sinkIsOpen true, .nowUs t₀, .sinkWrite cmd true, .nowUs t₁], ?_,
          .inl ⟨t₁ - t₀, rfl, ?_⟩⟩
        · simp [h₆, htrace₅, htrace₄, hok]
        · rw [h₆, hclient₅, hclient₄]
          exact .written hcode sane t₀ t₁

theorem sinkStage_run {cmd : VdcCommand} {r : Option UInt64}
    (h : (sinkStage env cmd.commandCode cmd).run m = (r, m')) :
    ∃ es, m'.trace = m.trace ++ es ∧
      ((∃ sinkUs, r = some sinkUs ∧ Stored cmd m.client es sinkUs m'.client) ∨
        (r = none ∧ Refused cmd m.client es m'.client)) := by
  unfold sinkStage at h
  split at h
  · next hcode => exact writeChunk_run hcode h
  · next hcode =>
    obtain ⟨rfl, rfl⟩ := pure_run h
    exact ⟨[], by simp, .inl ⟨0, rfl, .other hcode⟩⟩

theorem completeStage_run {device : Device} {cmd : VdcCommand} {times : StageTimes} {flow : Flow}
    (h : (completeStage env device cmd times).run m = (flow, m')) :
    ∃ es, m'.trace = m.trace ++ es ∧ Completed device cmd times m.client es flow m'.client := by
  obtain ⟨t₀, m₁, hclock, h⟩ := bind_run h
  obtain ⟨hclient₁, htrace₁⟩ := nowUs_run hclock
  obtain ⟨⟨hr, cmd'⟩, m₂, hcomplete, h⟩ := bind_run h
  obtain ⟨hclient₂, htrace₂⟩ := comCall_run hcomplete
  obtain ⟨t₁, m₃, hclock', h⟩ := bind_run h
  obtain ⟨hclient₃, htrace₃⟩ := nowUs_run hclock'
  rw [hclient₂, hclient₁] at hclient₃
  rw [htrace₂, htrace₁] at htrace₃
  split at h
  · next hfailed =>
    obtain ⟨rfl, hclient, htrace⟩ := failure_run h
    rw [hclient, hclient₃]
    exact ⟨_, by simp [htrace, htrace₃, hclient₃], .failed t₀ t₁ hr hfailed⟩
  · next hok =>
    have hok : failed hr = false := by simpa using hok
    obtain ⟨c, m₄, hself, h⟩ := bind_run h
    obtain ⟨rfl, rfl⟩ := self_run hself
    rw [hclient₃] at h
    obtain ⟨fired, injector, hpair⟩ : ∃ fired injector,
        m.client.faultInjector.onChunkCompleted = (fired, injector) := ⟨_, _, rfl⟩
    rw [hpair] at h
    obtain ⟨_, m₅, hinjector, h⟩ := bind_run h
    have h₅ := update_run hinjector
    rw [hclient₃] at h₅
    split at h
    · next hfired =>
      obtain ⟨rfl, hclient, htrace⟩ := failure_run h
      have hfired' : m.client.faultInjector.onChunkCompleted.1 = true := by
        rw [hpair]
        exact hfired
      have hstage : Completed device cmd times m.client _ .stop _ :=
        .faulted t₀ t₁ hr hok hfired'
      rw [hpair] at hstage
      rw [hclient, h₅]
      exact ⟨_, by simp [htrace, h₅, htrace₃, failure], hstage⟩
    · next hquiet =>
      obtain ⟨_, m₆, hrecord, h⟩ := bind_run h
      obtain ⟨rfl, rfl⟩ := pure_run h
      have h₆ := update_run hrecord
      have hquiet' : m.client.faultInjector.onChunkCompleted.1 = false := by
        rw [hpair]
        simpa using hquiet
      have hstage : Completed device cmd times m.client _ .next _ :=
        .done t₀ t₁ hr hok hquiet' cmd'
      rw [hpair] at hstage
      rw [h₆, h₅]
      exact ⟨_, by simp [htrace₃], hstage⟩

/-- Entering `FLUSHING` and flushing the sink on a close signal. -/
theorem signal_run {flow : Flow}
    (h : (do setState .flushing; sinkFlush env; return Flow.stop).run m = (flow, m')) :
    flow = .stop ∧ m'.client = { m.client with state := .flushing } ∧
      m'.trace = m.trace ++ [.transition m.client.state .flushing, .sinkFlush] := by
  obtain ⟨_, m₁, hset, h⟩ := bind_run h
  obtain ⟨_, m₂, hflush, h⟩ := bind_run h
  obtain ⟨rfl, rfl⟩ := pure_run h
  obtain ⟨hclient₁, htrace₁⟩ := setState_run hset
  obtain ⟨hclient₂, htrace₂⟩ := sinkCall_run hflush
  exact ⟨rfl, by rw [hclient₂, hclient₁], by simp [htrace₂, htrace₁]⟩

theorem handleCommand_run {start gcStart gcUs : UInt64} {device : Device} {cmd : VdcCommand}
    {flow : Flow} (h : (handleCommand env start gcStart gcUs device cmd).run m = (flow, m')) :
    ∃ t₂ t₃ es, m'.trace = m.trace ++ [.nowUs t₂, .nowUs t₃] ++ es ∧
      ((cmd.commandCode = vdcClose ∧ es = [] ∧ flow = .stop ∧ m'.client = m.client) ∨
        (Refused cmd m.client es m'.client ∧ flow = .stop) ∨
        (cmd.commandCode ≠ vdcClose ∧ ∃ es₁ es₂ sinkUs c, es = es₁ ++ es₂ ∧
          Stored cmd m.client es₁ sinkUs c ∧
          Completed device cmd
            { sessionStartUs := start, gcStart, gcUs, dispatchUs := t₃ - t₂, sinkUs }
            c es₂ flow m'.client)) := by
  obtain ⟨t₂, m₁, hclock, h⟩ := bind_run h
  obtain ⟨hclient₁, htrace₁⟩ := nowUs_run hclock
  rw [dispatchCommand_some] at h
  obtain ⟨t₃, m₂, hclock', h⟩ := bind_run h
  obtain ⟨hclient₂, htrace₂⟩ := nowUs_run hclock'
  rw [hclient₁] at hclient₂
  rw [htrace₁, List.append_assoc] at htrace₂
  refine ⟨t₂, t₃, ?_⟩
  by_cases hcode : cmd.commandCode = vdcClose
  · rw [if_pos hcode] at h
    obtain ⟨rfl, rfl⟩ := pure_run h
    exact ⟨[], by simp [htrace₂], .inl ⟨hcode, rfl, rfl, hclient₂⟩⟩
  · rw [if_neg hcode] at h
    obtain ⟨r, m₃, hsink, h⟩ := bind_run h
    obtain ⟨es₁, htrace₃, hstage⟩ := sinkStage_run hsink
    rw [hclient₂] at hstage
    rcases hstage with ⟨sinkUs, rfl, stored⟩ | ⟨rfl, refused⟩
    · obtain ⟨es₂, htrace, completed⟩ := completeStage_run h
      refine ⟨es₁ ++ es₂, ?_, .inr (.inr ⟨hcode, es₁, es₂, sinkUs, _, rfl, stored, completed⟩)⟩
      simp [htrace, htrace₃, htrace₂]
    · obtain ⟨rfl, rfl⟩ := pure_run h
      exact ⟨es₁, by simp [htrace₃, htrace₂], .inr (.inl ⟨refused, rfl⟩)⟩

/-- **Completeness of the list.**  Whatever the environment answers, one run of the loop body is
one of the ways of `Iteration`. -/
theorem loopBody_iteration {start : UInt64} {device : Device} {flow : Flow}
    (h : (loopBody env start device).run m = (flow, m')) :
    ∃ es, m'.trace = m.trace ++ es ∧ Iteration start device m.client es flow m'.client := by
  obtain ⟨t₀, m₁, hclock, h⟩ := bind_run h
  obtain ⟨hclient₁, htrace₁⟩ := nowUs_run hclock
  obtain ⟨c, m₂, hself, h⟩ := bind_run h
  obtain ⟨rfl, rfl⟩ := self_run hself
  obtain ⟨⟨hr, cmd⟩, m₃, hget, h⟩ := bind_run h
  obtain ⟨hclient₃, htrace₃⟩ := comCall_run hget
  obtain ⟨t₁, m₄, hclock', h⟩ := bind_run h
  obtain ⟨hclient₄, htrace₄⟩ := nowUs_run hclock'
  obtain ⟨_, m₅, hlast, h⟩ := bind_run h
  have h₅ := update_run hlast
  have hclient₅ : m₅.client = { m.client with lastCommandUs := t₁ } := by
    rw [h₅, hclient₄, hclient₃, hclient₁]
  have htrace₅ : m₅.trace = m.trace ++ fetched device m.client.commandTimeoutMs hr cmd t₀ t₁ := by
    simp [h₅, htrace₄, htrace₃, htrace₁, hclient₁, fetched]
  clear h₅ htrace₄ htrace₃ htrace₁ hclient₄ hclient₃ hclient₁
  split at h
  · next hfailed =>
    unfold getCommandFailed at h
    split at h
    · next hclose =>
      obtain ⟨rfl, hclient, htrace⟩ := signal_run h
      rw [hclient, hclient₅]
      exact ⟨_, by simp [htrace, htrace₅, hclient₅], .closed t₀ t₁ hr cmd (.inl hclose)⟩
    · next hclose =>
      split at h
      · next heof =>
        obtain ⟨rfl, hclient, htrace⟩ := signal_run h
        rw [hclient, hclient₅]
        exact ⟨_, by simp [htrace, htrace₅, hclient₅], .closed t₀ t₁ hr cmd (.inr heof)⟩
      · next heof =>
        split at h
        · next htimeout =>
          rw [htimeout] at htrace₅
          obtain ⟨c, m₆, hself, h⟩ := bind_run h
          obtain ⟨rfl, rfl⟩ := self_run hself
          obtain ⟨_, m₇, hlog, h⟩ := bind_run h
          obtain ⟨_, m₈, hstall, h⟩ := bind_run h
          obtain ⟨rfl, rfl⟩ := pure_run h
          obtain ⟨es, check, htrace⟩ := checkStall_run hstall
          rw [log_run hlog] at check htrace
          rw [hclient₅] at check
          exact ⟨_, by simp [htrace, htrace₅, hclient₅], .timedOut t₀ t₁ cmd check⟩
        · next htimeout =>
          obtain ⟨rfl, hclient, htrace⟩ := failure_run h
          rw [hclient, hclient₅]
          exact ⟨_, by simp [htrace, htrace₅, hclient₅, failure],
            .failed t₀ t₁ hr cmd hfailed hclose heof htimeout⟩
  · next hok =>
    have hok : failed hr = false := by simpa using hok
    cases cmd with
    | none =>
        obtain ⟨_, m₆, hlog, h⟩ := bind_run h
        obtain ⟨rfl, rfl⟩ := pure_run h
        rw [log_run hlog, hclient₅]
        exact ⟨_, by simp [htrace₅], .null t₀ t₁ hr hok⟩
    | some cmd =>
        obtain ⟨t₂, t₃, es, htrace, hways⟩ := handleCommand_run h
        rw [hclient₅] at hways
        rw [htrace₅] at htrace
        rcases hways with ⟨hcode, rfl, rfl, hclient⟩ | ⟨refused, rfl⟩ |
          ⟨hcode, es₁, es₂, sinkUs, c, rfl, stored, completed⟩
        · rw [hclient]
          exact ⟨_, by simp [htrace, delivered], .closeCommand t₀ t₁ t₂ t₃ hr cmd hok hcode⟩
        · exact ⟨_, by simp [htrace, delivered], .refused t₀ t₁ t₂ t₃ hr cmd hok refused⟩
        · exact ⟨_, by simp [htrace, delivered],
            .served t₀ t₁ t₂ t₃ hr cmd hok hcode stored completed⟩

/-- Turns of the loop body chain. -/
theorem roundRobin_loopRun {start : UInt64} {devices : List Device} {k : Nat} {flow : Flow}
    (h : RoundRobin devices (loopBody env start) m k flow m') :
    ∃ es, m'.trace = m.trace ++ es ∧ LoopRun start devices m.client k es flow m'.client := by
  induction h with
  | start => exact ⟨[], by simp, .start⟩
  | turn before served step ih =>
      obtain ⟨es, htrace, hrun⟩ := ih
      obtain ⟨es', htrace', hturn⟩ := loopBody_iteration step
      exact ⟨es ++ es', by rw [htrace', htrace, List.append_assoc], hrun.turn served hturn⟩

/-- The loops take turns: whatever the bound on the rounds, the nest is a `LoopRun`. -/
theorem whileFuel_loopRun {start : UInt64} {devices : List Device} {fuel : Nat} {flow : Flow}
    (h : whileFuel (forEach (loopBody env start) devices) fuel m = (flow, m')) :
    ∃ k es, m'.trace = m.trace ++ es ∧
      LoopRun start devices m.client k es flow m'.client := by
  obtain ⟨k, hrun⟩ := whileFuel_roundRobin h
  exact ⟨k, roundRobin_loopRun hrun⟩

/-! ## What every turn keeps -/

theorem StallCheck.state_session {now : UInt64} {c c' : Client} {es : List Event}
    (h : StallCheck now c es c') : c'.state = c.state ∧ c'.session = c.session := by
  cases h <;> exact ⟨rfl, rfl⟩

theorem Stored.state_session {cmd : VdcCommand} {c c' : Client} {es : List Event}
    {sinkUs : UInt64} (h : Stored cmd c es sinkUs c') :
    c'.state = c.state ∧ c'.session = c.session := by
  cases h with
  | other => exact ⟨rfl, rfl⟩
  | written => exact ⟨recordWrite_state cmd c, recordWrite_session cmd c⟩

theorem Refused.state_session {cmd : VdcCommand} {c c' : Client} {es : List Event}
    (h : Refused cmd c es c') : c'.state = .failed ∧ c'.session = c.session := by
  cases h <;> exact ⟨rfl, recordWrite_session cmd c⟩

theorem Completed.session {device : Device} {cmd : VdcCommand} {times : StageTimes}
    {c c' : Client} {es : List Event} {flow : Flow} (h : Completed device cmd times c es flow c') :
    c'.session = c.session := by
  cases h <;> rfl

/-- A turn keeps the session fields, and a turn that goes on keeps the state. -/
theorem Iteration.session {start : UInt64} {device : Device} {c c' : Client} {es : List Event}
    {flow : Flow} (h : Iteration start device c es flow c') : c'.session = c.session := by
  cases h with
  | closed | failed | null | closeCommand => rfl
  | timedOut t₀ t₁ cmd check => exact check.state_session.2
  | refused t₀ t₁ t₂ t₃ hr cmd hhr refused => exact refused.state_session.2
  | served t₀ t₁ t₂ t₃ hr cmd hhr hcode stored completed =>
      exact completed.session.trans stored.state_session.2

theorem Iteration.state_of_next {start : UInt64} {device : Device} {c c' : Client}
    {es : List Event} (h : Iteration start device c es .next c') : c'.state = c.state := by
  cases h with
  | null => rfl
  | timedOut t₀ t₁ cmd check => exact check.state_session.1
  | served t₀ t₁ t₂ t₃ hr cmd hhr hcode stored completed =>
      cases completed
      exact stored.state_session.1

/-- A turn that stops leaves the state alone only on `VDC_Close`. -/
theorem Iteration.state_of_stop {start : UInt64} {device : Device} {c c' : Client}
    {es : List Event} (h : Iteration start device c es .stop c') :
    c'.state = .flushing ∨ c'.state = .failed ∨ c'.state = c.state := by
  cases h with
  | closed => exact .inl rfl
  | failed => exact .inr (.inl rfl)
  | closeCommand => exact .inr (.inr rfl)
  | refused t₀ t₁ t₂ t₃ hr cmd hhr refused => exact .inr (.inl refused.state_session.1)
  | served t₀ t₁ t₂ t₃ hr cmd hhr hcode stored completed =>
      cases completed <;> exact .inr (.inl rfl)

/-- A loop that stopped took a last turn. -/
theorem LoopRun.last {start : UInt64} {devices : List Device} {c c' : Client} {k : Nat}
    {es : List Event} (h : LoopRun start devices c k es .stop c') :
    ∃ k₀ es₀ c₀ device es₁, k = k₀ + 1 ∧ es = es₀ ++ es₁ ∧
      LoopRun start devices c k₀ es₀ .next c₀ ∧
      devices[k₀ % devices.length]? = some device ∧
      Iteration start device c₀ es₁ .stop c' := by
  cases h with
  | turn before served turn => exact ⟨_, _, _, _, _, rfl, rfl, before, served, turn⟩

theorem LoopRun.session {start : UInt64} {devices : List Device} {c c' : Client} {k : Nat}
    {es : List Event} {flow : Flow} (h : LoopRun start devices c k es flow c') :
    c'.session = c.session := by
  induction h with
  | start => rfl
  | turn _ _ turn ih => exact turn.session.trans ih

theorem LoopRun.state_of_next {start : UInt64} {devices : List Device} {c c' : Client} {k : Nat}
    {es : List Event} (h : LoopRun start devices c k es .next c') : c'.state = c.state := by
  generalize hflow : Flow.next = flow at h
  induction h with
  | start => rfl
  | turn _ _ turn ih =>
      subst hflow
      exact turn.state_of_next.trans (ih rfl)

theorem LoopRun.state_of_stop {start : UInt64} {devices : List Device} {c c' : Client} {k : Nat}
    {es : List Event} (h : LoopRun start devices c k es .stop c') :
    c'.state = .flushing ∨ c'.state = .failed ∨ c'.state = c.state := by
  obtain ⟨k₀, es₀, c₀, device, es₁, -, -, before, -, turn⟩ := h.last
  rw [← before.state_of_next]
  exact turn.state_of_stop

/-! ## What happens inside the loop -/

/-- The lines the loop body may log. -/
@[simp] def LogLine.InLoop : LogLine → Prop
  | .wrongState .. | .comInitializationFailed | .coCreateInstanceFailed _ | .createExFailed _
  | .noDeviceSet | .getConfigurationFailed _ | .openDeviceFailed _ | .destroyedWithoutClose =>
      False
  | .getCommandTimedOut _ | .getCommandFailed _ | .nullCommand | .commandDispatchFailed
  | .invalidWriteCommand | .sinkNotOpen | .sinkWriteFailed | .completeCommandFailed _
  | .faultInjectorTriggered _ | .possibleStall .. => True

/-- The events of the loop over `devices`: commands on these devices, the sink, the clock, the
state and the log.  The device set, the lifetime of the devices and COM are out of its reach. -/
@[simp] def Event.InLoop (devices : List Device) : Event → Prop
  | .getCommand device .. | .completeCommand device .. => device ∈ devices
  | .nowUs _ | .sinkIsOpen _ | .sinkWrite .. | .sinkFlush | .transition .. => True
  | .log line => line.InLoop
  | .coInitializeEx _ | .coUninit | .coCreateInstance .. | .createEx .. | .getConfiguration ..
  | .openDevice .. | .setClose _ | .setRelease _ | .deviceRelease _ | .report .. => False

theorem Iteration.inLoop {start : UInt64} {device : Device} {c c' : Client} {es : List Event}
    {flow : Flow} {devices : List Device} (h : Iteration start device c es flow c')
    (hdevice : device ∈ devices) : ∀ e ∈ es, e.InLoop devices := by
  cases h with
  | closed | failed | null | closeCommand => simp [fetched, delivered, failure, hdevice]
  | timedOut t₀ t₁ cmd check => cases check <;> simp [fetched, hdevice]
  | refused t₀ t₁ t₂ t₃ hr cmd hhr refused =>
      cases refused <;> simp [fetched, delivered, failure, hdevice]
  | served t₀ t₁ t₂ t₃ hr cmd hhr hcode stored completed =>
      cases stored <;> cases completed <;> simp [fetched, delivered, failure, hdevice]

theorem LoopRun.inLoop {start : UInt64} {devices : List Device} {c c' : Client} {k : Nat}
    {es : List Event} {flow : Flow} (h : LoopRun start devices c k es flow c') :
    ∀ e ∈ es, e.InLoop devices := by
  induction h with
  | start => simp
  | turn before served turn ih =>
      intro e he
      rcases List.mem_append.mp he with he | he
      · exact ih e he
      · exact turn.inLoop (List.mem_of_getElem? served) e he

end Vdi
