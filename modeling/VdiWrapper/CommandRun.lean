import VdiWrapper.Iteration

/-!
# What one call of `process_commands` can do

`CommandRun` puts the loop between what comes before it, the state and device-set checks and the
`OpenDevice` loop, and what comes after it, the releases, the closing of a flushed session and the
report.  `processCommands_commandRun` proves it complete, exactly as `loopBody_iteration` does for
one turn.  The call either returns or, after the rounds it was watched for, is still serving.
-/

namespace Vdi

open Runs

variable {ω σ : Type} {env : Env ω σ} {m m' : Machine ω σ}

/-! ## `close` -/

/-- The flush `close` makes before it lets go of the device set. -/
def closingFlush (c : Client) : List Event :=
  if c.state = .streaming ∨ c.state = .flushing then [.sinkFlush] else []

/-- The device set calls of `close`. -/
def closingSet (c : Client) : List Event :=
  match c.deviceSet with
  | none => []
  | some ds => [.setClose ds, .setRelease ds]

/-- The events of a `close` that is not a repetition. -/
def closing (c : Client) : List Event :=
  closingFlush c ++ closingSet c ++ [.transition c.state .closed]

/-- The fields such a `close` leaves behind. -/
def Client.closed (c : Client) : Client :=
  { c with deviceSet := none, devicesClosed := true, state := .closed }

/-- `close` is idempotent: either it closes, or it was closed and nothing happens. -/
theorem close_run {u : Unit} (h : (close env).run m = (u, m')) :
    (m.client.devicesClosed = true ∧ m' = m) ∨
      (m.client.devicesClosed = false ∧ m'.client = m.client.closed ∧
        m'.trace = m.trace ++ closing m.client) := by
  obtain ⟨c, m₁, hself, h⟩ := bind_run h
  obtain ⟨rfl, rfl⟩ := self_run hself
  split at h
  · next hclosed =>
    obtain ⟨-, rfl⟩ := pure_run h
    exact .inl ⟨hclosed, rfl⟩
  · next hopen =>
    obtain ⟨_, m₂, hflush, h⟩ := bind_run h
    have h₂ : m₂.client = m₁.client ∧ m₂.trace = m₁.trace ++ closingFlush m₁.client := by
      unfold flushBeforeClose at hflush
      split at hflush
      · next hstate =>
        obtain ⟨hclient, htrace⟩ := sinkCall_run hflush
        exact ⟨hclient, by rw [htrace, closingFlush, if_pos hstate]⟩
      · next hstate =>
        obtain ⟨-, rfl⟩ := pure_run hflush
        exact ⟨rfl, by rw [closingFlush, if_neg hstate, List.append_nil]⟩
    obtain ⟨_, m₃, hset, h⟩ := bind_run h
    have h₃ : m₃.client = { m₁.client with deviceSet := none } ∧
        m₃.trace = m₂.trace ++ closingSet m₁.client := by
      unfold closingSet
      cases hds : m₁.client.deviceSet with
      | none =>
          rw [hds] at hset
          obtain ⟨-, rfl⟩ := pure_run hset
          exact ⟨by rw [h₂.1, ← hds], by simp⟩
      | some ds =>
          rw [hds] at hset
          obtain ⟨_, m₄, hclose, hset⟩ := bind_run hset
          obtain ⟨hclient₄, htrace₄⟩ := comCall_run hclose
          obtain ⟨_, m₅, hrelease, hset⟩ := bind_run hset
          obtain ⟨hclient₅, htrace₅⟩ := comCall_run hrelease
          rw [update_run hset, hclient₅, hclient₄, h₂.1]
          exact ⟨rfl, by simp [htrace₅, htrace₄]⟩
    obtain ⟨_, m₄, hmark, h⟩ := bind_run h
    have h₄ := update_run hmark
    obtain ⟨hclient, htrace⟩ := setState_run h
    refine .inr ⟨by simpa using hopen, ?_, ?_⟩
    · rw [hclient, h₄, h₃.1]
      rfl
    · simp [htrace, h₄, h₃, h₂, closing]

/-! ## Before and after the loops -/

/-- The events of the `OpenDevice` calls that succeeded, in order. -/
def opening (ds : DeviceSet) (name : String) (opened : List (HResult × Device)) : List Event :=
  opened.map fun p => .openDevice ds name p.1 p.2

/-- The `OpenDevice` loop opens all the devices it still has to, or stops at the first failure. -/
theorem openAll_run {ds : DeviceSet} {n : Nat} {devices : List Device}
    {r : Option (List Device)} (h : (openAll env ds n devices).run m = (r, m')) :
    ∃ opened : List (HResult × Device), (∀ p ∈ opened, failed p.1 = false) ∧
      ((r = some (devices ++ opened.map Prod.snd) ∧ opened.length = n ∧ m'.client = m.client ∧
          m'.trace = m.trace ++ opening ds m.client.deviceName opened) ∨
        (r = none ∧ opened.length < n ∧ ∃ hr device, failed hr = true ∧
          m'.client = { m.client with state := .failed } ∧
          m'.trace = m.trace ++ opening ds m.client.deviceName opened ++
            .openDevice ds m.client.deviceName hr device ::
              failure (.openDeviceFailed hr) m.client)) := by
  induction n generalizing m devices with
  | zero =>
      obtain ⟨rfl, rfl⟩ := pure_run h
      exact ⟨[], by simp, .inl ⟨by simp, rfl, rfl, by simp [opening]⟩⟩
  | succ n ih =>
      obtain ⟨c, m₁, hself, h⟩ := bind_run h
      obtain ⟨rfl, rfl⟩ := self_run hself
      obtain ⟨⟨hr, device⟩, m₂, hopen, h⟩ := bind_run h
      obtain ⟨hclient₂, htrace₂⟩ := comCall_run hopen
      dsimp only at h
      split at h
      · next hfailed =>
        obtain ⟨rfl, hclient, htrace⟩ := failure_run h
        refine ⟨[], by simp, .inr ⟨rfl, by simp, hr, device, hfailed, ?_, ?_⟩⟩
        · rw [hclient, hclient₂]
        · simp [htrace, htrace₂, hclient₂, opening]
      · next hok =>
        have hok : failed hr = false := by simpa using hok
        obtain ⟨opened, hall, hways⟩ := ih h
        rw [hclient₂, htrace₂] at hways
        refine ⟨(hr, device) :: opened, ?_, ?_⟩
        · intro p hp
          rcases List.mem_cons.mp hp with rfl | hp
          · exact hok
          · exact hall p hp
        · rcases hways with ⟨rfl, hlen, hclient, htrace⟩ | ⟨rfl, hlen, hr', device', hways⟩
          · exact .inl ⟨by simp, by simp [hlen], hclient, by simp [htrace, opening]⟩
          · refine .inr ⟨rfl, by simpa using hlen, hr', device', hways.1, hways.2.1, ?_⟩
            simp [hways.2.2, opening]

/-- There is always a device to poll. -/
theorem openAll_length_pos {ds : DeviceSet} {count : Int} {devices : List Device}
    (h : (openAll env ds (devCount count) []).run m = (some devices, m')) :
    0 < devices.length := by
  obtain ⟨opened, -, ⟨hdevices, hcount, -, -⟩ | ⟨hnone, -⟩⟩ := openAll_run h
  · cases hdevices
    have hpos : 0 < devCount count := by
      unfold devCount
      split <;> omega
    simpa [hcount] using hpos
  · cases hnone

theorem releaseAll_run {devices : List Device} {u : Unit}
    (h : (releaseAll env devices).run m = (u, m')) :
    m'.client = m.client ∧ m'.trace = m.trace ++ devices.map .deviceRelease := by
  induction devices generalizing m with
  | nil =>
      obtain ⟨-, rfl⟩ := pure_run h
      exact ⟨rfl, by simp⟩
  | cons device devices ih =>
      obtain ⟨_, m₁, hrelease, h⟩ := bind_run h
      obtain ⟨hclient₁, htrace₁⟩ := comCall_run hrelease
      obtain ⟨hclient, htrace⟩ := ih h
      exact ⟨by rw [hclient, hclient₁], by simp [htrace, htrace₁]⟩

/-- A close signal makes `process_commands` close the session. -/
def Client.finished (c : Client) : Client :=
  if c.state = .flushing ∧ c.devicesClosed = false then c.closed else c

/-- The events after the loops. -/
def finishing (devices : List Device) (c : Client) : List Event :=
  devices.map .deviceRelease ++
    (if c.state = .flushing ∧ c.devicesClosed = false then closing c else []) ++
    [.report c.metrics c.maxActiveBuffers]

theorem finishCommands_run {devices : List Device} {u : Unit}
    (h : (finishCommands env devices).run m = (u, m')) :
    m'.client = m.client.finished ∧ m'.trace = m.trace ++ finishing devices m.client := by
  obtain ⟨_, m₁, hrelease, h⟩ := bind_run h
  obtain ⟨hclient₁, htrace₁⟩ := releaseAll_run hrelease
  obtain ⟨c, m₂, hself, h⟩ := bind_run h
  obtain ⟨rfl, rfl⟩ := self_run hself
  obtain ⟨_, m₃, hclose, h⟩ := bind_run h
  have h₃ : m₃.client = m.client.finished ∧ m₃.trace = m₂.trace ++
      (if m.client.state = .flushing ∧ m.client.devicesClosed = false
        then closing m.client else []) := by
    rw [hclient₁] at hclose
    unfold closeFlushed at hclose
    unfold Client.finished
    split at hclose
    · next hflushing =>
      rcases close_run hclose with ⟨hclosed, rfl⟩ | ⟨hopen, hclient, htrace⟩
      · rw [hclient₁] at hclosed
        simp [hflushing, hclosed, hclient₁]
      · rw [hclient₁] at hopen hclient htrace
        simp [hflushing, hopen, hclient, htrace]
    · next hother =>
      obtain ⟨-, rfl⟩ := pure_run hclose
      simp [hother, hclient₁]
  obtain ⟨c, m₄, hself, h⟩ := bind_run h
  obtain ⟨rfl, rfl⟩ := self_run hself
  rw [emit_run h]
  refine ⟨h₃.1, ?_⟩
  have hmetrics : m₄.client.metrics = m.client.metrics ∧
      m₄.client.maxActiveBuffers = m.client.maxActiveBuffers := by
    rw [h₃.1]
    unfold Client.finished
    split <;> exact ⟨rfl, rfl⟩
  simp [h₃.2, htrace₁, finishing, hmetrics]

/-! ## The call -/

/-- The fields when the loop begins at time `start`. -/
def Client.streamingSince (start : UInt64) (c : Client) : Client :=
  { c with lastCommandUs := start, lastBytesTotal := 0, lastStallWarnUs := start }

/-- Every way through `process_commands`: the events, whether the call returned, and the fields
it left behind. -/
inductive CommandRun (c : Client) : List Event → Bool → Client → Prop
  | wrongState (hstate : c.state ≠ .streaming) :
      CommandRun c [.log (.wrongState "process_commands" c.state)] true c
  | noDeviceSet (hstate : c.state = .streaming) (hset : c.deviceSet = none) :
      CommandRun c [.log .noDeviceSet] true c
  /-- Some `OpenDevice` failed: the call returns without releasing `opened`. -/
  | openFailed {ds : DeviceSet} {opened : List (HResult × Device)} {hr : HResult}
      {device : Device} (hstate : c.state = .streaming) (hset : c.deviceSet = some ds)
      (hopened : ∀ p ∈ opened, failed p.1 = false)
      (hcount : opened.length < devCount c.deviceCount) (hhr : failed hr = true) :
      CommandRun c
        (opening ds c.deviceName opened ++
          .openDevice ds c.deviceName hr device :: failure (.openDeviceFailed hr) c)
        true { c with state := .failed }
  | serving {ds : DeviceSet} {opened : List (HResult × Device)} {start : UInt64} {k : Nat}
      {es : List Event} {c' : Client} (hstate : c.state = .streaming)
      (hset : c.deviceSet = some ds) (hopened : ∀ p ∈ opened, failed p.1 = false)
      (hcount : opened.length = devCount c.deviceCount)
      (run : LoopRun start (opened.map Prod.snd) (c.streamingSince start) k es .next c') :
      CommandRun c (opening ds c.deviceName opened ++ .nowUs start :: es) false c'
  | served {ds : DeviceSet} {opened : List (HResult × Device)} {start : UInt64} {k : Nat}
      {es : List Event} {c' : Client} (hstate : c.state = .streaming)
      (hset : c.deviceSet = some ds) (hopened : ∀ p ∈ opened, failed p.1 = false)
      (hcount : opened.length = devCount c.deviceCount)
      (run : LoopRun start (opened.map Prod.snd) (c.streamingSince start) k es .stop c') :
      CommandRun c
        (opening ds c.deviceName opened ++ .nowUs start :: es ++
          finishing (opened.map Prod.snd) c')
        true c'.finished

/-- **Completeness.**  Whatever the environment answers and however long it is watched, a call of
`process_commands` is one of the ways of `CommandRun`. -/
theorem processCommands_commandRun {fuel : Nat} {returned : Bool}
    (h : (processCommands env fuel).run m = (returned, m')) :
    ∃ es, m'.trace = m.trace ++ es ∧ CommandRun m.client es returned m'.client := by
  obtain ⟨c, m₁, hself, h⟩ := bind_run h
  obtain ⟨rfl, rfl⟩ := self_run hself
  split at h
  · next hstate =>
    obtain ⟨_, m₂, hlog, h⟩ := bind_run h
    obtain ⟨rfl, rfl⟩ := pure_run h
    rw [log_run hlog]
    exact ⟨_, rfl, .wrongState hstate⟩
  · next hstate =>
    have hstate : m₁.client.state = .streaming := by simpa using hstate
    cases hset : m₁.client.deviceSet with
    | none =>
        rw [hset] at h
        obtain ⟨_, m₂, hlog, h⟩ := bind_run h
        obtain ⟨rfl, rfl⟩ := pure_run h
        rw [log_run hlog]
        exact ⟨_, rfl, .noDeviceSet hstate hset⟩
    | some ds =>
        rw [hset] at h
        obtain ⟨r, m₂, hopen, h⟩ := bind_run h
        obtain ⟨opened, hopened, ⟨rfl, hcount, hclient₂, htrace₂⟩ |
          ⟨rfl, hcount, hr, device, hhr, hclient₂, htrace₂⟩⟩ := openAll_run hopen
        · obtain ⟨start, m₃, hclock, h⟩ := bind_run h
          obtain ⟨hclient₃, htrace₃⟩ := nowUs_run hclock
          obtain ⟨_, m₄, hinit, h⟩ := bind_run h
          have h₄ := update_run hinit
          have hclient₄ : m₄.client = m₁.client.streamingSince start := by
            rw [h₄, hclient₃, hclient₂]
            rfl
          obtain ⟨flow, m₅, hloop, h⟩ := bind_run h
          obtain ⟨k, es, htrace₅, hrun⟩ := whileFuel_loopRun hloop
          rw [hclient₄, List.nil_append] at hrun
          cases flow with
          | next =>
              obtain ⟨rfl, rfl⟩ := pure_run h
              exact ⟨_, by simp [htrace₅, h₄, htrace₃, htrace₂],
                .serving hstate hset hopened hcount hrun⟩
          | stop =>
              obtain ⟨_, m₆, hfinish, h⟩ := bind_run h
              obtain ⟨rfl, rfl⟩ := pure_run h
              obtain ⟨hclient, htrace⟩ := finishCommands_run hfinish
              rw [hclient]
              exact ⟨_, by simp [htrace, htrace₅, h₄, htrace₃, htrace₂],
                .served hstate hset hopened hcount hrun⟩
        · obtain ⟨rfl, rfl⟩ := pure_run h
          have hrun : CommandRun m₁.client
              (opening ds m₁.client.deviceName opened ++
                .openDevice ds m₁.client.deviceName hr device ::
                  failure (.openDeviceFailed hr) m₁.client)
              true { m₁.client with state := .failed } :=
            .openFailed hstate hset hopened hcount hhr
          rw [hclient₂]
          exact ⟨_, by simp [htrace₂], hrun⟩

/-! ## The call as a frame around the loop -/

/-- The lines `process_commands` logs before and after its loops. -/
@[simp] def LogLine.AroundLoop : LogLine → Prop
  | .wrongState .. | .noDeviceSet | .openDeviceFailed _ => True
  | .comInitializationFailed | .coCreateInstanceFailed _ | .createExFailed _
  | .getConfigurationFailed _ | .getCommandTimedOut _ | .getCommandFailed _ | .nullCommand
  | .commandDispatchFailed | .invalidWriteCommand | .sinkNotOpen | .sinkWriteFailed
  | .completeCommandFailed _ | .faultInjectorTriggered _ | .possibleStall ..
  | .destroyedWithoutClose => False

/-- The events it makes there. -/
@[simp] def Event.AroundLoop : Event → Prop
  | .openDevice .. | .nowUs _ | .deviceRelease _ | .setClose _ | .setRelease _ | .sinkFlush
  | .transition .. | .report .. => True
  | .log line => line.AroundLoop
  | .coInitializeEx _ | .coUninit | .coCreateInstance .. | .createEx .. | .getConfiguration ..
  | .getCommand .. | .completeCommand .. | .sinkIsOpen _ | .sinkWrite .. => False

/-- The events it makes after them. -/
@[simp] def Event.AfterLoop : Event → Prop
  | .deviceRelease _ | .setClose _ | .setRelease _ | .sinkFlush | .transition .. | .report .. =>
      True
  | _ => False

theorem Event.AfterLoop.aroundLoop {e : Event} (h : e.AfterLoop) : e.AroundLoop := by
  cases e <;> first | exact h.elim | trivial

theorem opening_aroundLoop {ds : DeviceSet} {name : String} {opened : List (HResult × Device)} :
    ∀ e ∈ opening ds name opened, e.AroundLoop := by
  intro e he
  obtain ⟨p, -, rfl⟩ := List.mem_map.mp he
  trivial

theorem closing_afterLoop {c : Client} : ∀ e ∈ closing c, e.AfterLoop := by
  unfold closing closingFlush closingSet
  cases c.deviceSet <;> split <;> simp

theorem finishing_afterLoop {devices : List Device} {c : Client} :
    ∀ e ∈ finishing devices c, e.AfterLoop := by
  intro e he
  simp only [finishing, List.mem_append, List.mem_map, List.mem_singleton] at he
  rcases he with (⟨device, -, rfl⟩ | he) | rfl
  · trivial
  · split at he
    · exact closing_afterLoop e he
    · cases he
  · trivial

/-- The device a successful `OpenDevice` returned. -/
def openedDevice : Event → Option Device
  | .openDevice _ _ hr device => if failed hr then none else some device
  | _ => none

def openedDevices (es : List Event) : List Device := es.filterMap openedDevice

theorem openedDevices_append (es es' : List Event) :
    openedDevices (es ++ es') = openedDevices es ++ openedDevices es' :=
  List.filterMap_append

theorem openedDevices_opening {ds : DeviceSet} {name : String} {opened : List (HResult × Device)}
    (h : ∀ p ∈ opened, failed p.1 = false) :
    openedDevices (opening ds name opened) = opened.map Prod.snd := by
  induction opened with
  | nil => rfl
  | cons p opened ih =>
      have hp : openedDevice (.openDevice ds name p.1 p.2) = some p.2 :=
        if_neg (by simp [h p List.mem_cons_self])
      have hrest := ih fun q hq => h q (List.mem_cons_of_mem _ hq)
      unfold openedDevices opening at hrest ⊢
      rw [List.map_cons, List.filterMap_cons, hp, hrest]
      rfl

/-- The loop opens no device, and neither does what follows it. -/
theorem LoopRun.openedDevices_eq {start : UInt64} {devices : List Device} {c c' : Client}
    {k : Nat} {es : List Event} {flow : Flow} (h : LoopRun start devices c k es flow c') :
    openedDevices es = [] := by
  apply List.filterMap_eq_nil_iff.mpr
  intro e he
  have hloop := h.inLoop e he
  cases e <;> first | exact hloop.elim | rfl

theorem openedDevices_finishing {devices : List Device} {c : Client} :
    openedDevices (finishing devices c) = [] := by
  apply List.filterMap_eq_nil_iff.mpr
  intro e he
  have hafter := finishing_afterLoop e he
  cases e <;> first | exact hafter.elim | rfl

/-- A call either never reaches the loop, or its trace is that of the loop between two stretches
that have nothing to do with commands. -/
theorem CommandRun.frame {c c' : Client} {es : List Event} {returned : Bool}
    (h : CommandRun c es returned c') :
    (∀ e ∈ es, e.AroundLoop) ∨
      ∃ before loop after start devices k flow c₁,
        es = before ++ loop ++ after ∧ (∀ e ∈ before, e.AroundLoop) ∧
          (∀ e ∈ after, e.AfterLoop) ∧
          LoopRun start devices (c.streamingSince start) k loop flow c₁ := by
  cases h with
  | wrongState hstate => exact .inl (by simp)
  | noDeviceSet hstate hset => exact .inl (by simp)
  | @openFailed ds opened hr device hstate hset hopened hcount hhr =>
      refine .inl fun e he => ?_
      have hfailure : ∀ e ∈ .openDevice ds c.deviceName hr device ::
          failure (.openDeviceFailed hr) c, e.AroundLoop := by simp [failure]
      rcases List.mem_append.mp he with he | he
      · exact opening_aroundLoop e he
      · exact hfailure e he
  | @serving ds opened start k es c' hstate hset hopened hcount run =>
      refine .inr ⟨opening ds c.deviceName opened ++ [.nowUs start], es, [], start, _, k, _, _,
        by simp, fun e he => ?_, by simp, run⟩
      rcases List.mem_append.mp he with he | he
      · exact opening_aroundLoop e he
      · rw [List.mem_singleton.mp he]
        trivial
  | @served ds opened start k es c' hstate hset hopened hcount run =>
      refine .inr ⟨opening ds c.deviceName opened ++ [.nowUs start], es,
        finishing (opened.map Prod.snd) c', start, _, k, _, _, by simp, fun e he => ?_,
        finishing_afterLoop, run⟩
      rcases List.mem_append.mp he with he | he
      · exact opening_aroundLoop e he
      · rw [List.mem_singleton.mp he]
        trivial

/-! ## The moments of the loop -/

/-- `m'` is a moment of a `process_commands` begun in `m`: the devices are open, `k` turns of the
loop are over, and the next one has read the clock and is about to call `GetCommand` on
`device`. -/
inductive AboutToPoll (env : Env ω σ) (m : Machine ω σ) : Device → Machine ω σ → Prop
  | poll {ds : DeviceSet} {devices : List Device} {start gcStart : UInt64} {k : Nat}
      {device : Device} {m₁ m₂ m₃ m' : Machine ω σ} (hstate : m.client.state = .streaming)
      (hset : m.client.deviceSet = some ds)
      (opened : (openAll env ds (devCount m.client.deviceCount) []).run m = (some devices, m₁))
      (started : (nowUs env).run m₁ = (start, m₂))
      (turns : RoundRobin devices (loopBody env start)
        { m₂ with client := m₂.client.streamingSince start } k .next m₃)
      (served : devices[k % devices.length]? = some device)
      (now : (nowUs env).run m₃ = (gcStart, m')) : AboutToPoll env m device m'

/-- Up to such a moment the call is one that is still serving. -/
theorem AboutToPoll.commandRun {device : Device} (h : AboutToPoll env m device m') :
    ∃ es t, m'.trace = m.trace ++ es ++ [.nowUs t] ∧
      CommandRun m.client es false m'.client ∧
      Path env.Answers m.outside (es ++ [.nowUs t]) m'.outside := by
  cases h with
  | @poll ds devices start gcStart k _ m₁ m₂ m₃ _ hstate hset opened started turns served now =>
      obtain ⟨esₒ, htraceₒ, hpathₒ⟩ := openAll_traced _ _ _ opened
      obtain ⟨esₗ, htraceₗ, hpathₗ⟩ := roundRobin_traced turns
      obtain ⟨answers, hok, hways⟩ := openAll_run opened
      rcases hways with ⟨hdevices, hcount, hclient₁, htrace₁⟩ | ⟨hnone, -⟩
      · obtain ⟨hclient₂, htrace₂⟩ := nowUs_run started
        obtain ⟨es, htrace₃, run⟩ := roundRobin_loopRun turns
        obtain ⟨hclient', htrace'⟩ := nowUs_run now
        cases hdevices
        have hstart : m₂.client = m.client := by rw [hclient₂, hclient₁]
        rw [hstart] at run
        have hopens : esₒ = opening ds m.client.deviceName answers :=
          List.append_cancel_left (htraceₒ.symm.trans htrace₁)
        have hturns : esₗ = es := List.append_cancel_left (htraceₗ.symm.trans htrace₃)
        rw [hopens] at hpathₒ
        rw [hturns] at hpathₗ
        refine ⟨opening ds m.client.deviceName answers ++ .nowUs start :: es, gcStart, ?_, ?_, ?_⟩
        · simp [htrace', htrace₃, htrace₂, htrace₁]
        · rw [hclient']
          exact .serving hstate hset hok hcount run
        · have hread : Path env.Answers m₁.outside [.nowUs start] m₂.outside := by
            cases started
            exact .single ⟨rfl, rfl⟩
          have hread' : Path env.Answers m₃.outside [.nowUs gcStart] m'.outside := by
            cases now
            exact .single ⟨rfl, rfl⟩
          simpa using ((hpathₒ.append hread).append hpathₗ).append hread'
      · cases hnone

/-- A call that is still serving stands at the head of a turn. -/
theorem processCommands_aboutToPoll {fuel : Nat}
    (h : (processCommands env fuel).run m = (false, m')) :
    ∃ device, AboutToPoll env m device ((nowUs env).run m').2 := by
  obtain ⟨c, m₁, hself, h⟩ := bind_run h
  obtain ⟨rfl, rfl⟩ := self_run hself
  split at h
  · obtain ⟨_, m₂, -, h⟩ := bind_run h
    cases (pure_run h).1
  · next hstate =>
    have hstate : m₁.client.state = .streaming := by simpa using hstate
    cases hset : m₁.client.deviceSet with
    | none =>
        rw [hset] at h
        obtain ⟨_, m₂, -, h⟩ := bind_run h
        cases (pure_run h).1
    | some ds =>
        rw [hset] at h
        obtain ⟨r, m₂, hopen, h⟩ := bind_run h
        cases r with
        | none => cases (pure_run h).1
        | some devices =>
            obtain ⟨start, m₃, hclock, h⟩ := bind_run h
            obtain ⟨_, m₄, hinit, h⟩ := bind_run h
            obtain ⟨flow, m₅, hloop, h⟩ := bind_run h
            cases flow with
            | stop =>
                obtain ⟨_, m₆, -, h⟩ := bind_run h
                cases (pure_run h).1
            | next =>
                obtain ⟨-, rfl⟩ := pure_run h
                rw [update_run hinit] at hloop
                obtain ⟨k, turns⟩ := whileFuel_roundRobin hloop
                have hlt : k % devices.length < devices.length :=
                  Nat.mod_lt k (openAll_length_pos hopen)
                exact ⟨devices[k % devices.length],
                  .poll hstate hset hopen hclock turns (List.getElem?_eq_getElem hlt) rfl⟩

/-- One call of `process_commands` on a client with arbitrary fields: whether it returned within
`fuel` rounds, and the machine it left, with the trace of this call alone. -/
def runCommands (env : Env ω σ) (fuel : Nat) (client : Client) (outside : Outside ω σ) :
    Bool × Machine ω σ :=
  (processCommands env fuel).run { client, outside, trace := [] }

/-- The events of that call. -/
def commandTrace (env : Env ω σ) (fuel : Nat) (client : Client) (outside : Outside ω σ) :
    List Event :=
  (runCommands env fuel client outside).2.trace

theorem runCommands_commandRun (env : Env ω σ) (fuel : Nat) (client : Client)
    (outside : Outside ω σ) :
    CommandRun client (commandTrace env fuel client outside)
      (runCommands env fuel client outside).1
      (runCommands env fuel client outside).2.client := by
  obtain ⟨es, htrace, run⟩ := processCommands_commandRun
    (Prod.eta (runCommands env fuel client outside)).symm
  rw [List.nil_append] at htrace
  rw [commandTrace, htrace]
  exact run

end Vdi
