import VdiWrapper.Lib.Coupling
import VdiWrapper.Scripted

/-!
# The bare loop

`process_commands` with metrics, pool simulation, clock readings, logging and stall detection
removed: what is left are the calls on COM, the devices and the sink, the session state and the
fault injection hook.  Its machine has no field for anything else.

`processCommands_coupled` follows both programs line by line: the instrumented one makes the calls
of the bare one and leaves the same state.  What the instrumentation starts with and reads can
therefore not be seen from outside.
-/

namespace Vdi

open Runs

variable {ω σ α : Type}

/-! ## The machine without instruments -/

/-- The fields of `VdiClient` that are not instrumentation. -/
structure BareClient where
  deviceSet : Option DeviceSet
  deviceName : String
  deviceCount : Int
  state : SessionState
  devicesClosed : Bool
  commandTimeoutMs : UInt32
  faultInjector : FaultInjector

/-- The client without its instruments. -/
def Client.bare (c : Client) : BareClient where
  deviceSet := c.deviceSet
  deviceName := c.deviceName
  deviceCount := c.deviceCount
  state := c.state
  devicesClosed := c.devicesClosed
  commandTimeoutMs := c.commandTimeoutMs
  faultInjector := c.faultInjector

/-- The bare client, the outside world without its clock, and the calls made. -/
structure BareMachine (ω σ : Type) where
  client : BareClient
  world : ω
  sink : σ
  calls : List Event

/-- A piece of bare client code. -/
abbrev BareM (ω σ : Type) := StateM (BareMachine ω σ)

namespace Bare

/-- A call on COM or on a device, recorded with its answer. -/
def comCall (answer : ω → α × ω) (event : α → Event) : BareM ω σ α := fun b =>
  ((answer b.world).1,
    { b with world := (answer b.world).2, calls := b.calls ++ [event (answer b.world).1] })

/-- A call on the sink, recorded with its answer. -/
def sinkCall (answer : σ → α × σ) (event : α → Event) : BareM ω σ α := fun b =>
  ((answer b.sink).1,
    { b with sink := (answer b.sink).2, calls := b.calls ++ [event (answer b.sink).1] })

/-- The bare fields. -/
def self : BareM ω σ BareClient := fun b => (b.client, b)

def update (f : BareClient → BareClient) : BareM ω σ Unit := fun b =>
  ((), { b with client := f b.client })

/-- An assignment to `state_`; without a trace of assignments nothing records it. -/
def setState (state : SessionState) : BareM ω σ Unit :=
  update fun c => { c with state := state }

variable (com : Com ω) (sink : Sink σ)

def sinkFlush : BareM ω σ Unit := sinkCall (fun s => ((), sink.flush s)) fun _ => .sinkFlush

/-! ## The loop -/

/-- A `GetCommand` that failed: no stall is looked for. -/
def getCommandFailed (hr : HResult) : BareM ω σ Flow := do
  if hr = vdEClose then
    setState .flushing
    sinkFlush sink
    return .stop
  else if hr = vdEEof then
    setState .flushing
    sinkFlush sink
    return .stop
  else if hr = vdETimeout then return .next
  else
    setState .failed
    return .stop

/-- Whether the chunk is valid and the sink took it. -/
def writeChunk (cmd : VdcCommand) : BareM ω σ Bool := do
  if !validateWriteCommand (some cmd) then
    setState .failed
    return false
  else
    let isOpen ← sinkCall sink.isOpen .sinkIsOpen
    if !isOpen then
      setState .failed
      return false
    else
      let writeOk ← sinkCall (sink.write · cmd.payload) (.sinkWrite cmd)
      if !writeOk then
        setState .failed
        return false
      else return true

/-- Only a `VDC_Write` reaches the sink. -/
def sinkStage (code : UInt32) (cmd : VdcCommand) : BareM ω σ Bool := do
  if code = vdcWrite then writeChunk sink cmd else return true

/-- The completion and the fault injection hook, without timings. -/
def completeStage (device : Device) (cmd : VdcCommand) : BareM ω σ Flow := do
  let (hr, _) ← comCall (com.completeCommand device cmd errorSuccess cmd.size cmd.position)
    fun r => .completeCommand device cmd errorSuccess cmd.size cmd.position r.1
  if failed hr then
    setState .failed
    return .stop
  else
    let (fired, injector) := (← self).faultInjector.onChunkCompleted
    update fun c => { c with faultInjector := injector }
    if fired then
      setState .failed
      return .stop
    else return .next

/-- A delivered command, without a reading of the clock around its dispatch. -/
def handleCommand (device : Device) (cmd : VdcCommand) : BareM ω σ Flow := do
  let (cmdCode, dispatchResult) := dispatchCommand (some cmd)
  match dispatchResult with
  | .failed =>
      setState .failed
      return .stop
  | .closeRequest => return .stop
  | .continue =>
      match ← sinkStage sink cmdCode cmd with
      | false => return .stop
      | true => completeStage com device cmd

/-- One turn of the command loop. -/
def loopBody (device : Device) : BareM ω σ Flow := do
  let timeout := (← self).commandTimeoutMs
  let (hr, cmd) ← comCall (com.getCommand device timeout)
    fun r => .getCommand device timeout r.1 r.2
  if failed hr then getCommandFailed sink hr
  else
    match cmd with
    | none => return .next
    | some cmd => handleCommand com sink device cmd

/-- The devices still to be opened, behind those that are. -/
def openAll (ds : DeviceSet) : Nat → List Device → BareM ω σ (Option (List Device))
  | 0, devices => return some devices
  | n + 1, devices => do
      let name := (← self).deviceName
      let (hr, device) ← comCall (com.openDevice ds name) fun r => .openDevice ds name r.1 r.2
      if failed hr then
        setState .failed
        return none
      else openAll ds n (devices ++ [device])

def releaseAll : List Device → BareM ω σ Unit
  | [] => return ()
  | device :: devices => do
      comCall (fun w => ((), com.deviceRelease device w)) fun _ => .deviceRelease device
      releaseAll devices

/-- The device set, closed and released. -/
def closeDeviceSet : Option DeviceSet → BareM ω σ Unit
  | none => return ()
  | some ds => do
      comCall (fun w => ((), com.setClose ds w)) fun _ => .setClose ds
      comCall (fun w => ((), com.setRelease ds w)) fun _ => .setRelease ds
      update fun c => { c with deviceSet := none }

def flushBeforeClose (state : SessionState) : BareM ω σ Unit := do
  if state = .streaming ∨ state = .flushing then sinkFlush sink else return ()

/-- `close`, without its log lines. -/
def close : BareM ω σ Unit := do
  let c ← self
  if c.devicesClosed then return ()
  else
    flushBeforeClose sink c.state
    closeDeviceSet com c.deviceSet
    update fun c => { c with devicesClosed := true }
    setState .closed

def closeFlushed (state : SessionState) : BareM ω σ Unit := do
  if state = .flushing then close com sink else return ()

/-- What follows the loop, without the report. -/
def finishCommands (devices : List Device) : BareM ω σ Unit := do
  releaseAll com devices
  closeFlushed com sink (← self).state

/-- The loop over the open devices, watched for `fuel` rounds. -/
def serveDevices (fuel : Nat) (devices : List Device) : BareM ω σ Bool := do
  let flow ← (fun b => whileFuel (forEach (loopBody com sink) devices) fuel b)
  match flow with
  | .next => return false
  | .stop =>
      finishCommands com sink devices
      return true

/-- The bare `process_commands`. -/
def processCommands (fuel : Nat) : BareM ω σ Bool := do
  let c ← self
  if c.state ≠ .streaming then return true
  else
    match c.deviceSet with
    | none => return true
    | some ds =>
        match ← openAll com ds (devCount c.deviceCount) [] with
        | none => return true
        | some devices => serveDevices com sink fuel devices

end Bare

/-! ## The coupling -/

/-- An event that the outside world takes part in. -/
def Event.isCall : Event → Bool
  | .coInitializeEx _ | .coUninit | .coCreateInstance .. | .createEx .. | .getConfiguration ..
  | .openDevice .. | .setClose _ | .setRelease _ | .getCommand .. | .completeCommand ..
  | .deviceRelease _ | .sinkIsOpen _ | .sinkWrite .. | .sinkFlush => true
  | .nowUs _ | .transition .. | .log _ | .report .. => false

/-- The COM, device and sink calls of a trace, with their arguments and answers. -/
def callsOf (es : List Event) : List Event := es.filter Event.isCall

/-- What is left of a machine without its instruments. -/
def Machine.bare (m : Machine ω σ) : BareMachine ω σ where
  client := m.client.bare
  world := m.outside.world
  sink := m.outside.sink
  calls := callsOf m.trace

/-- `y` is the bare counterpart of `x`. -/
abbrev BareOf {β : Type} (Q : α → β → Prop) (x : VdiM ω σ α) (y : BareM ω σ β) : Prop :=
  Coupled (fun m b => m.bare = b) Q x y

/-- `x` is instrumentation. -/
abbrev Invisible (x : VdiM ω σ α) : Prop :=
  Silent (fun (m : Machine ω σ) (b : BareMachine ω σ) => m.bare = b) x

theorem callsOf_append (es es' : List Event) : callsOf (es ++ es') = callsOf es ++ callsOf es' :=
  List.filter_append ..

/-- A call is kept. -/
theorem callsOf_snoc_call (es : List Event) {e : Event} (h : e.isCall = true) :
    callsOf (es ++ [e]) = callsOf es ++ [e] := by
  rw [callsOf_append]
  simp [callsOf, h]

/-- Anything else is dropped. -/
theorem callsOf_snoc_other (es : List Event) {e : Event} (h : e.isCall = false) :
    callsOf (es ++ [e]) = callsOf es := by
  rw [callsOf_append]
  simp [callsOf, h]

/-- A call with its arguments and its answer is the same in both machines. -/
theorem comCall_coupled {answer : ω → α × ω} {event : α → Event}
    (h : ∀ a, (event a).isCall = true) :
    BareOf Eq (comCall answer event : VdiM ω σ α) (Bare.comCall answer event) := by
  intro m b hbare
  subst hbare
  refine ⟨rfl, ?_⟩
  have hcalls := callsOf_snoc_call m.trace (h (answer m.outside.world).1)
  unfold comCall Bare.comCall Machine.bare
  simp only [StateT.run, hcalls]

theorem sinkCall_coupled {answer : σ → α × σ} {event : α → Event}
    (h : ∀ a, (event a).isCall = true) :
    BareOf Eq (sinkCall answer event : VdiM ω σ α) (Bare.sinkCall answer event) := by
  intro m b hbare
  subst hbare
  refine ⟨rfl, ?_⟩
  have hcalls := callsOf_snoc_call m.trace (h (answer m.outside.sink).1)
  unfold sinkCall Bare.sinkCall Machine.bare
  simp only [StateT.run, hcalls]

/-- Reading the fields: the bare client reads its own. -/
theorem self_bind {β : Type} {P : α → β → Prop} {f : Client → VdiM ω σ α}
    {g : BareClient → BareM ω σ β} (h : ∀ c, BareOf P (f c) (g c.bare)) :
    BareOf P (self >>= f) (Bare.self >>= g) := by
  intro m b hbare
  subst hbare
  exact h m.client m _ rfl

/-- An assignment to a bare field is made on both sides. -/
theorem update_coupled {f : Client → Client} {g : BareClient → BareClient}
    (h : ∀ c, (f c).bare = g c.bare) :
    BareOf Eq (update f : VdiM ω σ Unit) (Bare.update g) := by
  intro m b hbare
  subst hbare
  refine ⟨rfl, ?_⟩
  unfold update Bare.update Machine.bare
  simp only [StateT.run, h]

theorem setState_coupled {state : SessionState} :
    BareOf Eq (setState state : VdiM ω σ Unit) (Bare.setState state) := by
  intro m b hbare
  subst hbare
  refine ⟨rfl, ?_⟩
  have hcalls := callsOf_snoc_other m.trace (e := .transition m.client.state state) rfl
  unfold setState Bare.setState Bare.update Machine.bare
  simp only [StateT.run, hcalls]
  rfl

/-- What is no call leaves the bare machine as it is. -/
theorem emit_invisible {e : Event} (h : e.isCall = false) :
    Invisible (emit e : VdiM ω σ Unit) := by
  intro m b hbare
  subst hbare
  have hcalls := callsOf_snoc_other m.trace h
  unfold emit Machine.bare
  simp only [StateT.run, hcalls]

theorem log_invisible {line : LogLine} : Invisible (log line : VdiM ω σ Unit) :=
  emit_invisible rfl

/-- So does a reading of the clock. -/
theorem nowUs_invisible {env : Env ω σ} : Invisible (nowUs env) := by
  intro m b hbare
  subst hbare
  have hcalls := callsOf_snoc_other m.trace (e := .nowUs (env.clock m.outside.ticks)) rfl
  unfold nowUs Machine.bare
  simp only [StateT.run, hcalls]

/-- And so does an assignment to an instrument. -/
theorem update_invisible {f : Client → Client} (h : ∀ c, (f c).bare = c.bare) :
    Invisible (update f : VdiM ω σ Unit) := by
  intro m b hbare
  subst hbare
  unfold update Machine.bare
  simp only [StateT.run, h]

theorem self_invisible : Invisible (self : VdiM ω σ Client) := by
  intro m b hbare
  subst hbare
  rfl

/-- The counters and the buffer pool are instruments. -/
theorem recordWrite_bare (cmd : VdcCommand) (c : Client) : (recordWrite cmd c).bare = c.bare := by
  unfold recordWrite simulateBufferPool
  split <;> rfl

/-- The stall detector is instrumentation through and through. -/
theorem checkStall_invisible {now : UInt64} : Invisible (checkStall now : VdiM ω σ Unit) := by
  refine .bind self_invisible fun c => .ite (update_invisible fun _ => rfl) ?_
  refine .ite (.pure _) (.ite ?_ (update_invisible fun _ => rfl))
  exact .bind log_invisible fun _ => update_invisible fun _ => rfl

section Functions

variable {env : Env ω σ}

/-- Logging an error and setting `FAILED` before leaving. -/
theorem failure_coupled {β : Type} {Q : α → β → Prop} {line : LogLine} {a : α} {b : β}
    (h : Q a b) :
    BareOf Q (do log line; setState .failed; return a : VdiM ω σ α)
      (do Bare.setState .failed; return b) :=
  .skip log_invisible fun _ => setState_coupled.andThen (.pure h)

theorem sinkFlush_coupled : BareOf Eq (sinkFlush env) (Bare.sinkFlush env.sink) :=
  sinkCall_coupled fun _ => rfl

/-- The two ways to the end of the stream flush the sink on both sides; the stall check of a timeout
does not show. -/
theorem getCommandFailed_coupled {hr : HResult} {now : UInt64} :
    BareOf Eq (getCommandFailed env hr now) (Bare.getCommandFailed env.sink hr) := by
  have hsignal : BareOf Eq (do setState .flushing; sinkFlush env; return Flow.stop)
      (do Bare.setState .flushing; Bare.sinkFlush env.sink; return Flow.stop) :=
    setState_coupled.andThen (sinkFlush_coupled.andThen (.pure rfl))
  refine .ite .rfl (fun _ => hsignal) fun _ => .ite .rfl (fun _ => hsignal) fun _ =>
    .ite .rfl (fun _ => ?_) fun _ => failure_coupled rfl
  exact .skip self_invisible fun _ => .skip log_invisible fun _ =>
    .skip checkStall_invisible fun _ => .pure rfl

/-- The stage goes on with a duration where the bare one goes on. -/
theorem writeChunk_coupled {cmd : VdcCommand} :
    BareOf (fun r b => r.isSome = b) (writeChunk env cmd) (Bare.writeChunk env.sink cmd) := by
  refine .skip (update_invisible (recordWrite_bare cmd)) fun _ =>
    .ite .rfl (fun _ => failure_coupled rfl) fun _ => ?_
  refine (sinkCall_coupled fun _ => rfl).bindEq fun isOpen => ?_
  refine .ite .rfl (fun _ => failure_coupled rfl) fun _ => .skip nowUs_invisible fun _ => ?_
  refine (sinkCall_coupled fun _ => rfl).bindEq fun ok => ?_
  refine .ite .rfl (fun _ => failure_coupled rfl) fun _ => .skip nowUs_invisible fun _ => ?_
  exact .skip (update_invisible fun _ => rfl) fun _ => .pure rfl

theorem sinkStage_coupled {code : UInt32} {cmd : VdcCommand} :
    BareOf (fun r b => r.isSome = b) (sinkStage env code cmd)
      (Bare.sinkStage env.sink code cmd) :=
  .ite .rfl (fun _ => writeChunk_coupled) fun _ => .pure rfl

/-- The injector is the one field of the stage that both sides have. -/
theorem completeStage_coupled {device : Device} {cmd : VdcCommand} {times : StageTimes} :
    BareOf Eq (completeStage env device cmd times) (Bare.completeStage env.com device cmd) := by
  refine .skip nowUs_invisible fun _ => (comCall_coupled fun _ => rfl).bindEq ?_
  intro answer
  obtain ⟨hr, cmd'⟩ := answer
  refine .skip nowUs_invisible fun _ => .ite .rfl (fun _ => failure_coupled rfl) fun _ => ?_
  apply self_bind
  intro c
  refine (update_coupled fun _ => rfl).andThen ?_
  refine .ite .rfl (fun _ => failure_coupled rfl) fun _ => ?_
  exact .skip (update_invisible fun _ => rfl) fun _ => .pure rfl

/-- `dispatch_command` reads the command only, so both sides branch alike. -/
theorem handleCommand_coupled {start gcStart gcUs : UInt64} {device : Device}
    {cmd : VdcCommand} :
    BareOf Eq (handleCommand env start gcStart gcUs device cmd)
      (Bare.handleCommand env.com env.sink device cmd) := by
  unfold handleCommand Bare.handleCommand
  generalize dispatchCommand (some cmd) = dispatched
  obtain ⟨code, result⟩ := dispatched
  refine .skip nowUs_invisible fun _ => .skip nowUs_invisible fun _ => ?_
  cases result with
  | failed => exact failure_coupled rfl
  | closeRequest => exact .pure rfl
  | «continue» =>
      apply sinkStage_coupled.bind
      intro sinkUs stored hstored
      subst hstored
      cases sinkUs with
      | none => exact .pure rfl
      | some sinkUs => exact completeStage_coupled

/-- One turn of the loop, in which both sides poll with the same timeout. -/
theorem loopBody_coupled {start : UInt64} {device : Device} :
    BareOf Eq (loopBody env start device) (Bare.loopBody env.com env.sink device) := by
  refine .skip nowUs_invisible fun _ => self_bind fun c => ?_
  refine (comCall_coupled fun _ => rfl).bindEq ?_
  intro answer
  obtain ⟨hr, cmd⟩ := answer
  refine .skip nowUs_invisible fun _ => .skip (update_invisible fun _ => rfl) fun _ => ?_
  refine .ite .rfl (fun _ => getCommandFailed_coupled) fun _ => ?_
  cases cmd with
  | none => exact .skip log_invisible fun _ => .pure rfl
  | some cmd => exact handleCommand_coupled

/-- The devices are opened in step, by induction on how many are left. -/
theorem openAll_coupled {ds : DeviceSet} {n : Nat} {devices : List Device} :
    BareOf Eq (openAll env ds n devices) (Bare.openAll env.com ds n devices) := by
  induction n generalizing devices with
  | zero => exact .pure rfl
  | succ n ih =>
      apply self_bind
      intro c
      refine (comCall_coupled fun _ => rfl).bindEq ?_
      intro answer
      obtain ⟨hr, device⟩ := answer
      exact .ite .rfl (fun _ => failure_coupled rfl) fun _ => ih

theorem releaseAll_coupled {devices : List Device} :
    BareOf Eq (releaseAll env devices) (Bare.releaseAll env.com devices) := by
  induction devices with
  | nil => exact .pure rfl
  | cons device devices ih => exact (comCall_coupled fun _ => rfl).andThen ih

theorem closeDeviceSet_coupled {deviceSet : Option DeviceSet} :
    BareOf Eq (closeDeviceSet env deviceSet) (Bare.closeDeviceSet env.com deviceSet) := by
  cases deviceSet with
  | none => exact .pure rfl
  | some ds =>
      exact (comCall_coupled fun _ => rfl).andThen ((comCall_coupled fun _ => rfl).andThen
        (update_coupled fun _ => rfl))

theorem close_coupled : BareOf Eq (close env) (Bare.close env.com env.sink) := by
  apply self_bind
  intro c
  refine .ite .rfl (fun _ => .pure rfl) fun _ => ?_
  have hflush : BareOf Eq (flushBeforeClose env c.state)
      (Bare.flushBeforeClose env.sink c.state) :=
    .ite .rfl (fun _ => sinkFlush_coupled) fun _ => .pure rfl
  exact hflush.andThen (closeDeviceSet_coupled.andThen
    ((update_coupled fun _ => rfl).andThen setState_coupled))

/-- After the loop both sides release and, if the stream ended, close; only one of them reports. -/
theorem finishCommands_coupled {devices : List Device} :
    BareOf Eq (finishCommands env devices) (Bare.finishCommands env.com env.sink devices) := by
  refine releaseAll_coupled.andThen (self_bind fun c => ?_)
  have hclose : BareOf Eq (closeFlushed env c.state)
      (Bare.closeFlushed env.com env.sink c.state) :=
    .ite .rfl (fun _ => close_coupled) fun _ => .pure rfl
  rw [← bind_pure (Bare.closeFlushed env.com env.sink c.bare.state)]
  refine hclose.bind fun _ _ _ => .skip self_invisible fun c => ?_
  rw [← bind_pure (emit _)]
  exact .skip (emit_invisible rfl) fun _ => .pure rfl

/-- **The coupling.** The instrumented call makes the calls of the bare one, returns when it does,
and leaves the same bare fields. -/
theorem processCommands_coupled {fuel : Nat} :
    BareOf Eq (processCommands env fuel) (Bare.processCommands env.com env.sink fuel) := by
  apply self_bind
  intro c
  refine .ite .rfl (fun _ => .skip log_invisible fun _ => .pure rfl) fun _ => ?_
  have hset : c.bare.deviceSet = c.deviceSet := rfl
  rw [hset]
  cases c.deviceSet with
  | none => exact .skip log_invisible fun _ => .pure rfl
  | some ds =>
      apply openAll_coupled.bindEq
      intro devices
      cases devices with
      | none => exact .pure rfl
      | some devices =>
          refine .skip nowUs_invisible fun start => ?_
          refine .skip (update_invisible fun _ => rfl) fun _ => ?_
          have hloop : BareOf Eq
              (fun m => whileFuel (forEach (loopBody env start) devices) fuel m)
              (fun b => whileFuel (forEach (Bare.loopBody env.com env.sink) devices) fuel b) :=
            Coupled.whileFuel (.forEach fun device _ => loopBody_coupled) fuel
          apply hloop.bindEq
          intro flow
          cases flow with
          | next => exact .pure rfl
          | stop => exact finishCommands_coupled.andThen (.pure rfl)

end Functions

/-! ## What cannot be seen -/

/-- The bare loop for a client with the instruments removed: whether it returned, and the machine
it left. -/
def runBare (com : Com ω) (sink : Sink σ) (fuel : Nat) (client : BareClient) (world : ω)
    (sinkState : σ) : Bool × BareMachine ω σ :=
  (Bare.processCommands com sink fuel).run { client, world, sink := sinkState, calls := [] }

/-- A call of `process_commands` is the bare loop with instruments added. -/
theorem runCommands_bare (env : Env ω σ) (fuel : Nat) (client : Client) (outside : Outside ω σ) :
    (runCommands env fuel client outside).1 =
        (runBare env.com env.sink fuel client.bare outside.world outside.sink).1 ∧
      (runCommands env fuel client outside).2.bare =
        (runBare env.com env.sink fuel client.bare outside.world outside.sink).2 :=
  processCommands_coupled { client, outside, trace := [] } _ rfl

/-- **Transparency.**  Two calls on clients that agree apart from their instruments, against the
same server and sink but on different clocks, make the calls of the bare loop and end in its
state. -/
theorem processCommands_transparent (com : Com ω) (sink : Sink σ) (fuel : Nat)
    (client₁ client₂ : Client) (hclient : client₁.bare = client₂.bare) (world : ω) (sinkState : σ)
    (clock₁ clock₂ : Nat → UInt64) (ticks₁ ticks₂ : Nat) :
    let bare := runBare com sink fuel client₁.bare world sinkState
    let run₁ := runCommands { com, sink, clock := clock₁ } fuel client₁
      { world, sink := sinkState, ticks := ticks₁ }
    let run₂ := runCommands { com, sink, clock := clock₂ } fuel client₂
      { world, sink := sinkState, ticks := ticks₂ }
    (callsOf run₁.2.trace = bare.2.calls ∧ callsOf run₂.2.trace = bare.2.calls) ∧
      (run₁.2.client.state = bare.2.client.state ∧ run₂.2.client.state = bare.2.client.state) ∧
      run₁.1 = bare.1 ∧ run₂.1 = bare.1 := by
  intro bare run₁ run₂
  obtain ⟨hreturned₁, hbare₁⟩ := runCommands_bare { com, sink, clock := clock₁ } fuel client₁
    { world, sink := sinkState, ticks := ticks₁ }
  obtain ⟨hreturned₂, hbare₂⟩ := runCommands_bare { com, sink, clock := clock₂ } fuel client₂
    { world, sink := sinkState, ticks := ticks₂ }
  rw [← hclient] at hreturned₂ hbare₂
  have hcalls₁ : callsOf run₁.2.trace = bare.2.calls := congrArg BareMachine.calls hbare₁
  have hcalls₂ : callsOf run₂.2.trace = bare.2.calls := congrArg BareMachine.calls hbare₂
  have hstate₁ : run₁.2.client.state = bare.2.client.state :=
    congrArg (fun b => b.client.state) hbare₁
  have hstate₂ : run₂.2.client.state = bare.2.client.state :=
    congrArg (fun b => b.client.state) hbare₂
  exact ⟨⟨hcalls₁, hcalls₂⟩, ⟨hstate₁, hstate₂⟩, hreturned₁, hreturned₂⟩

/-- A client with other counters, no free buffer and another stall detector. -/
def wornClient : Client :=
  { streamingClient with
    metrics := { totalBytes := 5, chunkCount := 9, bufferPoolMisses := 3 }
    bufferPool := { bufferSize := bufferSize, count := bufferPoolSize, freeBuffers := [] }
    lastBytesTotal := 4
    lastStallWarnUs := 1
    activeBuffers := 64 }

/-- A fresh client on a running clock and a worn one on a clock that stands still make the same
calls. -/
theorem transparent_wornClient :
    callsOf (runCommands (scriptedEnv nullSink) 2 streamingClient
        (scriptedStart [[deliver (oneByte 7), timeout]] ())).2.trace =
      callsOf (runCommands { scriptedEnv nullSink with clock := fun _ => 0 } 2 wornClient
        (scriptedStart [[deliver (oneByte 7), timeout]] ())).2.trace := by
  obtain ⟨⟨hcalls₁, hcalls₂⟩, -⟩ := processCommands_transparent scriptedCom nullSink 2
    streamingClient wornClient rfl (Server.start [[deliver (oneByte 7), timeout]]) ()
    UInt64.ofNat (fun _ => 0) 0 0
  exact hcalls₁.trans hcalls₂.symm

end Vdi
