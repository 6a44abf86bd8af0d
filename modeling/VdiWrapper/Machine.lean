import VdiWrapper.Instruments
import VdiWrapper.Lib.Path
import VdiWrapper.Sink

/-!
# The client, its environment and the trace of calls

`Client` holds the fields of `class VdiClient`.  Everything the client calls lives in `Env`: the
COM runtime with the device set and the devices (`Com`), the sink, and the clock behind
`Metrics::now_us`.  All three are arbitrary: an answer is any function of the state left by the
calls before, so a statement over all environments is a statement over all scripts.

Each call appends one `Event` with its arguments and its answer to the trace.  Assignments to
`state_` are recorded too, as are the warnings and errors of `src/vdi_client.cpp`.  Informational
and debug lines are not, nor are the lines of `ComRuntime` and of the protocol functions, which
only repeat a result that the trace or the client's own line already tells.  `Env.Answers` says
what an event may record, and no function of the client records anything else.
-/

namespace Vdi

open Runs

/-- An `IClientVirtualDeviceSet2` pointer; a successful `CoCreateInstance` never yields null. -/
abbrev DeviceSet := Nat

/-- An `IClientVirtualDevice` pointer. -/
abbrev Device := Nat

/-- The lines the client prints with `LOG_WARN` and `LOG_ERROR`. -/
inductive LogLine
  | wrongState (call : String) (state : SessionState)
  | comInitializationFailed
  | coCreateInstanceFailed (hr : HResult)
  | createExFailed (hr : HResult)
  | noDeviceSet
  | getConfigurationFailed (hr : HResult)
  | openDeviceFailed (hr : HResult)
  | getCommandTimedOut (timeout : UInt32)
  | getCommandFailed (hr : HResult)
  | nullCommand
  | commandDispatchFailed
  | invalidWriteCommand
  | sinkNotOpen
  | sinkWriteFailed
  | completeCommandFailed (hr : HResult)
  | faultInjectorTriggered (chunks : UInt64)
  | possibleStall (totalBytes : UInt64) (state : SessionState)
  | destroyedWithoutClose
deriving DecidableEq

/-- What an observer of the client sees, in order. -/
inductive Event
  | coInitializeEx (hr : HResult)
  /-- `CoUninitialize()`. -/
  | coUninit
  | coCreateInstance (hr : HResult) (ds : DeviceSet)
  | createEx (ds : DeviceSet) (name : String) (config : VDConfig) (hr : HResult)
  | getConfiguration (ds : DeviceSet) (timeout : UInt32) (hr : HResult)
  | openDevice (ds : DeviceSet) (name : String) (hr : HResult) (device : Device)
  | setClose (ds : DeviceSet)
  | setRelease (ds : DeviceSet)
  | getCommand (device : Device) (timeout : UInt32) (hr : HResult) (cmd : Option VdcCommand)
  | completeCommand (device : Device) (cmd : VdcCommand) (code size : UInt32) (position : UInt64)
      (hr : HResult)
  | deviceRelease (device : Device)
  | sinkIsOpen (ok : Bool)
  /-- `sink_->write(cmd->buffer, cmd->size)`. -/
  | sinkWrite (cmd : VdcCommand) (ok : Bool)
  | sinkFlush
  | nowUs (time : UInt64)
  | transition (src dst : SessionState)
  | log (line : LogLine)
  /-- `print_summary()` and the JSON metrics, printed when `process_commands` is done. -/
  | report (metrics : Metrics) (maxActiveBuffers : UInt64)
deriving DecidableEq

/-- The COM runtime and the VDI server behind it. -/
structure Com (ω : Type) where
  coInitializeEx : ω → HResult × ω
  /-- `CoUninitialize()`. -/
  coUninit : ω → ω
  coCreateInstance : ω → (HResult × DeviceSet) × ω
  createEx : DeviceSet → String → VDConfig → ω → HResult × ω
  getConfiguration : DeviceSet → UInt32 → ω → HResult × ω
  openDevice : DeviceSet → String → ω → (HResult × Device) × ω
  setClose : DeviceSet → ω → ω
  setRelease : DeviceSet → ω → ω
  getCommand : Device → UInt32 → ω → (HResult × Option VdcCommand) × ω
  /-- Besides its result, `CompleteCommand` hands the structure back to the server: the second
  component is what it holds when the call returns. -/
  completeCommand : Device → VdcCommand → UInt32 → UInt32 → UInt64 → ω →
    (HResult × VdcCommand) × ω
  deviceRelease : Device → ω → ω

/-- Everything the client calls. -/
structure Env (ω σ : Type) where
  com : Com ω
  sink : Sink σ
  /-- The `k`-th reading of `Metrics::now_us`. -/
  clock : Nat → UInt64

/-- The state of the environment. -/
structure Outside (ω σ : Type) where
  world : ω
  sink : σ
  ticks : Nat := 0

/-- The fields of `class VdiClient`, except the sink, which is outside. -/
structure Client where
  deviceSet : Option DeviceSet
  metrics : Metrics
  bufferPool : BufferPool
  deviceName : String
  deviceCount : Int
  loggingEnabled : Bool
  state : SessionState
  devicesClosed : Bool
  commandTimeoutMs : UInt32
  lastCommandUs : UInt64
  lastBytesTotal : UInt64
  lastStallWarnUs : UInt64
  activeBuffers : UInt64
  maxActiveBuffers : UInt64
  faultInjector : FaultInjector
deriving DecidableEq

/-- `BUFFER_POOL_SIZE`. -/
def bufferPoolSize : Nat := 64

/-- `BUFFER_SIZE`. -/
def bufferSize : Nat := 64 * 1024

/-- `DEFAULT_COMMAND_TIMEOUT_MS`. -/
def defaultCommandTimeoutMs : UInt32 := 30000

/-- `STALL_WARN_MS`. -/
def stallWarnMs : UInt32 := 60000

/-- The constructor of `VdiClient`.  `device_count_` has no initialiser; `connect` sets it. -/
def Client.new (enableLogging : Bool) (faultInjector : FaultInjector) : Client where
  deviceSet := none
  metrics := { loggingEnabled := enableLogging }
  bufferPool := BufferPool.new bufferSize bufferPoolSize
  deviceName := ""
  deviceCount := 0
  loggingEnabled := enableLogging
  state := .init
  devicesClosed := false
  commandTimeoutMs := defaultCommandTimeoutMs
  lastCommandUs := 0
  lastBytesTotal := 0
  lastStallWarnUs := 0
  activeBuffers := 0
  maxActiveBuffers := 0
  faultInjector := faultInjector

/-- A client at work: its fields, the environment around it and what has been observed. -/
structure Machine (ω σ : Type) where
  client : Client
  outside : Outside ω σ
  trace : List Event := []

/-- A piece of client code. -/
abbrev VdiM (ω σ : Type) := StateM (Machine ω σ)

variable {ω σ α : Type}

/-- A call into COM: the answer and the new world come from `answer`, the trace gets `event`. -/
def comCall (answer : ω → α × ω) (event : α → Event) : VdiM ω σ α := fun m =>
  ((answer m.outside.world).1,
    { m with
      outside := { m.outside with world := (answer m.outside.world).2 }
      trace := m.trace ++ [event (answer m.outside.world).1] })

/-- A call into the sink. -/
def sinkCall (answer : σ → α × σ) (event : α → Event) : VdiM ω σ α := fun m =>
  ((answer m.outside.sink).1,
    { m with
      outside := { m.outside with sink := (answer m.outside.sink).2 }
      trace := m.trace ++ [event (answer m.outside.sink).1] })

/-- Record something the client does on its own. -/
def emit (e : Event) : VdiM ω σ Unit := fun m => ((), { m with trace := m.trace ++ [e] })

def log (line : LogLine) : VdiM ω σ Unit := emit (.log line)

/-- The fields of the client. -/
def self : VdiM ω σ Client := fun m => (m.client, m)

/-- Assign fields of the client other than `state_`. -/
def update (f : Client → Client) : VdiM ω σ Unit := fun m => ((), { m with client := f m.client })

/-- `state_ = state`. -/
def setState (state : SessionState) : VdiM ω σ Unit := fun m =>
  ((), { m with
    client := { m.client with state := state }
    trace := m.trace ++ [.transition m.client.state state] })

section Calls

variable (env : Env ω σ)

/-- `metrics_.now_us()`. -/
def nowUs : VdiM ω σ UInt64 := fun m =>
  (env.clock m.outside.ticks,
    { m with
      outside := { m.outside with ticks := m.outside.ticks + 1 }
      trace := m.trace ++ [.nowUs (env.clock m.outside.ticks)] })

def coInitializeEx : VdiM ω σ HResult := comCall env.com.coInitializeEx .coInitializeEx

def coUninit : VdiM ω σ Unit :=
  comCall (fun w => ((), env.com.coUninit w)) fun _ => .coUninit

def coCreateInstance : VdiM ω σ (HResult × DeviceSet) :=
  comCall env.com.coCreateInstance fun r => .coCreateInstance r.1 r.2

def createEx (ds : DeviceSet) (name : String) (config : VDConfig) : VdiM ω σ HResult :=
  comCall (env.com.createEx ds name config) (.createEx ds name config)

def getConfiguration (ds : DeviceSet) (timeout : UInt32) : VdiM ω σ HResult :=
  comCall (env.com.getConfiguration ds timeout) (.getConfiguration ds timeout)

def openDevice (ds : DeviceSet) (name : String) : VdiM ω σ (HResult × Device) :=
  comCall (env.com.openDevice ds name) fun r => .openDevice ds name r.1 r.2

def setClose (ds : DeviceSet) : VdiM ω σ Unit :=
  comCall (fun w => ((), env.com.setClose ds w)) fun _ => .setClose ds

def setRelease (ds : DeviceSet) : VdiM ω σ Unit :=
  comCall (fun w => ((), env.com.setRelease ds w)) fun _ => .setRelease ds

def getCommand (device : Device) (timeout : UInt32) : VdiM ω σ (HResult × Option VdcCommand) :=
  comCall (env.com.getCommand device timeout) fun r => .getCommand device timeout r.1 r.2

def completeCommand (device : Device) (cmd : VdcCommand) (code size : UInt32)
    (position : UInt64) : VdiM ω σ (HResult × VdcCommand) :=
  comCall (env.com.completeCommand device cmd code size position)
    fun r => .completeCommand device cmd code size position r.1

def deviceRelease (device : Device) : VdiM ω σ Unit :=
  comCall (fun w => ((), env.com.deviceRelease device w)) fun _ => .deviceRelease device

def sinkIsOpen : VdiM ω σ Bool := sinkCall env.sink.isOpen .sinkIsOpen

def sinkWrite (cmd : VdcCommand) : VdiM ω σ Bool :=
  sinkCall (env.sink.write · cmd.payload) (.sinkWrite cmd)

def sinkFlush : VdiM ω σ Unit := sinkCall (fun s => ((), env.sink.flush s)) fun _ => .sinkFlush

end Calls

end Vdi
