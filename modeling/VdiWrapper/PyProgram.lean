import VdiWrapper.Client
import VdiWrapper.PyClient

/-!
# The Python program

`main` of `benchmarks/python/run_py_benchmark.py`, with the constructor, `connect`, `open_devices`,
`close` and `__del__` of `PyVdiClient`.  A failing call raises a `RuntimeError`, `input` an
`EOFError`; `main` catches both, prints the text and returns 1.  What goes to standard output is
left out.

An `HRESULT` is a signed `LONG` here, while the `VD_E_...` constants of the module are positive.
-/

namespace Vdi

variable {ω α : Type}

/-! ## Failures -/

/-- `f"{n:08x}"`: the sign counts towards the eight columns, and the zeros follow it. -/
def hex08 (n : Int) : String :=
  let digits := String.ofList (Nat.toDigits 16 n.natAbs)
  let sign := if n < 0 then "-" else ""
  sign ++ String.ofList (List.replicate (8 - (sign.length + digits.length)) '0') ++ digits

/-- The text of the `RuntimeError` about a failing call. -/
def callFailed (call : String) (hr : HResult) (hint : String) : String :=
  call ++ " failed: hr=0x" ++ hex08 (longOfHResult hr) ++ hint

def pyVdETimeout : Int := 0x80770003
def pyVdEInvalid : Int := 0x80770006
def pyVdENotSupported : Int := 0x80770009
def pyVdEObject : Int := 0x8077000c

/-- The hint of `connect`. -/
def createExHint (hr : Int) : String :=
  if hr = pyVdENotSupported then
    " - Hint: VD_E_NOTSUPPORTED - check VDConfig or configuration parameters."
  else if hr = pyVdEInvalid then " - Hint: VD_E_INVALID - check VDConfig structure layout."
  else ""

/-- The hint of `open_devices`. -/
def getConfigurationHint (hr : Int) : String :=
  if hr = pyVdETimeout then
    " - Hint: VD_E_TIMEOUT - SQL Server did not connect. Run the T-SQL BACKUP command."
  else if hr = pyVdEObject then " - Hint: VD_E_OBJECT - device set not ready."
  else ""

theorem longOfHResult_lt (hr : HResult) : longOfHResult hr < 2 ^ 31 :=
  hr.toInt32.toInt_lt

/-- A signed code is none of the constants. -/
theorem createExHint_eq (hr : HResult) : createExHint (longOfHResult hr) = "" := by
  have hlt := longOfHResult_lt hr
  unfold createExHint pyVdENotSupported pyVdEInvalid
  rw [if_neg (by omega), if_neg (by omega)]

theorem getConfigurationHint_eq (hr : HResult) : getConfigurationHint (longOfHResult hr) = "" := by
  have hlt := longOfHResult_lt hr
  unfold getConfigurationHint pyVdETimeout pyVdEObject
  rw [if_neg (by omega), if_neg (by omega)]

/-! ## The process -/

/-- What surrounds the process. -/
structure PyHost (ω : Type) where
  com : Com ω
  /-- `os.getpid()`. -/
  pid : Nat
  /-- `input` reads a line; if not, it raises `EOFError`. -/
  input : ω → Bool × ω

/-- What the process does, in order. -/
inductive PyAction
  | com (e : Event)
  | input (read : Bool)
  /-- Printed to `sys.stderr`. -/
  | err (text : String)
deriving DecidableEq

/-- The fields of the `PyVdiClient` that `process_commands` uses, the others, and what has
happened. -/
structure PyProcess (ω : Type) where
  client : PyVdiClient := {}
  deviceSet : Option DeviceSet := none
  deviceName : String := ""
  deviceCount : Nat := 0
  world : ω
  actions : List PyAction := []

/-- A piece of the program that may raise. -/
abbrev PyRun (ω : Type) := ExceptT String (StateM (PyProcess ω))

/-- A call on ole32 or through a vtable. -/
def PyProcess.comCall (answer : ω → α × ω) (event : α → Event) (p : PyProcess ω) :
    α × PyProcess ω :=
  ((answer p.world).1,
    { p with
      world := (answer p.world).2
      actions := p.actions ++ [.com (event (answer p.world).1)] })

/-- A call of the command loop among the calls of the process. -/
def DeviceCall.event : DeviceCall → Event
  | .getCommand device hr cmd => .getCommand device infinite hr cmd
  | .completeCommand device cmd code size position hr =>
      .completeCommand device cmd code size position hr

namespace Py

def comCall (answer : ω → α × ω) (event : α → Event) : PyRun ω α :=
  ExceptT.lift (PyProcess.comCall answer event)

def assign (f : PyProcess ω → PyProcess ω) : PyRun ω Unit :=
  ExceptT.lift fun p => ((), f p)

def self : PyRun ω (PyProcess ω) := ExceptT.lift fun p => (p, p)

section Calls

variable (com : Com ω)

/-! ## The client -/

/-- The part of `__init__` that can fail. -/
def init : PyRun ω Unit := do
  let hr ← comCall com.coInitializeEx .coInitializeEx
  if pyFailed (longOfHResult hr) then throw (callFailed "CoInitializeEx" hr "")
  else return ()

/-- `_create_device_set`. -/
def createDeviceSet : PyRun ω Unit := do
  let (hr, ds) ← comCall com.coCreateInstance fun r => .coCreateInstance r.1 r.2
  if pyFailed (longOfHResult hr) then
    throw (callFailed "CoCreateInstance(CLSID_MSSQL_ClientVirtualDeviceSet)" hr "")
  else assign fun p => { p with deviceSet := some ds }

/-- The `VDConfig` of `connect`. -/
def vdConfig (deviceCount : Nat) : VDConfig where
  deviceCount := UInt32.ofNat deviceCount
  features := vdfDefault
  prefixZoneSize := 0
  alignment := 0
  softFileMarkBlockSize := 0
  eomWarningSize := 0
  serverTimeOut := 60000
  blockSize := 64 * 1024
  maxIODepth := 0
  bufferAreaSize := 4 * 1024 * 1024
  maxTransferSize := 1024 * 1024

/-- `connect`.  `self.device_set.value` would raise if there were no device set. -/
def connect (deviceName : String) (deviceCount : Nat) : PyRun ω Unit := do
  assign fun p => { p with deviceName := deviceName, deviceCount := deviceCount }
  createDeviceSet com
  match (← self).deviceSet with
  | none => throw "'NoneType' object has no attribute 'value'"
  | some ds =>
      let config := vdConfig deviceCount
      let hr ← comCall (com.createEx ds deviceName config) (.createEx ds deviceName config)
      if pyFailed (longOfHResult hr) then
        throw (callFailed "CreateEx" hr (createExHint (longOfHResult hr)))
      else return ()

/-- `open_devices`. -/
def openDevices : PyRun ω Unit := do
  let p ← self
  match p.deviceSet with
  | none => throw "No device set. Call connect() first."
  | some ds =>
      let hr ← comCall (com.getConfiguration ds 60000) (.getConfiguration ds 60000)
      if pyFailed (longOfHResult hr) then
        throw (callFailed "GetConfiguration" hr (getConfigurationHint (longOfHResult hr)))
      else
        let (hr, device) ← comCall (com.openDevice ds p.deviceName)
          fun r => .openDevice ds p.deviceName r.1 r.2
        if pyFailed (longOfHResult hr) then throw (callFailed "OpenDevice" hr "")
        else assign fun p => { p with client := { p.client with device := some device } }

/-- `process_commands`, seen from the process. -/
def serve (fuel : Nat) : PyRun ω Bool := fun p =>
  ((runPyCommands com fuel p.client p.world).1,
    { p with
      client := (runPyCommands com fuel p.client p.world).2.client
      world := (runPyCommands com fuel p.client p.world).2.world
      actions := p.actions ++
        (runPyCommands com fuel p.client p.world).2.calls.map fun call => .com call.event })

/-- The first half of `close`. -/
def closeDevice : StateM (PyProcess ω) Unit := fun p =>
  match p.client.device with
  | none => ((), p)
  | some device =>
      let (_, p) := p.comCall (fun w => ((), com.deviceRelease device w))
        fun _ => .deviceRelease device
      ((), { p with client := { p.client with device := none } })

/-- The second half of `close`. -/
def closeDeviceSet : StateM (PyProcess ω) Unit := fun p =>
  match p.deviceSet with
  | none => ((), p)
  | some ds =>
      let (_, p) := p.comCall (fun w => ((), com.setClose ds w)) fun _ => .setClose ds
      let (_, p) := p.comCall (fun w => ((), com.setRelease ds w)) fun _ => .setRelease ds
      ((), { p with deviceSet := none })

/-- `close`. -/
def close : StateM (PyProcess ω) Unit := do
  closeDevice com
  closeDeviceSet com

/-- `__del__`. -/
def del : StateM (PyProcess ω) Unit := do
  close com
  PyProcess.comCall (fun w => ((), com.coUninit w)) fun _ => .coUninit

end Calls

/-! ## `main` -/

variable (host : PyHost ω)

/-- `input`. -/
def readLine : PyRun ω Unit := fun p =>
  (if (host.input p.world).1 then .ok () else .error "EOF when reading a line",
    { p with
      world := (host.input p.world).2
      actions := p.actions ++ [.input (host.input p.world).1] })

/-- What `main` tries once the client is constructed; the result is that of `process_commands`. -/
def session (deviceName : String) (fuel : Nat) : PyRun ω Bool := do
  connect host.com deviceName 1
  readLine host
  openDevices host.com
  serve host.com fuel

/-- Leaving the `try` statement: the handler of `Exception`, and the exit code; `none` is a command
loop that still serves. -/
def caught (result : Except String Bool) : StateM (PyProcess ω) (Option Int) := fun p =>
  match result with
  | .ok true => (some 0, p)
  | .ok false => (none, p)
  | .error e => (some 1, { p with actions := p.actions ++ [.err ("\nERROR: " ++ e ++ "\n")] })

/-- `main`.  Where the constructor raises, `client` stays `None` and `finally` closes nothing; the
half-made object is collected either way, and `__del__` runs. -/
def main (deviceName : String) (fuel : Nat) : StateM (PyProcess ω) (Option Int) := do
  match ← (init host.com).run with
  | .error e =>
      let code ← caught (.error e)
      del host.com
      return code
  | .ok () =>
      let result ← (session host deviceName fuel).run
      let code ← caught result
      if code.isSome then
        close host.com
        del host.com
        return code
      else return none

end Py

/-- `device_name`, from the arguments after the name of the script. -/
def PyHost.deviceName (host : PyHost ω) : List String → String
  | [] => "VDI_PyBench_" ++ toString host.pid
  | name :: _ => name

/-- A run of the Python program, its command loop watched for `fuel` rounds. -/
def runPyMain (host : PyHost ω) (world : ω) (fuel : Nat) (args : List String) :
    Option Int × PyProcess ω :=
  (Py.main host (host.deviceName args) fuel).run { world }

end Vdi
