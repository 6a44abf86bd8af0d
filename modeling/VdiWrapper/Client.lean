import VdiWrapper.Machine

/-!
# Opening and closing a session

`connect`, `open_devices`, `close` and the destructor of `src/vdi_client.cpp`, on Windows, and
the two halves of the RAII object `ComRuntime` of `src/com_runtime.cpp`.
-/

namespace Vdi

variable {ω σ : Type} (env : Env ω σ)

/-- The fields of `class ComRuntime` that its destructor reads. -/
structure ComRuntime where
  initialized : Bool
  alreadyInit : Bool

/-- `ComRuntime::ComRuntime`, without the line it logs on `S_FALSE` and on a failure: the trace has
the `HRESULT` itself. -/
def ComRuntime.new : VdiM ω σ ComRuntime := do
  let hr ← coInitializeEx env
  if succeeded hr then
    return { initialized := true, alreadyInit := decide (hr = sFalse) }
  else
    return { initialized := false, alreadyInit := false }

/-- `ComRuntime::~ComRuntime`. -/
def ComRuntime.destroy (com : ComRuntime) : VdiM ω σ Unit := do
  if com.initialized && !com.alreadyInit then coUninit env else return ()

/-- The configuration `connect` asks for. -/
def vdConfig (deviceCount : Int) : VDConfig where
  deviceCount := UInt32.ofInt deviceCount
  features := vdfDefault
  prefixZoneSize := 0
  alignment := 0
  softFileMarkBlockSize := 0
  eomWarningSize := 0
  serverTimeOut := 60000
  blockSize := 64 * 1024
  maxIODepth := 0
  bufferAreaSize := 4 * 1024 * 1024
  maxTransferSize := 1024 * 1024

/-- `connect` between the construction of `com` and the end of its scope. -/
def connectWith (deviceName : String) (deviceCount : Int) (com : ComRuntime) :
    VdiM ω σ Bool := do
  if !com.initialized then
    log .comInitializationFailed
    setState .failed
    return false
  else
    let (hr, ds) ← coCreateInstance env
    if failed hr then
      log (.coCreateInstanceFailed hr)
      setState .failed
      return false
    else
      update fun c => { c with deviceSet := some ds }
      let hr ← createEx env ds deviceName (vdConfig deviceCount)
      if failed hr then
        log (.createExFailed hr)
        setRelease env ds
        update fun c => { c with deviceSet := none }
        setState .failed
        return false
      else
        setState .connected
        return true

/-- `VdiClient::connect`.  `com` is a local, so its destructor runs on every exit. -/
def connect (deviceName : String) (deviceCount : Int) : VdiM ω σ Bool := do
  let c ← self
  if c.state ≠ .init then
    log (.wrongState "connect" c.state)
    return false
  else
    update fun c => { c with deviceName := deviceName, deviceCount := deviceCount }
    let com ← ComRuntime.new env
    let ok ← connectWith env deviceName deviceCount com
    com.destroy env
    return ok

/-- `VdiClient::open_devices`. -/
def openDevices : VdiM ω σ Bool := do
  let c ← self
  if c.state ≠ .connected then
    log (.wrongState "open_devices" c.state)
    return false
  else
    match c.deviceSet with
    | none =>
        log .noDeviceSet
        setState .failed
        return false
    | some ds =>
        let hr ← getConfiguration env ds 60000
        if failed hr then
          log (.getConfigurationFailed hr)
          setState .failed
          return false
        else
          setState .streaming
          return true

/-- `close` flushes only a session that streamed. -/
def flushBeforeClose (state : SessionState) : VdiM ω σ Unit := do
  if state = .streaming ∨ state = .flushing then sinkFlush env else return ()

/-- `close` closes and releases the device set if there is one. -/
def closeDeviceSet : Option DeviceSet → VdiM ω σ Unit
  | none => return ()
  | some ds => do
      setClose env ds
      setRelease env ds
      update fun c => { c with deviceSet := none }

/-- `VdiClient::close`. -/
def close : VdiM ω σ Unit := do
  let c ← self
  if c.devicesClosed then return ()
  else
    flushBeforeClose env c.state
    closeDeviceSet env c.deviceSet
    update fun c => { c with devicesClosed := true }
    setState .closed

/-- `VdiClient::~VdiClient`. -/
def destroy : VdiM ω σ Unit := do
  let c ← self
  if c.state ≠ .closed ∧ c.state ≠ .init then
    log .destroyedWithoutClose
    close env
  else return ()

/-- `VdiClient::set_command_timeout`. -/
def setCommandTimeout (timeoutMs : UInt32) : VdiM ω σ Unit :=
  update fun c => { c with commandTimeoutMs := timeoutMs }

end Vdi
