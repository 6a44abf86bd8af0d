import VdiWrapper.Client
import VdiWrapper.Lib.Loop

/-!
# The command loop

`VdiClient::process_commands` and `check_stall` of `src/vdi_client.cpp`.  The body of the inner
`for` is cut along the stages its comments name; each stage says by its result whether the body
goes on.  `Flow.stop` is `running = false; break`, `Flow.next` is `continue` or the end of the
body.
-/

namespace Vdi

open Runs

variable {ω σ : Type} (env : Env ω σ)

/-- `VdiClient::check_stall`. -/
def checkStall (nowUs : UInt64) : VdiM ω σ Unit := do
  let c ← self
  if c.lastStallWarnUs = 0 then
    update fun c => { c with lastStallWarnUs := nowUs }
  else
    let elapsedUs := nowUs - c.lastStallWarnUs
    if elapsedUs < stallWarnMs.toUInt64 * 1000 then return ()
    else
      let currentBytes := c.metrics.totalBytes
      if currentBytes = c.lastBytesTotal then
        log (.possibleStall currentBytes c.state)
        update fun c => { c with lastStallWarnUs := nowUs }
      else
        update fun c => { c with lastBytesTotal := currentBytes, lastStallWarnUs := nowUs }

/-- What the loop does with a failing `GetCommand`. -/
def getCommandFailed (hr : HResult) (gcEnd : UInt64) : VdiM ω σ Flow := do
  if hr = vdEClose then
    setState .flushing
    sinkFlush env
    return .stop
  else if hr = vdEEof then
    setState .flushing
    sinkFlush env
    return .stop
  else if hr = vdETimeout then
    log (.getCommandTimedOut (← self).commandTimeoutMs)
    checkStall gcEnd
    return .next
  else
    log (.getCommandFailed hr)
    setState .failed
    return .stop

/-- The buffer pool simulation around a write. -/
def simulateBufferPool (c : Client) : Client :=
  match c.bufferPool.acquire with
  | (none, pool) =>
      { c with bufferPool := pool, metrics := c.metrics.recordBufferAcquire false }
  | (some buffer, pool) =>
      let cur := c.activeBuffers + 1
      { c with
        metrics := (c.metrics.recordBufferAcquire true).recordBufferRelease
        maxActiveBuffers := if c.maxActiveBuffers < cur then cur else c.maxActiveBuffers
        bufferPool := pool.release buffer
        activeBuffers := cur - 1 }

/-- The metrics and pool accounting at the head of stage 3, done before any check. -/
def recordWrite (cmd : VdcCommand) (c : Client) : Client :=
  simulateBufferPool
    { c with metrics := (c.metrics.recordChunkSize cmd.size.toUInt64).addBytes cmd.size.toUInt64 }

/-- Stage 3 of a `VDC_Write`: the duration of the sink write, or `none` after a `break`. -/
def writeChunk (cmd : VdcCommand) : VdiM ω σ (Option UInt64) := do
  update (recordWrite cmd)
  if !validateWriteCommand (some cmd) then
    log .invalidWriteCommand
    setState .failed
    return none
  else
    let isOpen ← sinkIsOpen env
    if !isOpen then
      log .sinkNotOpen
      setState .failed
      return none
    else
      let sinkStart ← nowUs env
      let writeOk ← sinkWrite env cmd
      if !writeOk then
        log .sinkWriteFailed
        setState .failed
        return none
      else
        let sinkEnd ← nowUs env
        update fun c => { c with lastBytesTotal := c.metrics.totalBytes }
        return some (sinkEnd - sinkStart)

/-- Stage 3: only a `VDC_Write` reaches the sink. -/
def sinkStage (code : UInt32) (cmd : VdcCommand) : VdiM ω σ (Option UInt64) := do
  if code = vdcWrite then writeChunk env cmd else return some 0

/-- The clock readings a `ChunkTiming` is made of. -/
structure StageTimes where
  sessionStartUs : UInt64
  gcStart : UInt64
  gcUs : UInt64
  dispatchUs : UInt64
  sinkUs : UInt64

/-- The record of one chunk; its size is read from the structure after completion. -/
def chunkTiming (t : StageTimes) (ccUs : UInt64) (cmd : VdcCommand) : ChunkTiming where
  size := cmd.size.toUInt64
  getcommandUs := t.gcUs
  dispatchUs := t.dispatchUs
  sinkUs := t.sinkUs
  completeUs := ccUs
  totalUs := t.gcUs + t.dispatchUs + t.sinkUs + ccUs
  timestampUs := t.gcStart - t.sessionStartUs

/-- Stage 4: complete the command, then the fault injection hook, then the timing record. -/
def completeStage (device : Device) (cmd : VdcCommand) (times : StageTimes) : VdiM ω σ Flow := do
  let ccStart ← nowUs env
  let (hr, cmd) ← completeCommand env device cmd errorSuccess cmd.size cmd.position
  let ccEnd ← nowUs env
  if failed hr then
    log (.completeCommandFailed hr)
    setState .failed
    return .stop
  else
    let (fired, injector) := (← self).faultInjector.onChunkCompleted
    update fun c => { c with faultInjector := injector }
    if fired then
      log (.faultInjectorTriggered injector.chunkCount)
      setState .failed
      return .stop
    else
      update fun c =>
        { c with metrics := c.metrics.recordChunkTiming (chunkTiming times (ccEnd - ccStart) cmd) }
      return .next

/-- Stages 2 to 4 for a delivered command. -/
def handleCommand (sessionStartUs gcStart gcUs : UInt64) (device : Device) (cmd : VdcCommand) :
    VdiM ω σ Flow := do
  let dispatchStart ← nowUs env
  let (cmdCode, dispatchResult) := dispatchCommand (some cmd)
  let dispatchEnd ← nowUs env
  match dispatchResult with
  | .failed =>
      log .commandDispatchFailed
      setState .failed
      return .stop
  | .closeRequest => return .stop
  | .continue =>
      match ← sinkStage env cmdCode cmd with
      | none => return .stop
      | some sinkUs =>
          completeStage env device cmd
            { sessionStartUs, gcStart, gcUs, dispatchUs := dispatchEnd - dispatchStart, sinkUs }

/-- The body of the loop, for one device. -/
def loopBody (sessionStartUs : UInt64) (device : Device) : VdiM ω σ Flow := do
  let gcStart ← nowUs env
  let (hr, cmd) ← getCommand env device (← self).commandTimeoutMs
  let gcEnd ← nowUs env
  update fun c => { c with lastCommandUs := gcEnd }
  if failed hr then getCommandFailed env hr gcEnd
  else
    match cmd with
    | none =>
        log .nullCommand
        return .next
    | some cmd => handleCommand env sessionStartUs gcStart (gcEnd - gcStart) device cmd

/-- The `OpenDevice` loop: the devices opened, or `none` after the early `return`. -/
def openAll (ds : DeviceSet) : Nat → List Device → VdiM ω σ (Option (List Device))
  | 0, devices => return some devices
  | n + 1, devices => do
      let (hr, device) ← openDevice env ds (← self).deviceName
      if failed hr then
        log (.openDeviceFailed hr)
        setState .failed
        return none
      else openAll ds n (devices ++ [device])

def releaseAll : List Device → VdiM ω σ Unit
  | [] => return ()
  | device :: devices => do
      deviceRelease env device
      releaseAll devices

/-- `dev_count`. -/
def devCount (deviceCount : Int) : Nat :=
  if 0 < deviceCount then deviceCount.toNat else 1

/-- `process_commands` closes the session itself only after a close signal. -/
def closeFlushed (state : SessionState) : VdiM ω σ Unit := do
  if state = .flushing then close env else return ()

/-- What follows the loops: release the devices, close a flushed session, report. -/
def finishCommands (devices : List Device) : VdiM ω σ Unit := do
  releaseAll env devices
  closeFlushed env (← self).state
  let c ← self
  emit (.report c.metrics c.maxActiveBuffers)

/-- The command loop over opened devices, watched for `fuel` rounds of the outer `while`; the
result says whether it returned. -/
def serveDevices (fuel : Nat) (devices : List Device) : VdiM ω σ Bool := do
  let sessionStartUs ← nowUs env
  update fun c =>
    { c with
      lastCommandUs := sessionStartUs
      lastBytesTotal := 0
      lastStallWarnUs := sessionStartUs }
  let flow ← (fun m => whileFuel (forEach (loopBody env sessionStartUs) devices) fuel m)
  match flow with
  | .next => return false
  | .stop =>
      finishCommands env devices
      return true

/-- `VdiClient::process_commands`. -/
def processCommands (fuel : Nat) : VdiM ω σ Bool := do
  let c ← self
  if c.state ≠ .streaming then
    log (.wrongState "process_commands" c.state)
    return true
  else
    match c.deviceSet with
    | none =>
        log .noDeviceSet
        return true
    | some ds =>
        match ← openAll env ds (devCount c.deviceCount) [] with
        | none => return true
        | some devices => serveDevices env fuel devices

end Vdi
