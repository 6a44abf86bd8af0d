import VdiWrapper.Lib.Loop
import VdiWrapper.Client

/-!
# The Python client

`PyVdiClient.process_commands` of `benchmarks/python/py_vdi_client.py`, with `_process_write`, the
pool simulation and the counters of its `Metrics`.  Python integers do not overflow, so a counter
is a `Nat`.  Prints and the latency lists and histogram, which only clock readings feed, are left
out.
-/

namespace Vdi

open Runs

variable {ω α : Type}

/-! ## Metrics -/

/-- The counters of the class `Metrics` in Python. -/
structure PyMetrics where
  totalBytes : Nat := 0
  chunkCount : Nat := 0
  minChunkSize : Nat := 2 ^ 64 - 1
  maxChunkSize : Nat := 0
  sumChunkSizes : Nat := 0
  bufferAcquireCount : Nat := 0
  bufferReleaseCount : Nat := 0
  bufferPoolHits : Nat := 0
  bufferPoolMisses : Nat := 0
deriving DecidableEq

namespace PyMetrics

variable (metrics : PyMetrics)

def addBytes (size : Nat) : PyMetrics :=
  { metrics with
    totalBytes := metrics.totalBytes + size
    chunkCount := metrics.chunkCount + 1 }

def recordChunkSize (size : Nat) : PyMetrics :=
  { metrics with
    minChunkSize := if size < metrics.minChunkSize then size else metrics.minChunkSize
    maxChunkSize := if metrics.maxChunkSize < size then size else metrics.maxChunkSize
    sumChunkSizes := metrics.sumChunkSizes + size }

def recordBufferAcquire (success : Bool) : PyMetrics :=
  if success then
    { metrics with
      bufferAcquireCount := metrics.bufferAcquireCount + 1
      bufferPoolHits := metrics.bufferPoolHits + 1 }
  else
    { metrics with
      bufferAcquireCount := metrics.bufferAcquireCount + 1
      bufferPoolMisses := metrics.bufferPoolMisses + 1 }

def recordBufferRelease : PyMetrics :=
  { metrics with bufferReleaseCount := metrics.bufferReleaseCount + 1 }

end PyMetrics

/-! ## The client -/

/-- `_POOL_SIZE`. -/
def pyPoolSize : Nat := 64

/-- The fields of `PyVdiClient` that `process_commands` uses.  A buffer is named by its slot in
`_pool_buffers`. -/
structure PyVdiClient where
  metrics : PyMetrics := {}
  device : Option Device := none
  poolAvailable : List Nat := List.range pyPoolSize
deriving DecidableEq

namespace PyVdiClient

variable (client : PyVdiClient)

/-- `_pool_acquire`. -/
def poolAcquire : Option Nat × PyVdiClient :=
  match client.poolAvailable with
  | [] => (none, client)
  | idx :: rest => (some idx, { client with poolAvailable := rest })

/-- `_pool_release`: the slots are searched for the buffer. -/
def poolRelease (buf : Nat) : PyVdiClient :=
  match (List.range pyPoolSize).find? (· == buf) with
  | none => client
  | some idx => { client with poolAvailable := client.poolAvailable ++ [idx] }

/-- The pool simulation around a write; `record_buffer_release` is called either way. -/
def simulateBufferPool : PyVdiClient :=
  match client.poolAcquire with
  | (none, client) =>
      { client with metrics := (client.metrics.recordBufferAcquire false).recordBufferRelease }
  | (some buf, client) =>
      let client := { client with metrics := client.metrics.recordBufferAcquire true }
      let client := client.poolRelease buf
      { client with metrics := client.metrics.recordBufferRelease }

/-- `_process_write`. -/
def processWrite (cmd : VdcCommand) : PyVdiClient :=
  simulateBufferPool
    { client with
      metrics := (client.metrics.recordChunkSize cmd.size.toNat).addBytes cmd.size.toNat }

end PyVdiClient

/-! ## The command loop -/

/-- A call on the device, with its answer.  The timeout of a `GetCommand` is left out. -/
inductive DeviceCall
  | getCommand (device : Device) (hr : HResult) (cmd : Option VdcCommand)
  | completeCommand (device : Device) (cmd : VdcCommand) (code size : UInt32) (position : UInt64)
      (hr : HResult)
deriving DecidableEq

/-- The client at work: its fields, the server and the calls made. -/
structure PyMachine (ω : Type) where
  client : PyVdiClient
  world : ω
  calls : List DeviceCall := []

abbrev PyM (ω : Type) := StateM (PyMachine ω)

/-- `INFINITE`. -/
def infinite : UInt32 := 0xFFFFFFFF

/-- An `HRESULT` as ctypes returns it: `LONG` is signed. -/
def longOfHResult (hr : HResult) : Int := hr.toInt32.toInt

/-- `FAILED`. -/
def pyFailed (hr : Int) : Bool := decide (hr < 0)

/-- Both clients read the sign bit. -/
theorem pyFailed_longOfHResult (hr : HResult) : pyFailed (longOfHResult hr) = failed hr := by
  have hneg : hr.toInt32.toInt < 0 ↔ 0x80000000 ≤ hr := by
    rw [UInt32.le_iff_toNat_le]
    change hr.toBitVec.toInt < 0 ↔ 2147483648 ≤ hr.toBitVec.toNat
    rw [BitVec.toInt_neg_iff]
    omega
  simp only [pyFailed, longOfHResult, failed, hneg]

namespace Py

def deviceCall (answer : ω → α × ω) (call : α → DeviceCall) : PyM ω α := fun p =>
  ((answer p.world).1,
    { p with world := (answer p.world).2, calls := p.calls ++ [call (answer p.world).1] })

def update (f : PyVdiClient → PyVdiClient) : PyM ω Unit := fun p =>
  ((), { p with client := f p.client })

variable (com : Com ω)

/-- `get_cmd(dev_ptr, INFINITE, byref(pp_cmd))`. -/
def getCmd (device : Device) : PyM ω (HResult × Option VdcCommand) :=
  deviceCall (com.getCommand device infinite) fun r => .getCommand device r.1 r.2

/-- The end of the body; a failing `CompleteCommand` is only printed. -/
def completeCmd (device : Device) (cmd : VdcCommand) : PyM ω Flow := do
  let _ ← deviceCall (com.completeCommand device cmd errorSuccess cmd.size cmd.position)
    fun r => .completeCommand device cmd errorSuccess cmd.size cmd.position r.1
  return .next

/-- The body of `while running`; `running = False; continue` leaves the loop. -/
def loopBody (device : Device) : PyM ω Flow := do
  let (hr, cmd) ← getCmd com device
  if pyFailed (longOfHResult hr) then return .stop
  else
    match cmd with
    | none => return .next
    | some cmd =>
        if cmd.commandCode = vdcWrite then
          update (·.processWrite cmd)
          completeCmd com device cmd
        else if cmd.commandCode = vdcFlush then completeCmd com device cmd
        else if cmd.commandCode = vdcClose then return .stop
        else completeCmd com device cmd

/-- `PyVdiClient.process_commands`, watched for `fuel` rounds: whether it returned, or the
`RuntimeError` it raised. -/
def processCommands (fuel : Nat) : PyM ω (Except String Bool) := fun p =>
  match p.client.device with
  | none => (.error "No device. Call open_devices() first.", p)
  | some device =>
      match whileFuel (loopBody com device) fuel p with
      | (.next, p) => (.ok false, p)
      | (.stop, p) => (.ok true, p)

end Py

/-- One call of `process_commands` on `client`. -/
def runPyCommands (com : Com ω) (fuel : Nat) (client : PyVdiClient) (world : ω) :
    Except String Bool × PyMachine ω :=
  (Py.processCommands com fuel).run { client, world }

end Vdi
