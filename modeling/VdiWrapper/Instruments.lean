import VdiWrapper.Protocol

/-!
# Instrumentation: metrics, buffer pool, fault injector

The measuring side of the client.  All of it is single-threaded here: the loop is the only caller
of `Metrics` and `BufferPool`, so an atomic counter is a plain 64-bit word and the compare-exchange
loops of `record_chunk_size` are plain updates.
-/

namespace Vdi

/-- `struct ChunkTiming`. -/
structure ChunkTiming where
  size : UInt64
  getcommandUs : UInt64
  dispatchUs : UInt64
  sinkUs : UInt64
  completeUs : UInt64
  totalUs : UInt64
  timestampUs : UInt64
deriving DecidableEq

/-- The counters of `class Metrics`. -/
structure Metrics where
  loggingEnabled : Bool := false
  totalBytes : UInt64 := 0
  chunkCount : UInt64 := 0
  minChunkSize : UInt64 := 0xffffffffffffffff
  maxChunkSize : UInt64 := 0
  sumChunkSizes : UInt64 := 0
  bufferAcquireCount : UInt64 := 0
  bufferReleaseCount : UInt64 := 0
  bufferPoolHits : UInt64 := 0
  bufferPoolMisses : UInt64 := 0
  timings : List ChunkTiming := []
deriving DecidableEq

namespace Metrics

variable (metrics : Metrics)

def addBytes (size : UInt64) : Metrics :=
  { metrics with
    totalBytes := metrics.totalBytes + size
    chunkCount := metrics.chunkCount + 1 }

def recordChunkSize (size : UInt64) : Metrics :=
  { metrics with
    minChunkSize := if size < metrics.minChunkSize then size else metrics.minChunkSize
    maxChunkSize := if metrics.maxChunkSize < size then size else metrics.maxChunkSize
    sumChunkSizes := metrics.sumChunkSizes + size }

def recordChunkTiming (timing : ChunkTiming) : Metrics :=
  { metrics with timings := metrics.timings ++ [timing] }

def recordBufferAcquire (success : Bool) : Metrics :=
  if success then
    { metrics with
      bufferAcquireCount := metrics.bufferAcquireCount + 1
      bufferPoolHits := metrics.bufferPoolHits + 1 }
  else
    { metrics with
      bufferAcquireCount := metrics.bufferAcquireCount + 1
      bufferPoolMisses := metrics.bufferPoolMisses + 1 }

def recordBufferRelease : Metrics :=
  { metrics with bufferReleaseCount := metrics.bufferReleaseCount + 1 }

/-- The minimum `print_summary` and `to_json` report. -/
def reportedMin : UInt64 :=
  if metrics.minChunkSize = 0xffffffffffffffff then 0 else metrics.minChunkSize

/-- The average they report. -/
def reportedAvg : UInt64 :=
  if 0 < metrics.chunkCount then metrics.sumChunkSizes / metrics.chunkCount else 0

/-- The average from totals, a line `print_summary` adds once there is a chunk. -/
def avgFromTotals : Option UInt64 :=
  if 0 < metrics.chunkCount then some (metrics.totalBytes / metrics.chunkCount) else none

end Metrics

/-- `class BufferPool`: the queue of free buffers, each named by its index in `buffers_`. -/
structure BufferPool where
  bufferSize : Nat
  count : Nat
  freeBuffers : List Nat
deriving DecidableEq

namespace BufferPool

/-- The constructor pushes every buffer on the free queue. -/
def new (bufferSize count : Nat) : BufferPool :=
  { bufferSize := bufferSize, count := count, freeBuffers := List.range count }

/-- The front of the queue, or `none` for `nullptr`. -/
def acquire (pool : BufferPool) : Option Nat × BufferPool :=
  match pool.freeBuffers with
  | [] => (none, pool)
  | buffer :: rest => (some buffer, { pool with freeBuffers := rest })

def release (pool : BufferPool) (buffer : Nat) : BufferPool :=
  { pool with freeBuffers := pool.freeBuffers ++ [buffer] }

end BufferPool

/-- `class FaultInjector`; `enabled` is the compile-time switch `FAULT_INJECTION_ENABLED`. -/
structure FaultInjector where
  enabled : Bool := false
  failAfterNChunks : UInt64 := 0
  chunkCounter : UInt64 := 0
  failNextCommand : Bool := false
deriving DecidableEq

namespace FaultInjector

variable (injector : FaultInjector)

def setFailAfterNChunks (n : UInt64) : FaultInjector :=
  if injector.enabled then { injector with failAfterNChunks := n, chunkCounter := 0 }
  else injector

/-- `on_chunk_completed`, called after each successful `CompleteCommand`. -/
def onChunkCompleted : Bool × FaultInjector :=
  if injector.enabled then
    if 0 < injector.failAfterNChunks then
      let chunkCounter := injector.chunkCounter + 1
      (decide (injector.failAfterNChunks ≤ chunkCounter),
        { injector with chunkCounter := chunkCounter })
    else (false, injector)
  else (false, injector)

def chunkCount : UInt64 := if injector.enabled then injector.chunkCounter else 0

def setFailNextCommand : FaultInjector :=
  if injector.enabled then { injector with failNextCommand := true } else injector

/-- `should_fail`, which nothing in the client calls. -/
def shouldFail : Bool × FaultInjector :=
  if injector.enabled then
    if injector.failNextCommand then (true, { injector with failNextCommand := false })
    else if 0 < injector.failAfterNChunks ∧ injector.failAfterNChunks ≤ injector.chunkCounter then
      (true, injector)
    else (false, injector)
  else (false, injector)

def reset : FaultInjector :=
  if injector.enabled then
    { injector with failAfterNChunks := 0, chunkCounter := 0, failNextCommand := false }
  else injector

def isArmed : Bool :=
  injector.enabled && (decide (0 < injector.failAfterNChunks) || injector.failNextCommand)

/-- An injector that is not armed. -/
def Idle : Prop := injector.onChunkCompleted = (false, injector)

theorem idle_of_disabled (h : injector.enabled = false) : injector.Idle := by
  unfold Idle onChunkCompleted
  simp [h]

end FaultInjector

end Vdi
