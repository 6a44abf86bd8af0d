import VdiWrapper.Lib.Interleaving
import VdiWrapper.Instruments

/-!
# The counters of `Metrics` under concurrent recording

Every counter of `class Metrics` is a `std::atomic<uint64_t>`, and `record_chunk_size` lowers the
minimum and raises the maximum by `compare_exchange_weak` in a loop.  Here any number of threads
call the recording functions at once, one atomic access at a time and in any order, with weak
exchanges that may fail for no reason.  `record_chunk_timing` pushes on a plain vector and is
not among the calls.

* `record_interleaving` — once all calls have returned, the counters are those of one thread
  making the calls one after the other, in any order;
* `record_lockFree` — apart from spurious failures, the threads together take only so many steps.
-/

namespace Vdi

open Runs

/-- A call of one of the recording functions of `Metrics`. -/
inductive RecordCall
  | addBytes (size : UInt64)
  | recordChunkSize (size : UInt64)
  | recordBufferAcquire (success : Bool)
  | recordBufferRelease
deriving DecidableEq

/-- The call in the single-threaded model. -/
def RecordCall.perform : RecordCall → Metrics → Metrics
  | .addBytes size, metrics => metrics.addBytes size
  | .recordChunkSize size, metrics => metrics.recordChunkSize size
  | .recordBufferAcquire success, metrics => metrics.recordBufferAcquire success
  | .recordBufferRelease, metrics => metrics.recordBufferRelease

/-- Where a thread stands between two atomic accesses. -/
inductive Position
  /-- between two calls -/
  | between
  /-- in `add_bytes`, before `chunk_count_++` -/
  | countingChunk
  /-- at the test `size < cur_min` -/
  | loweringMin (size curMin : UInt64)
  /-- before `max_chunk_size_.load()` -/
  | loadingMax (size : UInt64)
  /-- at the test `size > cur_max` -/
  | raisingMax (size curMax : UInt64)
  /-- before `sum_chunk_sizes_ += size` -/
  | addingSum (size : UInt64)
  /-- in `record_buffer_acquire`, before the count of hits or of misses -/
  | countingOutcome (success : Bool)
deriving DecidableEq

/-- A thread: where it stands, and the calls it is still to make. -/
structure Recorder where
  position : Position := .between
  calls : List RecordCall
deriving DecidableEq

namespace Recorder

/-- Nothing is left to do. -/
def Returned (t : Recorder) : Prop := t.position = .between ∧ t.calls = []

instance (t : Recorder) : Decidable t.Returned := by
  unfold Returned
  infer_instance

/-- The first atomic access of a call. -/
def enter (calls : List RecordCall) (metrics : Metrics) : RecordCall → Recorder × Metrics
  | .addBytes size =>
      ({ position := .countingChunk, calls := calls },
        { metrics with totalBytes := metrics.totalBytes + size })
  | .recordChunkSize size =>
      ({ position := .loweringMin size metrics.minChunkSize, calls := calls }, metrics)
  | .recordBufferAcquire success =>
      ({ position := .countingOutcome success, calls := calls },
        { metrics with bufferAcquireCount := metrics.bufferAcquireCount + 1 })
  | .recordBufferRelease =>
      ({ calls := calls },
        { metrics with bufferReleaseCount := metrics.bufferReleaseCount + 1 })

/-- The next atomic access of a thread.  A `compare_exchange_weak` that finds the value it expects
fails all the same when `spurious` says so; one that fails leaves the value it found in its first
argument. -/
def step (spurious : Bool) (t : Recorder) (metrics : Metrics) : Recorder × Metrics :=
  match t.position with
  | .between =>
      match t.calls with
      | [] => (t, metrics)
      | call :: calls => enter calls metrics call
  | .countingChunk =>
      ({ t with position := .between }, { metrics with chunkCount := metrics.chunkCount + 1 })
  | .loweringMin size curMin =>
      if size < curMin then
        if metrics.minChunkSize = curMin ∧ spurious = false then
          ({ t with position := .loadingMax size }, { metrics with minChunkSize := size })
        else ({ t with position := .loweringMin size metrics.minChunkSize }, metrics)
      else ({ t with position := .loadingMax size }, metrics)
  | .loadingMax size => ({ t with position := .raisingMax size metrics.maxChunkSize }, metrics)
  | .raisingMax size curMax =>
      if curMax < size then
        if metrics.maxChunkSize = curMax ∧ spurious = false then
          ({ t with position := .addingSum size }, { metrics with maxChunkSize := size })
        else ({ t with position := .raisingMax size metrics.maxChunkSize }, metrics)
      else ({ t with position := .addingSum size }, metrics)
  | .addingSum size =>
      ({ t with position := .between },
        { metrics with sumChunkSizes := metrics.sumChunkSizes + size })
  | .countingOutcome success =>
      ({ t with position := .between },
        if success then { metrics with bufferPoolHits := metrics.bufferPoolHits + 1 }
        else { metrics with bufferPoolMisses := metrics.bufferPoolMisses + 1 })

/-- The step is an exchange that fails although it found the value it expected. -/
def failsSpuriously (spurious : Bool) (t : Recorder) (metrics : Metrics) : Bool :=
  match t.position with
  | .loweringMin size curMin =>
      decide (size < curMin ∧ metrics.minChunkSize = curMin) && spurious
  | .raisingMax size curMax =>
      decide (curMax < size ∧ metrics.maxChunkSize = curMax) && spurious
  | _ => false

end Recorder

/-- The threads before their first step, each with the calls it is going to make. -/
def recording (programs : List (List RecordCall)) (metrics : Metrics) : Threads Recorder Metrics :=
  { threads := programs.map fun calls => { calls := calls }
    shared := metrics }

/-! ## What the calls add up to -/

/-- What a call, or what is left of one, adds to each counter. -/
structure Tally where
  bytes : UInt64 := 0
  chunks : UInt64 := 0
  least : UInt64 := 0xffffffffffffffff
  greatest : UInt64 := 0
  sum : UInt64 := 0
  acquires : UInt64 := 0
  releases : UInt64 := 0
  hits : UInt64 := 0
  misses : UInt64 := 0

/-- The smaller of the two, as `record_chunk_size` finds it. -/
def lower (a b : UInt64) : UInt64 := if b < a then b else a

/-- The larger of the two. -/
def raise (a b : UInt64) : UInt64 := if a < b then b else a

theorem lower_comm (a b c : UInt64) : lower (lower a b) c = lower (lower a c) b := by
  simp only [lower, UInt64.lt_iff_toNat_lt, ← UInt64.toNat_inj]
  grind

theorem raise_comm (a b c : UInt64) : raise (raise a b) c = raise (raise a c) b := by
  simp only [raise, UInt64.lt_iff_toNat_lt, ← UInt64.toNat_inj]
  grind

@[simp] theorem lower_top (a : UInt64) : lower a 0xffffffffffffffff = a := by
  have hlt := a.toNat_lt
  unfold lower
  rw [if_neg]
  simp only [UInt64.lt_iff_toNat_lt, UInt64.toNat_ofNat]
  omega

@[simp] theorem raise_zero (a : UInt64) : raise a 0 = a := by
  simp [raise]

theorem lower_of_lt {a b : UInt64} (h : b < a) : lower a b = b := if_pos h

theorem lower_of_not_lt {a b : UInt64} (h : ¬ b < a) : lower a b = a := if_neg h

theorem raise_of_lt {a b : UInt64} (h : a < b) : raise a b = b := if_pos h

theorem raise_of_not_lt {a b : UInt64} (h : ¬ a < b) : raise a b = a := if_neg h

theorem add_swap (a b c : UInt64) : a + b + c = a + c + b := by
  rw [UInt64.add_assoc, UInt64.add_comm b c, ← UInt64.add_assoc]

def Metrics.absorb (metrics : Metrics) (tally : Tally) : Metrics :=
  { metrics with
    totalBytes := metrics.totalBytes + tally.bytes
    chunkCount := metrics.chunkCount + tally.chunks
    minChunkSize := lower metrics.minChunkSize tally.least
    maxChunkSize := raise metrics.maxChunkSize tally.greatest
    sumChunkSizes := metrics.sumChunkSizes + tally.sum
    bufferAcquireCount := metrics.bufferAcquireCount + tally.acquires
    bufferReleaseCount := metrics.bufferReleaseCount + tally.releases
    bufferPoolHits := metrics.bufferPoolHits + tally.hits
    bufferPoolMisses := metrics.bufferPoolMisses + tally.misses }

/-- In whatever order two tallies come in, the counters end up the same. -/
theorem Metrics.absorb_comm (metrics : Metrics) (s t : Tally) :
    (metrics.absorb s).absorb t = (metrics.absorb t).absorb s := by
  unfold Metrics.absorb
  simp only [Metrics.mk.injEq, true_and, and_true]
  refine ⟨?_, ?_, lower_comm _ _ _, raise_comm _ _ _, ?_, ?_, ?_, ?_, ?_⟩
  all_goals exact add_swap _ _ _

@[simp] theorem Metrics.absorb_zero (metrics : Metrics) : metrics.absorb {} = metrics := by
  simp [Metrics.absorb]

/-- Tallies may be absorbed in any order. -/
theorem Metrics.foldl_absorb_perm {l l' : List Tally} (h : l.Perm l') (metrics : Metrics) :
    l.foldl Metrics.absorb metrics = l'.foldl Metrics.absorb metrics :=
  h.foldl_eq' (fun s _ t _ m => Metrics.absorb_comm m s t) metrics

/-- What a call adds. -/
def RecordCall.tally : RecordCall → Tally
  | .addBytes size => { bytes := size, chunks := 1 }
  | .recordChunkSize size => { least := size, greatest := size, sum := size }
  | .recordBufferAcquire success =>
      if success then { acquires := 1, hits := 1 } else { acquires := 1, misses := 1 }
  | .recordBufferRelease => { releases := 1 }

/-- What the call a thread is in has yet to add. -/
def Position.owed : Position → Tally
  | .between => {}
  | .countingChunk => { chunks := 1 }
  | .loweringMin size _ => { least := size, greatest := size, sum := size }
  | .loadingMax size => { greatest := size, sum := size }
  | .raisingMax size _ => { greatest := size, sum := size }
  | .addingSum size => { sum := size }
  | .countingOutcome success => if success then { hits := 1 } else { misses := 1 }

theorem RecordCall.perform_eq (call : RecordCall) (metrics : Metrics) :
    call.perform metrics = metrics.absorb call.tally := by
  cases call with
  | addBytes size => simp [perform, tally, Metrics.absorb, Metrics.addBytes]
  | recordChunkSize size =>
      simp [perform, tally, Metrics.absorb, Metrics.recordChunkSize]
      exact ⟨rfl, rfl⟩
  | recordBufferAcquire success =>
      cases success <;> simp [perform, tally, Metrics.absorb, Metrics.recordBufferAcquire]
  | recordBufferRelease => simp [perform, tally, Metrics.absorb, Metrics.recordBufferRelease]

namespace Recorder

/-- All a thread has yet to add. -/
def debts (t : Recorder) : List Tally := t.position.owed :: t.calls.map RecordCall.tally

def finish (t : Recorder) (metrics : Metrics) : Metrics := t.debts.foldl Metrics.absorb metrics

theorem finish_comm (t u : Recorder) (metrics : Metrics) :
    t.finish (u.finish metrics) = u.finish (t.finish metrics) := by
  unfold finish
  rw [← List.foldl_append, ← List.foldl_append]
  exact Metrics.foldl_absorb_perm List.perm_append_comm metrics

theorem finish_of_returned {t : Recorder} (h : t.Returned) (metrics : Metrics) :
    t.finish metrics = metrics := by
  unfold finish debts
  rw [h.1, h.2]
  exact metrics.absorb_zero

/-- The value a thread has read of the minimum was no lower than it is now, and the value it has
read of the maximum no higher. -/
def Holds (t : Recorder) (metrics : Metrics) : Prop :=
  match t.position with
  | .loweringMin _ curMin => metrics.minChunkSize ≤ curMin
  | .raisingMax _ curMax => curMax ≤ metrics.maxChunkSize
  | _ => True

/-- What a step promises the other threads. -/
def Promise (before after : Metrics) : Prop :=
  after.minChunkSize ≤ before.minChunkSize ∧ before.maxChunkSize ≤ after.maxChunkSize

variable {spurious : Bool} {t : Recorder} {metrics : Metrics}

theorem enter_holds (call : RecordCall) (calls : List RecordCall) (metrics : Metrics) :
    (enter calls metrics call).1.Holds (enter calls metrics call).2 := by
  cases call with
  | recordChunkSize size => exact UInt64.le_refl _
  | addBytes size => trivial
  | recordBufferAcquire success => trivial
  | recordBufferRelease => trivial

theorem step_holds (h : t.Holds metrics) :
    (step spurious t metrics).1.Holds (step spurious t metrics).2 := by
  obtain ⟨position, calls⟩ := t
  cases position with
  | between =>
      cases calls with
      | nil => trivial
      | cons call calls => exact enter_holds call calls metrics
  | countingChunk => trivial
  | loweringMin size curMin =>
      by_cases hloop : size < curMin
      · by_cases hswap : metrics.minChunkSize = curMin ∧ spurious = false
        · simp [step, hloop, hswap, Holds]
        · simp only [step, if_pos hloop, if_neg hswap]
          exact UInt64.le_refl _
      · simp [step, hloop, Holds]
  | loadingMax size => exact UInt64.le_refl _
  | raisingMax size curMax =>
      by_cases hloop : curMax < size
      · by_cases hswap : metrics.maxChunkSize = curMax ∧ spurious = false
        · simp [step, hloop, hswap, Holds]
        · simp only [step, if_pos hloop, if_neg hswap]
          exact UInt64.le_refl _
      · simp [step, hloop, Holds]
  | addingSum size => trivial
  | countingOutcome success => trivial

/-- The minimum is only ever lowered and the maximum only ever raised. -/
theorem step_promise (h : t.Holds metrics) : Promise metrics (step spurious t metrics).2 := by
  have hrefl : Promise metrics metrics := ⟨UInt64.le_refl _, UInt64.le_refl _⟩
  obtain ⟨position, calls⟩ := t
  cases position with
  | between =>
      cases calls with
      | nil => exact hrefl
      | cons call calls => cases call <;> exact hrefl
  | countingChunk => exact hrefl
  | loweringMin size curMin =>
      by_cases hloop : size < curMin
      · by_cases hswap : metrics.minChunkSize = curMin ∧ spurious = false
        · simp only [step, if_pos hloop, if_pos hswap]
          exact ⟨UInt64.le_of_lt (hswap.1 ▸ hloop), UInt64.le_refl _⟩
        · simp only [step, if_pos hloop, if_neg hswap]
          exact hrefl
      · simp only [step, if_neg hloop]
        exact hrefl
  | loadingMax size => exact hrefl
  | raisingMax size curMax =>
      by_cases hloop : curMax < size
      · by_cases hswap : metrics.maxChunkSize = curMax ∧ spurious = false
        · simp only [step, if_pos hloop, if_pos hswap]
          exact ⟨UInt64.le_refl _, UInt64.le_of_lt (hswap.1 ▸ hloop)⟩
        · simp only [step, if_pos hloop, if_neg hswap]
          exact hrefl
      · simp only [step, if_neg hloop]
        exact hrefl
  | addingSum size => exact hrefl
  | countingOutcome success => cases success <;> exact hrefl

theorem holds_of_promise {before after : Metrics} (h : Promise before after)
    (ht : t.Holds before) : t.Holds after := by
  obtain ⟨position, calls⟩ := t
  cases position with
  | loweringMin size curMin => exact UInt64.le_trans h.1 ht
  | raisingMax size curMax => exact UInt64.le_trans ht h.2
  | between => trivial
  | countingChunk => trivial
  | loadingMax size => trivial
  | addingSum size => trivial
  | countingOutcome success => trivial

/-- What a thread knows of the minimum and the maximum is not spoilt by the others. -/
def outline : Threads.Outline step where
  holds := Holds
  promise := Promise
  keeps := step_holds
  promises := step_promise
  undisturbed := holds_of_promise

theorem finish_eq (t : Recorder) (metrics : Metrics) :
    t.finish metrics =
      (t.calls.map RecordCall.tally).foldl Metrics.absorb (metrics.absorb t.position.owed) := rfl

theorem enter_finish (call : RecordCall) (calls : List RecordCall) (metrics : Metrics) :
    (enter calls metrics call).1.finish (enter calls metrics call).2 =
      finish ⟨.between, call :: calls⟩ metrics := by
  have hbegun : finish ⟨.between, call :: calls⟩ metrics =
      (calls.map RecordCall.tally).foldl Metrics.absorb (metrics.absorb call.tally) := by
    simp [finish_eq, Position.owed]
  rw [hbegun]
  cases call with
  | addBytes size => simp [enter, finish_eq, Position.owed, RecordCall.tally, Metrics.absorb]
  | recordChunkSize size => rfl
  | recordBufferAcquire success =>
      cases success <;>
        simp [enter, finish_eq, Position.owed, RecordCall.tally, Metrics.absorb]
  | recordBufferRelease =>
      simp [enter, finish_eq, Position.owed, RecordCall.tally, Metrics.absorb]

/-- A step inside a call adds a part of what the call has yet to add. -/
theorem step_owed (spurious : Bool) {position : Position} (hposition : position ≠ .between)
    (calls : List RecordCall) (h : Holds ⟨position, calls⟩ metrics) :
    (step spurious ⟨position, calls⟩ metrics).1.calls = calls ∧
      (step spurious ⟨position, calls⟩ metrics).2.absorb
          (step spurious ⟨position, calls⟩ metrics).1.position.owed =
        metrics.absorb position.owed := by
  cases position with
  | between => exact absurd rfl hposition
  | countingChunk => exact ⟨rfl, by simp [step, Position.owed, Metrics.absorb]⟩
  | loweringMin size curMin =>
      by_cases hloop : size < curMin
      · by_cases hswap : metrics.minChunkSize = curMin ∧ spurious = false
        · simp [step, hloop, hswap, Position.owed, Metrics.absorb, lower_of_lt hloop]
        · simp [step, hloop, hswap, Position.owed]
      · -- the minimum has been read at some time and has not been raised since
        have hlower : ¬ size < metrics.minChunkSize := fun hlt =>
          hloop (UInt64.lt_of_lt_of_le hlt h)
        simp [step, hloop, Position.owed, Metrics.absorb, lower_of_not_lt hlower]
  | loadingMax size => exact ⟨rfl, rfl⟩
  | raisingMax size curMax =>
      by_cases hloop : curMax < size
      · by_cases hswap : metrics.maxChunkSize = curMax ∧ spurious = false
        · simp [step, hloop, hswap, Position.owed, Metrics.absorb, raise_of_lt hloop]
        · simp [step, hloop, hswap, Position.owed]
      · have hraise : ¬ metrics.maxChunkSize < size := fun hlt =>
          hloop (UInt64.lt_of_le_of_lt h hlt)
        simp [step, hloop, Position.owed, Metrics.absorb, raise_of_not_lt hraise]
  | addingSum size => exact ⟨rfl, by simp [step, Position.owed, Metrics.absorb]⟩
  | countingOutcome success =>
      cases success <;> exact ⟨rfl, by simp [step, Position.owed, Metrics.absorb]⟩

/-- A step adds a part of what the thread has yet to add. -/
theorem step_finish (spurious : Bool) (t : Recorder) (metrics : Metrics) (h : t.Holds metrics) :
    (step spurious t metrics).1.finish (step spurious t metrics).2 = t.finish metrics := by
  obtain ⟨position, calls⟩ := t
  by_cases hposition : position = .between
  · subst hposition
    cases calls with
    | nil => rfl
    | cons call calls => exact enter_finish call calls metrics
  · obtain ⟨hcalls, howed⟩ := step_owed spurious hposition calls h
    rw [finish_eq, finish_eq, hcalls, howed]

end Recorder

/-! ## All orders -/

theorem foldl_perform (calls : List RecordCall) (metrics : Metrics) :
    calls.foldl (fun metrics call => call.perform metrics) metrics =
      (calls.map RecordCall.tally).foldl Metrics.absorb metrics := by
  rw [List.foldl_map]
  exact congrArg (List.foldl · metrics calls) (funext₂ fun m call => call.perform_eq m)

/-- Before the first step, what is yet to come is what the calls add up to. -/
theorem settled_recording (programs : List (List RecordCall)) (metrics : Metrics) :
    Threads.settled Recorder.finish (recording programs metrics) =
      (programs.flatten.map RecordCall.tally).foldl Metrics.absorb metrics := by
  induction programs with
  | nil => rfl
  | cons calls programs ih =>
      have hfirst : Threads.settled Recorder.finish (recording (calls :: programs) metrics) =
          (calls.map RecordCall.tally).foldl Metrics.absorb
            (Threads.settled Recorder.finish (recording programs metrics)) :=
        congrArg ((calls.map RecordCall.tally).foldl Metrics.absorb) (Metrics.absorb_zero _)
      rw [hfirst, ih, ← List.foldl_append, List.flatten_cons, List.map_append]
      exact Metrics.foldl_absorb_perm List.perm_append_comm metrics

theorem outline_recording (programs : List (List RecordCall)) (metrics : Metrics) :
    Recorder.outline.Everywhere (recording programs metrics) := by
  intro t ht
  obtain ⟨calls, -, hcalls⟩ := List.mem_map.mp ht
  rw [← hcalls]
  trivial

/-- Once every call has returned, the counters are those of the single-threaded model, whatever
the order in which it makes the calls, and whatever the schedule of the threads was. -/
theorem record_interleaving (programs : List (List RecordCall)) (metrics : Metrics)
    (schedule : List (Nat × Bool)) (calls : List RecordCall)
    (horder : calls.Perm programs.flatten)
    (hreturned : ∀ t ∈ (Threads.run Recorder.step (recording programs metrics) schedule).threads,
      t.Returned) :
    (Threads.run Recorder.step (recording programs metrics) schedule).shared =
      calls.foldl (fun metrics call => call.perform metrics) metrics := by
  have hend := Threads.settled_of_done fun t ht => Recorder.finish_of_returned (hreturned t ht)
  have hrun := Threads.run_settled Recorder.finish_comm Recorder.outline Recorder.step_finish
    (outline_recording programs metrics) schedule
  rw [← hend, hrun, settled_recording, foldl_perform]
  exact Metrics.foldl_absorb_perm (horder.map _).symm metrics

/-- Two threads: the second one reads the minimum, loses the race for it, and gives up. -/
theorem record_interleaving_lost_race :
    (Threads.run Recorder.step (recording [[.recordChunkSize 3], [.recordChunkSize 5]] {})
      [(1, false), (0, false), (0, true), (0, false), (1, false), (1, false), (1, false),
        (0, false), (0, false), (0, false), (1, false), (1, false), (1, false)]).shared =
      [RecordCall.recordChunkSize 5, .recordChunkSize 3].foldl
        (fun metrics call => call.perform metrics) {} :=
  record_interleaving [[.recordChunkSize 3], [.recordChunkSize 5]] {} _
    [.recordChunkSize 5, .recordChunkSize 3] (List.Perm.swap _ _ _) (by decide)

/-! ## Lock freedom -/

namespace Recorder

/-- What a call weighs among `n` threads: its accesses, and for each of its two exchanges a retry
by every other thread. -/
def callWeight (n : Nat) : RecordCall → Nat
  | .addBytes _ => 2
  | .recordChunkSize _ => 2 * n + 5
  | .recordBufferAcquire _ => 2
  | .recordBufferRelease => 1

/-- What is left of the call a thread is in; a retry is due when the value it has read is out of
date. -/
def positionWeight (n : Nat) (metrics : Metrics) : Position → Nat
  | .between => 0
  | .countingChunk => 1
  | .loweringMin _ curMin => 2 * n + 4 + if metrics.minChunkSize = curMin then 0 else 1
  | .loadingMax _ => n + 3
  | .raisingMax _ curMax => n + 2 + if metrics.maxChunkSize = curMax then 0 else 1
  | .addingSum _ => 1
  | .countingOutcome _ => 1

def heavy (n : Nat) (t : Recorder) (metrics : Metrics) : Nat :=
  positionWeight n metrics t.position + (t.calls.map (callWeight n)).sum

/-- A successful exchange puts the values the others have read out of date. -/
def gift (spurious : Bool) (t : Recorder) (metrics : Metrics) : Nat :=
  if (step spurious t metrics).2.minChunkSize = metrics.minChunkSize ∧
    (step spurious t metrics).2.maxChunkSize = metrics.maxChunkSize then 0 else 1

/-- A turn of a thread that has not returned. -/
def working (_ : Bool) (t : Recorder) (_ : Metrics) : Nat := if t.Returned then 0 else 1

def spuriousFailure (spurious : Bool) (t : Recorder) (metrics : Metrics) : Nat :=
  if t.failsSpuriously spurious metrics then 1 else 0

/-- A turn of a thread that has not returned, other than a spurious failure. -/
def advancing (spurious : Bool) (t : Recorder) (metrics : Metrics) : Nat :=
  if t.Returned ∨ t.failsSpuriously spurious metrics then 0 else 1

theorem working_le (spurious : Bool) (t : Recorder) (metrics : Metrics) :
    t.working spurious metrics ≤
      t.advancing spurious metrics + t.spuriousFailure spurious metrics := by
  unfold working advancing spuriousFailure
  by_cases hreturned : t.Returned
  · simp [hreturned]
  · by_cases hfails : t.failsSpuriously spurious metrics = true
    · simp [hreturned, hfails]
    · simp [hreturned, hfails]

/-- The others gain at most a retry. -/
theorem heavy_le_of_step (n : Nat) (spurious : Bool) (t u : Recorder) (metrics : Metrics) :
    u.heavy n (step spurious t metrics).2 ≤ u.heavy n metrics + t.gift spurious metrics := by
  unfold heavy gift
  generalize (step spurious t metrics).2 = after
  by_cases hsame : after.minChunkSize = metrics.minChunkSize ∧
      after.maxChunkSize = metrics.maxChunkSize
  · rw [if_pos hsame]
    cases hposition : u.position <;> simp [positionWeight, hsame]
  · rw [if_neg hsame]
    cases u.position <;> simp only [positionWeight] <;> grind

/-- The exchange of the minimum, and the way out of its loop. -/
theorem step_heavy_loweringMin (n : Nat) (spurious : Bool) (size curMin : UInt64)
    (calls : List RecordCall) (metrics : Metrics) :
    (step spurious ⟨.loweringMin size curMin, calls⟩ metrics).1.heavy n
        (step spurious ⟨.loweringMin size curMin, calls⟩ metrics).2 +
          advancing spurious ⟨.loweringMin size curMin, calls⟩ metrics +
        n * gift spurious ⟨.loweringMin size curMin, calls⟩ metrics ≤
      heavy n ⟨.loweringMin size curMin, calls⟩ metrics +
        gift spurious ⟨.loweringMin size curMin, calls⟩ metrics := by
  by_cases hloop : size < curMin
  · by_cases hsame : metrics.minChunkSize = curMin
    · cases spurious with
      | false =>
          have hne : size ≠ curMin := UInt64.ne_of_lt hloop
          grind [step, heavy, gift, advancing, Returned, failsSpuriously, positionWeight]
      | true =>
          grind [step, heavy, gift, advancing, Returned, failsSpuriously, positionWeight]
    · grind [step, heavy, gift, advancing, Returned, failsSpuriously, positionWeight]
  · grind [step, heavy, gift, advancing, Returned, failsSpuriously, positionWeight]

/-- The exchange of the maximum, and the way out of its loop. -/
theorem step_heavy_raisingMax (n : Nat) (spurious : Bool) (size curMax : UInt64)
    (calls : List RecordCall) (metrics : Metrics) :
    (step spurious ⟨.raisingMax size curMax, calls⟩ metrics).1.heavy n
        (step spurious ⟨.raisingMax size curMax, calls⟩ metrics).2 +
          advancing spurious ⟨.raisingMax size curMax, calls⟩ metrics +
        n * gift spurious ⟨.raisingMax size curMax, calls⟩ metrics ≤
      heavy n ⟨.raisingMax size curMax, calls⟩ metrics +
        gift spurious ⟨.raisingMax size curMax, calls⟩ metrics := by
  by_cases hloop : curMax < size
  · by_cases hsame : metrics.maxChunkSize = curMax
    · cases spurious with
      | false =>
          have hne : size ≠ curMax := (UInt64.ne_of_lt hloop).symm
          grind [step, heavy, gift, advancing, Returned, failsSpuriously, positionWeight]
      | true =>
          grind [step, heavy, gift, advancing, Returned, failsSpuriously, positionWeight]
    · grind [step, heavy, gift, advancing, Returned, failsSpuriously, positionWeight]
  · grind [step, heavy, gift, advancing, Returned, failsSpuriously, positionWeight]

/-- A step pays for itself and for the retries it causes. -/
theorem step_heavy (n : Nat) (spurious : Bool) (t : Recorder) (metrics : Metrics) :
    (step spurious t metrics).1.heavy n (step spurious t metrics).2 +
        t.advancing spurious metrics + n * t.gift spurious metrics ≤
      t.heavy n metrics + t.gift spurious metrics := by
  obtain ⟨position, calls⟩ := t
  cases position with
  | between =>
      cases calls with
      | nil => grind [step, heavy, gift, advancing, Returned]
      | cons call calls =>
          cases call <;>
            grind [step, enter, heavy, gift, advancing, Returned, failsSpuriously, positionWeight,
              callWeight]
  | loweringMin size curMin => exact step_heavy_loweringMin n spurious size curMin calls metrics
  | raisingMax size curMax => exact step_heavy_raisingMax n spurious size curMax calls metrics
  | countingChunk =>
      grind [step, heavy, gift, advancing, Returned, failsSpuriously, positionWeight]
  | loadingMax size =>
      grind [step, heavy, gift, advancing, Returned, failsSpuriously, positionWeight]
  | addingSum size =>
      grind [step, heavy, gift, advancing, Returned, failsSpuriously, positionWeight]
  | countingOutcome success =>
      cases success <;>
        grind [step, heavy, gift, advancing, Returned, failsSpuriously, positionWeight]

theorem callWeight_le (n : Nat) (call : RecordCall) : callWeight n call ≤ 2 * n + 5 := by
  cases call <;> simp only [callWeight] <;> omega

end Recorder

theorem sum_map_callWeight_le (n : Nat) (calls : List RecordCall) :
    (calls.map (Recorder.callWeight n)).sum ≤ (2 * n + 5) * calls.length := by
  induction calls with
  | nil => simp
  | cons call calls ih =>
      have hcall := Recorder.callWeight_le n call
      simp only [List.map_cons, List.sum_cons, List.length_cons, Nat.mul_succ]
      omega

/-- The weight of the threads before their first step is that of their calls. -/
theorem weight_recording_le (n : Nat) (programs : List (List RecordCall)) (metrics : Metrics) :
    Threads.weight (Recorder.heavy n) (recording programs metrics) ≤
      (2 * n + 5) * programs.flatten.length := by
  induction programs with
  | nil => simp [Threads.weight, recording]
  | cons calls programs ih =>
      have hfirst : Threads.weight (Recorder.heavy n) (recording (calls :: programs) metrics) =
          (calls.map (Recorder.callWeight n)).sum +
            Threads.weight (Recorder.heavy n) (recording programs metrics) :=
        congrArg (· + Threads.weight (Recorder.heavy n) (recording programs metrics))
          (Nat.zero_add _)
      have hcalls := sum_map_callWeight_le n calls
      rw [hfirst, List.flatten_cons, List.length_append, Nat.mul_add]
      omega

/-- However the threads are scheduled, and however the races for the minimum and the maximum go,
only so many turns can be taken before all calls have returned; each spurious failure of an
exchange adds one. -/
theorem record_lockFree (programs : List (List RecordCall)) (metrics : Metrics)
    (schedule : List (Nat × Bool)) :
    Threads.spent Recorder.step Recorder.working (recording programs metrics) schedule ≤
      (2 * programs.length + 5) * programs.flatten.length +
        Threads.spent Recorder.step Recorder.spuriousFailure (recording programs metrics)
          schedule := by
  have hlength : (recording programs metrics).threads.length = programs.length := List.length_map _
  have hstart := weight_recording_le programs.length programs metrics
  generalize recording programs metrics = start at hlength hstart ⊢
  have hsplit : Threads.spent Recorder.step Recorder.working start schedule ≤
      Threads.spent Recorder.step Recorder.advancing start schedule +
        Threads.spent Recorder.step Recorder.spuriousFailure start schedule :=
    Threads.spent_le_add Recorder.working_le start schedule
  have hadvancing : Threads.weight (Recorder.heavy programs.length)
        (Threads.run Recorder.step start schedule) +
      Threads.spent Recorder.step Recorder.advancing start schedule ≤
        Threads.weight (Recorder.heavy programs.length) start :=
    Threads.run_weight_le (Recorder.step_heavy programs.length)
      (fun spurious t m u => Recorder.heavy_le_of_step programs.length spurious t u m)
      hlength schedule
  omega

end Vdi
