import Mathlib.Algebra.Order.BigOperators.Group.List
import VdiWrapper.Accounting

/-!
# The metrics ledger

Every counter of `Metrics` and the queue of free buffers, as functions of one list: the sizes of
the `VDC_Write`s dispatched so far.  `MetricsLedger` is that joint invariant.  `recordWrite` keeps
it, nothing else touches what it speaks about, so it holds after every call of a session and at
every moment the loop is about to call `GetCommand`.
-/

namespace Vdi

open Runs

variable {ω σ : Type} {env : Env ω σ}

/-- The sizes of the `VDC_Write`s dispatched in the trace. -/
def dispatchedSizes (es : List Event) : List Nat := sizes (writesDelivered es)

/-- The counters and the pool of a client that has dispatched `VDC_Write`s of sizes `W`.  Counters
are 64-bit words. -/
structure MetricsLedger (c : Client) (W : List Nat) : Prop where
  chunkCount : c.metrics.chunkCount = UInt64.ofNat W.length
  acquires : c.metrics.bufferAcquireCount = UInt64.ofNat W.length
  hits : c.metrics.bufferPoolHits = UInt64.ofNat W.length
  releases : c.metrics.bufferReleaseCount = UInt64.ofNat W.length
  misses : c.metrics.bufferPoolMisses = 0
  active : c.activeBuffers = 0
  maxActive : c.maxActiveBuffers = UInt64.ofNat (min 1 W.length)
  freeBuffers : c.bufferPool.freeBuffers ~r List.range bufferPoolSize
  totalBytes : c.metrics.totalBytes = UInt64.ofNat W.sum
  sumChunkSizes : c.metrics.sumChunkSizes = UInt64.ofNat W.sum
  untouched : W = [] →
    c.metrics.minChunkSize = 0xffffffffffffffff ∧ c.metrics.maxChunkSize = 0
  least : W ≠ [] → IsLeast {size | size ∈ W} c.metrics.minChunkSize.toNat
  greatest : W ≠ [] → IsGreatest {size | size ∈ W} c.metrics.maxChunkSize.toNat

theorem metricsLedger_new (enableLogging : Bool) (faultInjector : FaultInjector) :
    MetricsLedger (Client.new enableLogging faultInjector) [] where
  chunkCount := rfl
  acquires := rfl
  hits := rfl
  releases := rfl
  misses := rfl
  active := rfl
  maxActive := rfl
  freeBuffers := .refl _
  totalBytes := rfl
  sumChunkSizes := rfl
  untouched := fun _ => ⟨rfl, rfl⟩
  least := fun h => absurd rfl h
  greatest := fun h => absurd rfl h

/-- The ledger is a statement about the books. -/
theorem MetricsLedger.of_books {c d : Client} {W : List Nat} (h : MetricsLedger c W)
    (hbooks : d.books = c.books) : MetricsLedger d W := by
  simp only [Client.books, Prod.mk.injEq, Metrics.mk.injEq] at hbooks
  obtain ⟨⟨-, hbytes, hcount, hmin, hmax, hsum, hacquire, hrelease, hhits, hmisses, -⟩, hpool,
    hactive, hmaxActive⟩ := hbooks
  constructor
  · rw [hcount, h.chunkCount]
  · rw [hacquire, h.acquires]
  · rw [hhits, h.hits]
  · rw [hrelease, h.releases]
  · rw [hmisses, h.misses]
  · rw [hactive, h.active]
  · rw [hmaxActive, h.maxActive]
  · rw [hpool]
    exact h.freeBuffers
  · rw [hbytes, h.totalBytes]
  · rw [hsum, h.sumChunkSizes]
  · rw [hmin, hmax]
    exact h.untouched
  · rw [hmin]
    exact h.least
  · rw [hmax]
    exact h.greatest

/-! ## One write -/

/-- The pool is never empty: its queue is a rotation of all the buffers. -/
theorem MetricsLedger.exists_free {c : Client} {W : List Nat} (h : MetricsLedger c W) :
    ∃ buffer rest, c.bufferPool.freeBuffers = buffer :: rest := by
  have hlength : c.bufferPool.freeBuffers.length = 64 := by
    rw [h.freeBuffers.perm.length_eq]
    exact List.length_range
  cases hfree : c.bufferPool.freeBuffers with
  | nil =>
      rw [hfree] at hlength
      cases hlength
  | cons buffer rest => exact ⟨buffer, rest, rfl⟩

/-- The accounting of a write while there is a free buffer: it is taken from the front of the
queue and put back at its end. -/
theorem recordWrite_of_free {c : Client} {buffer : Nat} {rest : List Nat} (cmd : VdcCommand)
    (h : c.bufferPool.freeBuffers = buffer :: rest) :
    recordWrite cmd c =
      { c with
        metrics := (((c.metrics.recordChunkSize cmd.size.toUInt64).addBytes
          cmd.size.toUInt64).recordBufferAcquire true).recordBufferRelease
        maxActiveBuffers :=
          if c.maxActiveBuffers < c.activeBuffers + 1 then c.activeBuffers + 1
          else c.maxActiveBuffers
        bufferPool := { c.bufferPool with freeBuffers := rest ++ [buffer] }
        activeBuffers := c.activeBuffers + 1 - 1 } := by
  unfold recordWrite simulateBufferPool BufferPool.acquire
  rw [h]
  rfl

theorem ofNat_length_snoc (W : List Nat) (size : Nat) :
    UInt64.ofNat W.length + 1 = UInt64.ofNat (W ++ [size]).length := by
  rw [List.length_append, UInt64.ofNat_add]
  rfl

theorem ofNat_sum_snoc (W : List Nat) (size : UInt32) :
    UInt64.ofNat W.sum + size.toUInt64 = UInt64.ofNat (W ++ [size.toNat]).sum := by
  rw [List.sum_append, List.sum_singleton, UInt64.ofNat_add, toUInt64_eq_ofNat]

/-- A size is below the sentinel of the minimum. -/
theorem size_lt_sentinel (size : UInt32) : size.toUInt64 < 0xffffffffffffffff := by
  have hlt := size.toNat_lt
  rw [UInt64.lt_iff_toNat_lt, UInt32.toNat_toUInt64]
  exact Nat.lt_of_lt_of_le hlt (by decide)

theorem min_toNat (a b : UInt64) : (if a < b then a else b).toNat = min a.toNat b.toNat := by
  split
  · next hlt =>
    rw [UInt64.lt_iff_toNat_lt] at hlt
    omega
  · next hge =>
    rw [UInt64.lt_iff_toNat_lt] at hge
    omega

theorem max_toNat (a b : UInt64) : (if b < a then a else b).toNat = max a.toNat b.toNat := by
  split
  · next hlt =>
    rw [UInt64.lt_iff_toNat_lt] at hlt
    omega
  · next hge =>
    rw [UInt64.lt_iff_toNat_lt] at hge
    omega

theorem mem_snoc_eq_insert (W : List Nat) (size : Nat) :
    {n | n ∈ W ++ [size]} = insert size {n | n ∈ W} := by
  ext n
  simp [or_comm]

/-- The minimum after one more size. -/
theorem MetricsLedger.least_snoc {c : Client} {W : List Nat} (h : MetricsLedger c W)
    (size : UInt32) :
    IsLeast {n | n ∈ W ++ [size.toNat]}
      (if size.toUInt64 < c.metrics.minChunkSize then size.toUInt64
        else c.metrics.minChunkSize).toNat := by
  rw [mem_snoc_eq_insert]
  by_cases hW : W = []
  · have hsize : size.toUInt64 < c.metrics.minChunkSize := by
      rw [(h.untouched hW).1]
      exact size_lt_sentinel size
    rw [if_pos hsize, hW, UInt32.toNat_toUInt64]
    simp
  · rw [min_toNat, UInt32.toNat_toUInt64]
    exact (h.least hW).insert size.toNat

/-- The maximum after one more size. -/
theorem MetricsLedger.greatest_snoc {c : Client} {W : List Nat} (h : MetricsLedger c W)
    (size : UInt32) :
    IsGreatest {n | n ∈ W ++ [size.toNat]}
      (if c.metrics.maxChunkSize < size.toUInt64 then size.toUInt64
        else c.metrics.maxChunkSize).toNat := by
  rw [mem_snoc_eq_insert, max_toNat, UInt32.toNat_toUInt64]
  by_cases hW : W = []
  · rw [(h.untouched hW).2, hW]
    simp
  · exact (h.greatest hW).insert size.toNat

/-- One more `VDC_Write`. -/
theorem MetricsLedger.recordWrite {c : Client} {W : List Nat} (h : MetricsLedger c W)
    (cmd : VdcCommand) : MetricsLedger (recordWrite cmd c) (W ++ [cmd.size.toNat]) := by
  obtain ⟨buffer, rest, hfree⟩ := h.exists_free
  rw [recordWrite_of_free cmd hfree]
  have hrotated : rest ++ [buffer] ~r List.range bufferPoolSize := by
    have hfront := h.freeBuffers
    rw [hfree] at hfront
    have hturn : rest ++ [buffer] ~r [buffer] ++ rest := List.isRotated_append
    exact hturn.trans hfront
  constructor
  · rw [← ofNat_length_snoc, ← h.chunkCount]
    rfl
  · rw [← ofNat_length_snoc, ← h.acquires]
    rfl
  · rw [← ofNat_length_snoc, ← h.hits]
    rfl
  · rw [← ofNat_length_snoc, ← h.releases]
    rfl
  · exact h.misses
  · rw [h.active]
    rfl
  · have hone : min 1 (W ++ [cmd.size.toNat]).length = 1 := by
      rw [List.length_append, List.length_singleton]
      omega
    rw [h.active, h.maxActive, hone]
    by_cases hW : W = []
    · rw [hW]
      rfl
    · have hmin : min 1 W.length = 1 := by
        have := List.length_pos_iff.mpr hW
        omega
      rw [hmin]
      rfl
  · exact hrotated
  · rw [← ofNat_sum_snoc, ← h.totalBytes]
    rfl
  · rw [← ofNat_sum_snoc, ← h.sumChunkSizes]
    rfl
  · intro hnil
    simp at hnil
  · exact fun _ => h.least_snoc cmd.size
  · exact fun _ => h.greatest_snoc cmd.size

theorem MetricsLedger.recordWrites {c : Client} {W : List Nat} (h : MetricsLedger c W)
    (cmds : List VdcCommand) : MetricsLedger (recordWrites cmds c) (W ++ sizes cmds) := by
  induction cmds generalizing c W with
  | nil => simpa [Vdi.recordWrites, sizes] using h
  | cons cmd cmds ih =>
      have hrest := ih (h.recordWrite cmd)
      rw [List.append_assoc] at hrest
      exact hrest

/-! ## What the summary reports -/

/-- What `print_summary` and `to_json` say of a client that has dispatched a `VDC_Write`. -/
structure MetricsSummary (c : Client) : Prop where
  /-- The reuse rate is 100%. -/
  reuse : 0 < c.metrics.bufferAcquireCount ∧
    c.metrics.bufferPoolHits = c.metrics.bufferAcquireCount
  minimum : c.metrics.reportedMin = c.metrics.minChunkSize
  average : c.metrics.avgFromTotals = some c.metrics.reportedAvg
  atLeast : c.metrics.reportedMin ≤ c.metrics.reportedAvg
  atMost : c.metrics.reportedAvg ≤ c.metrics.maxChunkSize

theorem sizes_lt {cmds : List VdcCommand} : ∀ size ∈ sizes cmds, size < 2 ^ 32 := by
  intro size hsize
  obtain ⟨cmd, -, rfl⟩ := List.mem_map.mp hsize
  exact cmd.size.toNat_lt

/-- The sentinel of the minimum never shows. -/
theorem MetricsLedger.reportedMin_eq {c : Client} {W : List Nat} (h : MetricsLedger c W)
    (hW : W ≠ []) (hsmall : ∀ size ∈ W, size < 2 ^ 32) :
    c.metrics.reportedMin = c.metrics.minChunkSize := by
  have hlt := hsmall _ (h.least hW).1
  rw [Metrics.reportedMin, if_neg]
  intro hsentinel
  rw [hsentinel] at hlt
  revert hlt
  decide

theorem sum_bounds {W : List Nat} {lo hi : Nat} (hlo : ∀ size ∈ W, lo ≤ size)
    (hhi : ∀ size ∈ W, size ≤ hi) : lo * W.length ≤ W.sum ∧ W.sum ≤ W.length * hi := by
  constructor
  · rw [Nat.mul_comm]
    exact List.card_nsmul_le_sum W lo hlo
  · exact List.sum_le_card_nsmul W hi hhi

/-- Until a counter wraps, the summary tells the truth about the sizes. -/
theorem MetricsLedger.summary {c : Client} {W : List Nat} (h : MetricsLedger c W)
    (hW : W ≠ []) (hsmall : ∀ size ∈ W, size < 2 ^ 32) (hcount : W.length < 2 ^ 64)
    (hsum : W.sum < 2 ^ 64) : MetricsSummary c := by
  have hpos : 0 < W.length := List.length_pos_iff.mpr hW
  have hlength : (UInt64.ofNat W.length).toNat = W.length := UInt64.toNat_ofNat_of_lt' hcount
  have hword : 0 < UInt64.ofNat W.length := by
    rw [UInt64.lt_iff_toNat_lt, hlength]
    exact hpos
  have hmin := h.reportedMin_eq hW hsmall
  have havg : c.metrics.reportedAvg = UInt64.ofNat W.sum / UInt64.ofNat W.length := by
    rw [Metrics.reportedAvg, h.chunkCount, h.sumChunkSizes, if_pos hword]
  have htoNat : c.metrics.reportedAvg.toNat = W.sum / W.length := by
    rw [havg, UInt64.toNat_div, hlength, UInt64.toNat_ofNat_of_lt' hsum]
  obtain ⟨hlo, hhi⟩ := sum_bounds (h.least hW).2 (h.greatest hW).2
  constructor
  · rw [h.acquires, h.hits]
    exact ⟨hword, rfl⟩
  · exact hmin
  · rw [havg, Metrics.avgFromTotals, h.chunkCount, h.totalBytes, if_pos hword]
  · rw [hmin, UInt64.le_iff_toNat_le, htoNat]
    exact (Nat.le_div_iff_mul_le hpos).mpr hlo
  · rw [UInt64.le_iff_toNat_le, htoNat]
    exact Nat.div_le_of_le_mul hhi

/-! ## Sessions -/

theorem ConnectRun.books {name : String} {count : Int} {c c' : Client} {es : List Event}
    (h : ConnectRun name count c es c') : c'.books = c.books ∧ ∀ e ∈ es, e.OffBooks := by
  cases h <;> exact ⟨rfl, by simp [failure, uninit]⟩

theorem OpenRun.books {c c' : Client} {es : List Event} (h : OpenRun c es c') :
    c'.books = c.books ∧ ∀ e ∈ es, e.OffBooks := by
  cases h <;> exact ⟨rfl, by simp [failure]⟩

theorem CallRun.books {c c' : Client} {call : ApiCall} {es : List Event} {flow : Flow}
    (h : CallRun c call es flow c') :
    c'.books = (recordWrites (writesDelivered es) c).books := by
  cases h with
  | connectRefused | openRefused | setCommandTimeout | setFailAfterNChunks | closedAgain => rfl
  | connect hstate run =>
      obtain ⟨hbooks, hoff⟩ := run.books
      rw [writesDelivered_offBooks hoff]
      exact hbooks
  | openDevices hstate run =>
      obtain ⟨hbooks, hoff⟩ := run.books
      rw [writesDelivered_offBooks hoff]
      exact hbooks
  | served run => exact run.books
  | serving run => exact run.books
  | close =>
      rw [writesDelivered_offBooks fun e he => (closing_afterLoop e he).aroundLoop.offBooks]
      rfl

theorem SessionRun.books {c c' : Client} {es : List Event} {flow : Flow}
    (h : SessionRun c es flow c') : c'.books = (recordWrites (writesDelivered es) c).books := by
  induction h with
  | start => rfl
  | call before run ih =>
      rw [writesDelivered_append, recordWrites_append, run.books]
      exact recordWrites_congr _ ih

/-- The ledger of the sizes `W`, and the summary until a counter wraps. -/
def LedgerKept (c : Client) (W : List Nat) : Prop :=
  MetricsLedger c W ∧ (W ≠ [] → W.length < 2 ^ 64 → W.sum < 2 ^ 64 → MetricsSummary c)

/-- The books of a fresh client that has recorded the writes of `es`. -/
theorem ledgerKept_of_books {enableLogging : Bool} {faultInjector : FaultInjector} {c : Client}
    {es : List Event} (h : c.books =
      (recordWrites (writesDelivered es) (Client.new enableLogging faultInjector)).books) :
    LedgerKept c (dispatchedSizes es) := by
  have hledger : MetricsLedger c (dispatchedSizes es) :=
    ((metricsLedger_new enableLogging faultInjector).recordWrites _).of_books h
  exact ⟨hledger, fun hW hcount hsum => hledger.summary hW sizes_lt hcount hsum⟩

/-- **The metrics ledger.**  After any calls on a client, and whenever a `process_commands` made
next is about to call `GetCommand`, every counter is what the sizes dispatched so far make it. -/
theorem session_ledgerKept (env : Env ω σ) (enableLogging : Bool)
    (faultInjector : FaultInjector) (outside : Outside ω σ) (calls : List ApiCall) :
    let m := session env enableLogging faultInjector outside calls
    LedgerKept m.client (dispatchedSizes m.trace) ∧
      ∀ device m', AboutToPoll env m device m' →
        LedgerKept m'.client (dispatchedSizes m'.trace) := by
  intro m
  obtain ⟨flow, run, -⟩ := session_sessionRun env enableLogging faultInjector outside calls
  refine ⟨ledgerKept_of_books run.books, fun device m' hpoll => ?_⟩
  obtain ⟨es, t, htrace, serving, -⟩ := hpoll.commandRun
  have hwrites : writesDelivered m'.trace = writesDelivered m.trace ++ writesDelivered es := by
    rw [htrace, writesDelivered_append, writesDelivered_append]
    exact List.append_nil _
  have hbooks : m'.client.books = (recordWrites (writesDelivered m'.trace)
      (Client.new enableLogging faultInjector)).books := by
    rw [hwrites, recordWrites_append, serving.books]
    exact recordWrites_congr _ run.books
  exact ledgerKept_of_books hbooks

/-- A client about to poll for the second time: it has dispatched one byte. -/
def secondPoll : Machine Server Unit :=
  let env := scriptedEnv nullSink
  let m := session env false {} (scriptedStart [[deliver (oneByte 7)]] ())
    [.connect "backup" 1, .openDevices]
  ((nowUs env).run ((processCommands env 1).run m).2).2

theorem secondPoll_ledgerKept : LedgerKept secondPoll.client [1] := by
  have hserving : ((processCommands (scriptedEnv nullSink) 1).run
      (session (scriptedEnv nullSink) false {} (scriptedStart [[deliver (oneByte 7)]] ())
        [.connect "backup" 1, .openDevices])).1 = false := by decide +kernel
  have hsizes : dispatchedSizes secondPoll.trace = [1] := by decide +kernel
  obtain ⟨device, hpoll⟩ := processCommands_aboutToPoll (Prod.ext hserving rfl)
  rw [← hsizes]
  exact (session_ledgerKept (scriptedEnv nullSink) false {}
    (scriptedStart [[deliver (oneByte 7)]] ()) [.connect "backup" 1, .openDevices]).2 device _
    hpoll

end Vdi
