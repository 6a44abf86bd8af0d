import VdiWrapper.Lib.JsonParser
import VdiWrapper.Percentile

/-!
# `Metrics::to_json`

The text `to_json` writes, line by line, and what it denotes in the grammar of JSON.  Every
character of it is ASCII, so the `std::string` is given by its characters; `\x7b` and `\x7d` are the
braces.

A `double` is given by its value: with a session of whole milliseconds and 64-bit counters no
operation of `to_json` overflows, so each is the exact result, rounded.  The rounding and the
`std::fixed` formatting are those of the platform (`Doubles`).
-/

namespace Vdi

open Json

/-- The `double` arithmetic of the platform, and how `std::fixed` prints a value. -/
structure Doubles where
  /-- The nearest `double`. -/
  round : ℚ → ℚ
  round_nonneg : ∀ q, 0 ≤ q → 0 ≤ round q
  /-- `os << std::fixed << std::setprecision(precision) << q`. -/
  fixed : Nat → ℚ → List Char
  /-- Digits, a point, digits. -/
  fixed_digits : ∀ precision q, 0 < precision → 0 ≤ q → ∃ n ds, Json.Digits ds ∧ ds ≠ [] ∧
    fixed precision q = Nat.toDigits 10 n ++ '.' :: ds

namespace Doubles

variable (doubles : Doubles)

/-- The conversion of an unsigned integer. -/
def ofUInt64 (n : UInt64) : ℚ := doubles.round n.toNat

def div (a b : ℚ) : ℚ := doubles.round (a / b)

def mul (a b : ℚ) : ℚ := doubles.round (a * b)

theorem ofUInt64_nonneg (n : UInt64) : 0 ≤ doubles.ofUInt64 n :=
  doubles.round_nonneg _ (Nat.cast_nonneg _)

theorem div_nonneg {a b : ℚ} (ha : 0 ≤ a) (hb : 0 ≤ b) : 0 ≤ doubles.div a b :=
  doubles.round_nonneg _ (Rat.div_nonneg ha hb)

theorem mul_nonneg {a b : ℚ} (ha : 0 ≤ a) (hb : 0 ≤ b) : 0 ≤ doubles.mul a b :=
  doubles.round_nonneg _ (Rat.mul_nonneg ha hb)

/-- Arithmetic without rounding, printed to the nearest decimal. -/
def exact : Doubles where
  round := id
  round_nonneg _ h := h
  fixed precision q :=
    let scaled := ⌊q * 10 ^ precision + 1 / 2⌋.toNat
    Nat.toDigits 10 (scaled / 10 ^ precision) ++ '.' ::
      (List.range precision).map fun i => (scaled / 10 ^ (precision - 1 - i) % 10).digitChar
  fixed_digits precision q hprecision _ := by
    refine ⟨_, _, ?_, ?_, rfl⟩
    · intro c hc
      obtain ⟨i, _, rfl⟩ := List.mem_map.mp hc
      rw [Nat.isDigit_digitChar, decide_eq_true_eq]
      exact Nat.mod_lt _ (by decide)
    · intro hnil
      rw [List.map_eq_nil_iff, List.range_eq_nil] at hnil
      omega

end Doubles

/-- `kernel_us` and `user_us`, as `GetProcessTimes` reports them. -/
structure CpuTimes where
  kernelUs : UInt64
  userUs : UInt64

/-- `VDI_WRAPPER_VERSION_STRING`. -/
def vdiWrapperVersionString : String := "0.1.0"

/-- `os << n` for an unsigned integer. -/
def printed (n : UInt64) : List Char := Nat.toDigits 10 n.toNat

namespace Metrics

variable (metrics : Metrics) (doubles : Doubles)

/-- `seconds`: the milliseconds since construction, over `1000.0`. -/
def seconds (elapsedMs : UInt64) : ℚ := doubles.div (doubles.ofUInt64 elapsedMs) 1000

/-- `throughput` -/
def throughput (elapsedMs : UInt64) : ℚ :=
  let seconds := seconds doubles elapsedMs
  let mb := doubles.div (doubles.div (doubles.ofUInt64 metrics.totalBytes) 1024) 1024
  if 0 < seconds then doubles.div mb seconds else 0

/-- `reuse_rate` -/
def reuseRate : ℚ :=
  if 0 < metrics.bufferAcquireCount then
    doubles.mul (doubles.div (doubles.ofUInt64 metrics.bufferPoolHits)
      (doubles.ofUInt64 metrics.bufferAcquireCount)) 100
  else 0

/-- The lines of one stage, up to its closing brace. -/
def stageLines (name : String) (field : ChunkTiming → UInt64) : List (List Char) :=
  ["    \"".toList, name.toList, "\": \x7b\n".toList,
    "      \"p50\": ".toList, printed (metrics.stageP field 50), ",\n".toList,
    "      \"p95\": ".toList, printed (metrics.stageP field 95), ",\n".toList,
    "      \"p99\": ".toList, printed (metrics.stageP field 99), "\n".toList]

/-- The lines under `#ifdef _WIN32`. -/
def cpuLines (cpu : CpuTimes) : List (List Char) :=
  ["  \"cpu\": \x7b\n".toList,
    "    \"kernel_ms\": ".toList, printed (cpu.kernelUs / 1000), ",\n".toList,
    "    \"user_ms\": ".toList, printed (cpu.userUs / 1000), ",\n".toList,
    "    \"total_ms\": ".toList, printed ((cpu.kernelUs + cpu.userUs) / 1000), "\n".toList,
    "  \x7d,\n".toList]

/-- `Metrics::to_json`, `elapsedMs` after construction; `cpu` on Windows only. -/
def toJson (elapsedMs : UInt64) (cpu : Option CpuTimes) : List Char :=
  (["\x7b\n".toList,
    "  \"tool_version\": \"".toList, vdiWrapperVersionString.toList, "\",\n".toList,
    "  \"throughput_mbps\": ".toList, doubles.fixed 1 (metrics.throughput doubles elapsedMs),
      ",\n".toList,
    "  \"total_bytes\": ".toList, printed metrics.totalBytes, ",\n".toList,
    "  \"chunk_count\": ".toList, printed metrics.chunkCount, ",\n".toList,
    "  \"elapsed_seconds\": ".toList, doubles.fixed 2 (seconds doubles elapsedMs), ",\n".toList,
    "  \"chunk_sizes\": \x7b\n".toList,
    "    \"min_bytes\": ".toList, printed metrics.reportedMin, ",\n".toList,
    "    \"avg_bytes\": ".toList, printed metrics.reportedAvg, ",\n".toList,
    "    \"max_bytes\": ".toList, printed metrics.maxChunkSize, "\n".toList,
    "  \x7d,\n".toList] ++
  (match cpu with
    | none => []
    | some cpu => cpuLines cpu) ++
  ["  \"per_stage_timing_us\": \x7b\n".toList] ++
  metrics.stageLines "getcommand" ChunkTiming.getcommandUs ++ ["    \x7d,\n".toList] ++
  metrics.stageLines "dispatch" ChunkTiming.dispatchUs ++ ["    \x7d,\n".toList] ++
  metrics.stageLines "sink" ChunkTiming.sinkUs ++ ["    \x7d,\n".toList] ++
  metrics.stageLines "complete" ChunkTiming.completeUs ++ ["    \x7d,\n".toList] ++
  metrics.stageLines "total" ChunkTiming.totalUs ++ ["    \x7d\n".toList] ++
  ["  \x7d,\n".toList,
    "  \"buffer_pool\": \x7b\n".toList,
    "    \"acquires\": ".toList, printed metrics.bufferAcquireCount, ",\n".toList,
    "    \"releases\": ".toList, printed metrics.bufferReleaseCount, ",\n".toList,
    "    \"hits\": ".toList, printed metrics.bufferPoolHits, ",\n".toList,
    "    \"misses\": ".toList, printed metrics.bufferPoolMisses, ",\n".toList,
    "    \"reuse_rate_pct\": ".toList, doubles.fixed 1 (metrics.reuseRate doubles), "\n".toList,
    "  \x7d,\n".toList,
    "  \"logging_enabled\": ".toList, (if metrics.loggingEnabled then "true" else "false").toList,
      "\n".toList,
    "\x7d".toList]).flatten

/-! ## The layout -/

/-- A stage with its three percentiles. -/
def stageObject (field : ChunkTiming → UInt64) : List Char :=
  layObject (newline 6) (newline 4)
    [("p50".toList, printed (metrics.stageP field 50)),
      ("p95".toList, printed (metrics.stageP field 95)),
      ("p99".toList, printed (metrics.stageP field 99))]

/-- The members of the document, as they are printed. -/
def printedMembers (elapsedMs : UInt64) (cpu : Option CpuTimes) :
    List (List Char × List Char) :=
  [("tool_version".toList, '"' :: (vdiWrapperVersionString.toList ++ ['"'])),
    ("throughput_mbps".toList, doubles.fixed 1 (metrics.throughput doubles elapsedMs)),
    ("total_bytes".toList, printed metrics.totalBytes),
    ("chunk_count".toList, printed metrics.chunkCount),
    ("elapsed_seconds".toList, doubles.fixed 2 (seconds doubles elapsedMs)),
    ("chunk_sizes".toList, layObject (newline 4) (newline 2)
      [("min_bytes".toList, printed metrics.reportedMin),
        ("avg_bytes".toList, printed metrics.reportedAvg),
        ("max_bytes".toList, printed metrics.maxChunkSize)])] ++
  (cpu.toList.map fun cpu => ("cpu".toList, layObject (newline 4) (newline 2)
    [("kernel_ms".toList, printed (cpu.kernelUs / 1000)),
      ("user_ms".toList, printed (cpu.userUs / 1000)),
      ("total_ms".toList, printed ((cpu.kernelUs + cpu.userUs) / 1000))])) ++
  [("per_stage_timing_us".toList, layObject (newline 4) (newline 2)
      [("getcommand".toList, metrics.stageObject ChunkTiming.getcommandUs),
        ("dispatch".toList, metrics.stageObject ChunkTiming.dispatchUs),
        ("sink".toList, metrics.stageObject ChunkTiming.sinkUs),
        ("complete".toList, metrics.stageObject ChunkTiming.completeUs),
        ("total".toList, metrics.stageObject ChunkTiming.totalUs)]),
    ("buffer_pool".toList, layObject (newline 4) (newline 2)
      [("acquires".toList, printed metrics.bufferAcquireCount),
        ("releases".toList, printed metrics.bufferReleaseCount),
        ("hits".toList, printed metrics.bufferPoolHits),
        ("misses".toList, printed metrics.bufferPoolMisses),
        ("reuse_rate_pct".toList, doubles.fixed 1 (metrics.reuseRate doubles))]),
    ("logging_enabled".toList, (if metrics.loggingEnabled then "true" else "false").toList)]

/-- The lines of a stage and its closing brace are the member of the layout. -/
theorem stageLines_flatten (name : String) (field : ChunkTiming → UInt64) (r : List Char) :
    (metrics.stageLines name field).flatten ++ ' ' :: ' ' :: ' ' :: ' ' :: '}' :: r =
      ' ' :: ' ' :: ' ' :: ' ' :: '"' ::
        (name.toList ++ '"' :: ':' :: ' ' :: (metrics.stageObject field ++ r)) := by
  simp [stageLines, stageObject, layObject, layMembers, newline]

set_option maxRecDepth 2000 in
theorem toJson_eq_layObject (elapsedMs : UInt64) (cpu : Option CpuTimes) :
    metrics.toJson doubles elapsedMs cpu =
      layObject (newline 2) (newline 0) (metrics.printedMembers doubles elapsedMs cpu) := by
  cases cpu <;>
    simp [toJson, stageLines_flatten, cpuLines, printedMembers, layObject, layMembers, newline]

/-! ## What it denotes -/

theorem denotes_printed (n : UInt64) : Denotes (printed n) (.number n.toNat) :=
  denotes_toDigits n.toNat

/-- A member that is a counter. -/
theorem counterDenotes (key : String) (n : UInt64) (hplain : Plain key.toList) :
    MemberDenotes (key.toList, printed n) (key.toList, .number n.toNat) :=
  memberDenotes key (denotes_printed n) hplain

/-- Members that are counters. -/
theorem forall₂_counters (counters : List (String × UInt64))
    (hplain : ∀ key ∈ counters.map Prod.fst, Plain key.toList) :
    List.Forall₂ MemberDenotes (counters.map fun p => (p.1.toList, printed p.2))
      (counters.map fun p => (p.1.toList, .number p.2.toNat)) := by
  rw [List.forall₂_map_left_iff, List.forall₂_map_right_iff, List.forall₂_same]
  intro p hp
  exact counterDenotes p.1 p.2 (hplain p.1 (List.mem_map_of_mem hp))

/-- The percentiles of one stage. -/
def stageValue (field : ChunkTiming → UInt64) : Value :=
  .object
    [("p50".toList, .number (metrics.stageP field 50).toNat),
      ("p95".toList, .number (metrics.stageP field 95).toNat),
      ("p99".toList, .number (metrics.stageP field 99).toNat)]

theorem denotes_stageObject (field : ChunkTiming → UInt64) :
    Denotes (metrics.stageObject field) (metrics.stageValue field) :=
  denotes_layObject (space_newline 6) (space_newline 4)
    (forall₂_counters [("p50", metrics.stageP field 50), ("p95", metrics.stageP field 95),
      ("p99", metrics.stageP field 99)] (by decide : ∀ key ∈ ["p50", "p95", "p99"], _)) (by simp)

/-- The document, up to the three numbers printed from a `double`. -/
def jsonValue (throughput seconds reuseRate : ℚ) (cpu : Option CpuTimes) : Value :=
  .object <|
    [("tool_version".toList, .string vdiWrapperVersionString.toList),
      ("throughput_mbps".toList, .number throughput),
      ("total_bytes".toList, .number metrics.totalBytes.toNat),
      ("chunk_count".toList, .number metrics.chunkCount.toNat),
      ("elapsed_seconds".toList, .number seconds),
      ("chunk_sizes".toList, .object
        [("min_bytes".toList, .number metrics.reportedMin.toNat),
          ("avg_bytes".toList, .number metrics.reportedAvg.toNat),
          ("max_bytes".toList, .number metrics.maxChunkSize.toNat)])] ++
    (cpu.toList.map fun cpu => ("cpu".toList, .object
      [("kernel_ms".toList, .number (cpu.kernelUs / 1000).toNat),
        ("user_ms".toList, .number (cpu.userUs / 1000).toNat),
        ("total_ms".toList, .number ((cpu.kernelUs + cpu.userUs) / 1000).toNat)])) ++
    [("per_stage_timing_us".toList, .object
        [("getcommand".toList, metrics.stageValue ChunkTiming.getcommandUs),
          ("dispatch".toList, metrics.stageValue ChunkTiming.dispatchUs),
          ("sink".toList, metrics.stageValue ChunkTiming.sinkUs),
          ("complete".toList, metrics.stageValue ChunkTiming.completeUs),
          ("total".toList, metrics.stageValue ChunkTiming.totalUs)]),
      ("buffer_pool".toList, .object
        [("acquires".toList, .number metrics.bufferAcquireCount.toNat),
          ("releases".toList, .number metrics.bufferReleaseCount.toNat),
          ("hits".toList, .number metrics.bufferPoolHits.toNat),
          ("misses".toList, .number metrics.bufferPoolMisses.toNat),
          ("reuse_rate_pct".toList, .number reuseRate)]),
      ("logging_enabled".toList, .bool metrics.loggingEnabled)]

/-- The cpu block, if there is one. -/
theorem forall₂_cpu (cpu : Option CpuTimes) :
    List.Forall₂ MemberDenotes
      (cpu.toList.map fun cpu => ("cpu".toList, layObject (newline 4) (newline 2)
        [("kernel_ms".toList, printed (cpu.kernelUs / 1000)),
          ("user_ms".toList, printed (cpu.userUs / 1000)),
          ("total_ms".toList, printed ((cpu.kernelUs + cpu.userUs) / 1000))]))
      (cpu.toList.map fun cpu => ("cpu".toList, .object
        [("kernel_ms".toList, .number (cpu.kernelUs / 1000).toNat),
          ("user_ms".toList, .number (cpu.userUs / 1000).toNat),
          ("total_ms".toList, .number ((cpu.kernelUs + cpu.userUs) / 1000).toNat)])) := by
  cases cpu with
  | none => exact .nil
  | some cpu =>
      have htimes := denotes_layObject (space_newline 4) (space_newline 2)
        (forall₂_counters [("kernel_ms", cpu.kernelUs / 1000), ("user_ms", cpu.userUs / 1000),
            ("total_ms", (cpu.kernelUs + cpu.userUs) / 1000)]
          (by decide : ∀ key ∈ ["kernel_ms", "user_ms", "total_ms"], _)) (by simp)
      exact .cons (memberDenotes "cpu" htimes (by decide)) .nil

/-- A `double` that is not negative is printed as a number. -/
theorem denotes_fixed (precision : Nat) {q : ℚ} (hprecision : 0 < precision) (hq : 0 ≤ q) :
    ∃ x, Denotes (doubles.fixed precision q) (.number x) := by
  obtain ⟨n, ds, hds, hne, hfixed⟩ := doubles.fixed_digits precision q hprecision hq
  rw [hfixed]
  exact ⟨_, .number (number_fixed n hds hne)⟩

theorem seconds_nonneg (elapsedMs : UInt64) : 0 ≤ seconds doubles elapsedMs :=
  doubles.div_nonneg (doubles.ofUInt64_nonneg _) (by norm_num)

theorem throughput_nonneg (elapsedMs : UInt64) :
    0 ≤ metrics.throughput doubles elapsedMs := by
  have hkib := doubles.div_nonneg (doubles.ofUInt64_nonneg metrics.totalBytes)
    (by norm_num : (0 : ℚ) ≤ 1024)
  have hmb := doubles.div_nonneg hkib (by norm_num : (0 : ℚ) ≤ 1024)
  unfold throughput
  dsimp only
  split
  · exact doubles.div_nonneg hmb (seconds_nonneg doubles elapsedMs)
  · exact le_refl _

theorem reuseRate_nonneg : 0 ≤ metrics.reuseRate doubles := by
  have hrate := doubles.div_nonneg (doubles.ofUInt64_nonneg metrics.bufferPoolHits)
    (doubles.ofUInt64_nonneg metrics.bufferAcquireCount)
  unfold reuseRate
  split
  · exact doubles.mul_nonneg hrate (by norm_num)
  · exact le_refl _

/-- The text of `to_json` is a JSON document. -/
theorem document_toJson (elapsedMs : UInt64) (cpu : Option CpuTimes) :
    ∃ throughput seconds reuseRate, Document (metrics.toJson doubles elapsedMs cpu)
      (metrics.jsonValue throughput seconds reuseRate cpu) := by
  obtain ⟨throughput, hthroughput⟩ := denotes_fixed doubles 1 (by decide)
    (metrics.throughput_nonneg doubles elapsedMs)
  obtain ⟨elapsed, helapsed⟩ := denotes_fixed doubles 2 (by decide)
    (seconds_nonneg doubles elapsedMs)
  obtain ⟨reuse, hreuse⟩ := denotes_fixed doubles 1 (by decide)
    (metrics.reuseRate_nonneg doubles)
  have hversion : Denotes ('"' :: (vdiWrapperVersionString.toList ++ ['"']))
      (.string vdiWrapperVersionString.toList) :=
    .string (Plain.chars (by decide))
  have hlogging : Denotes (if metrics.loggingEnabled then "true" else "false").toList
      (.bool metrics.loggingEnabled) := by
    cases metrics.loggingEnabled with
    | true => exact .nameTrue
    | false => exact .nameFalse
  have hsizes := denotes_layObject (space_newline 4) (space_newline 2)
    (forall₂_counters [("min_bytes", metrics.reportedMin), ("avg_bytes", metrics.reportedAvg),
        ("max_bytes", metrics.maxChunkSize)]
      (by decide : ∀ key ∈ ["min_bytes", "avg_bytes", "max_bytes"], _)) (by simp)
  have hstages := denotes_layObject (space_newline 4) (space_newline 2)
    (.cons (memberDenotes "getcommand"
        (metrics.denotes_stageObject ChunkTiming.getcommandUs) (by decide))
      (.cons (memberDenotes "dispatch"
          (metrics.denotes_stageObject ChunkTiming.dispatchUs) (by decide))
        (.cons (memberDenotes "sink"
            (metrics.denotes_stageObject ChunkTiming.sinkUs) (by decide))
          (.cons (memberDenotes "complete"
              (metrics.denotes_stageObject ChunkTiming.completeUs) (by decide))
            (.cons (memberDenotes "total"
                (metrics.denotes_stageObject ChunkTiming.totalUs) (by decide)) .nil)))))
    (by simp)
  have hpool := denotes_layObject (space_newline 4) (space_newline 2)
    (List.rel_append
      (forall₂_counters [("acquires", metrics.bufferAcquireCount),
          ("releases", metrics.bufferReleaseCount), ("hits", metrics.bufferPoolHits),
          ("misses", metrics.bufferPoolMisses)]
        (by decide : ∀ key ∈ ["acquires", "releases", "hits", "misses"], _))
      (.cons (memberDenotes "reuse_rate_pct" hreuse (by decide)) .nil)) (by simp)
  have hmembers := List.rel_append
    (List.rel_append
      (.cons (memberDenotes "tool_version" hversion (by decide))
        (.cons (memberDenotes "throughput_mbps" hthroughput (by decide))
          (.cons (counterDenotes "total_bytes" metrics.totalBytes (by decide))
            (.cons (counterDenotes "chunk_count" metrics.chunkCount (by decide))
              (.cons (memberDenotes "elapsed_seconds" helapsed (by decide))
                (.cons (memberDenotes "chunk_sizes" hsizes (by decide)) .nil))))))
      (forall₂_cpu cpu))
    (.cons (memberDenotes "per_stage_timing_us" hstages (by decide))
      (.cons (memberDenotes "buffer_pool" hpool (by decide))
        (.cons (memberDenotes "logging_enabled" hlogging (by decide)) .nil)))
  refine ⟨throughput, elapsed, reuse, ?_⟩
  rw [toJson_eq_layObject]
  exact (denotes_layObject (space_newline 2) (space_newline 0) hmembers (by simp)).document

/-! ## Reading it back -/

theorem noDuplicateKeys_stageValue (field : ChunkTiming → UInt64) :
    (metrics.stageValue field).NoDuplicateKeys := by
  simp [stageValue]

theorem noDuplicateKeys_jsonValue (throughput seconds reuseRate : ℚ) (cpu : Option CpuTimes) :
    (metrics.jsonValue throughput seconds reuseRate cpu).NoDuplicateKeys := by
  cases cpu <;> simp [jsonValue, noDuplicateKeys_stageValue]

/-- The integers of the document, each with the path to it. -/
def integerFields : List (List String × UInt64) :=
  [(["total_bytes"], metrics.totalBytes),
    (["chunk_count"], metrics.chunkCount),
    (["chunk_sizes", "min_bytes"], metrics.reportedMin),
    (["chunk_sizes", "avg_bytes"], metrics.reportedAvg),
    (["chunk_sizes", "max_bytes"], metrics.maxChunkSize)] ++
  stageFields "getcommand" ChunkTiming.getcommandUs ++
  stageFields "dispatch" ChunkTiming.dispatchUs ++
  stageFields "sink" ChunkTiming.sinkUs ++
  stageFields "complete" ChunkTiming.completeUs ++
  stageFields "total" ChunkTiming.totalUs ++
  [(["buffer_pool", "acquires"], metrics.bufferAcquireCount),
    (["buffer_pool", "releases"], metrics.bufferReleaseCount),
    (["buffer_pool", "hits"], metrics.bufferPoolHits),
    (["buffer_pool", "misses"], metrics.bufferPoolMisses)]
where
  stageFields (name : String) (field : ChunkTiming → UInt64) : List (List String × UInt64) :=
    [(["per_stage_timing_us", name, "p50"], metrics.stageP field 50),
      (["per_stage_timing_us", name, "p95"], metrics.stageP field 95),
      (["per_stage_timing_us", name, "p99"], metrics.stageP field 99)]

theorem integerFields_jsonValue (throughput seconds reuseRate : ℚ) (cpu : Option CpuTimes) :
    ∀ p ∈ metrics.integerFields, (metrics.jsonValue throughput seconds reuseRate cpu).at? p.1 =
      some (.number p.2.toNat) := by
  have hfields : metrics.integerFields.map
        (fun p => (metrics.jsonValue throughput seconds reuseRate cpu).at? p.1) =
      metrics.integerFields.map fun p => some (.number p.2.toNat) := by
    cases cpu with
    | none => rfl
    | some cpu => rfl
  exact List.map_inj_left.mp hfields

/-- `to_json` writes one JSON document: it reads as one value only, no object of which has two
members under one key, and whose integers are the counters and the percentiles. -/
theorem toJson_faithful (elapsedMs : UInt64) (cpu : Option CpuTimes) :
    ∃ v, Document (metrics.toJson doubles elapsedMs cpu) v ∧
      (∀ v', Document (metrics.toJson doubles elapsedMs cpu) v' → v' = v) ∧
      v.NoDuplicateKeys ∧
      (∀ p ∈ metrics.integerFields, v.at? p.1 = some (.number p.2.toNat)) ∧
      (metrics.minChunkSize = 0xffffffffffffffff →
        v.at? ["chunk_sizes", "min_bytes"] = some (.number 0)) := by
  obtain ⟨throughput, seconds, reuseRate, hdocument⟩ :=
    metrics.document_toJson doubles elapsedMs cpu
  have hfields := metrics.integerFields_jsonValue throughput seconds reuseRate cpu
  refine ⟨_, hdocument, fun v' h => h.unique hdocument,
    metrics.noDuplicateKeys_jsonValue throughput seconds reuseRate cpu, hfields, ?_⟩
  intro hsentinel
  have hmin : metrics.reportedMin = 0 := by simp [reportedMin, hsentinel]
  have hfield := hfields (["chunk_sizes", "min_bytes"], metrics.reportedMin)
    (by simp [integerFields])
  rw [hmin] at hfield
  simpa using hfield

end Metrics

end Vdi
