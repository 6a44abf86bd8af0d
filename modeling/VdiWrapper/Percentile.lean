import Mathlib.Data.Rat.Floor
import Mathlib.Tactic.Linarith
import Mathlib.Tactic.NormNum
import VdiWrapper.Lib.OrderStatistic
import VdiWrapper.Instruments

/-!
# Nearest-rank percentiles

`Metrics::percentile` and its Python copy, with the rank computed in exact arithmetic.  A percentile
is an order statistic: for `0 < p ≤ 100` the C++ code returns the element number `⌈p N / 100⌉` of
the sorted values (`isOrderStatistic_percentile`), from which its meaning, its blindness to the
order of the input and its monotony in `p` follow by counting.

The two implementations clamp the index differently.  At `p = 0` the rank is zero: Python clamps
the index to zero, while the C++ subtraction on `size_t` wraps and is clamped to the last element.
`percentile_eq_py_iff` says exactly when they agree.
-/

namespace Vdi

open Runs

local instance linearOrderUInt64 : LinearOrder UInt64 where
  le_refl a := UInt64.le_refl a
  le_trans _ _ _ := UInt64.le_trans
  le_antisymm _ _ := UInt64.le_antisymm
  le_total := UInt64.le_total
  lt_iff_le_not_ge a b := by
    rw [UInt64.lt_iff_toNat_lt, UInt64.le_iff_toNat_le, UInt64.le_iff_toNat_le]
    omega
  toDecidableLE := inferInstance
  toDecidableLT := inferInstance

/-- A `std::vector`: its size is a `size_t`. -/
structure StdVector (α : Type) where
  toList : List α
  size_lt : toList.length < 2 ^ 64

/-- The rank `ceil(p / 100 * N)`, counted from one. -/
def nearestRank (p : ℚ) (n : Nat) : ℤ := ⌈p / 100 * n⌉

namespace Metrics

/-- `static_cast<size_t>(rank) - 1`, before the clamp. -/
def percentileIndex (p : ℚ) (n : Nat) : UInt64 := UInt64.ofNat (nearestRank p n).toNat - 1

def percentile (values : List UInt64) (p : ℚ) : UInt64 :=
  if values.isEmpty then 0
  else
    let sorted := values.insertionSort (· ≤ ·)
    let idx := percentileIndex p sorted.length
    let size := UInt64.ofNat sorted.length
    let idx := if size ≤ idx then size - 1 else idx
    sorted.getD idx.toNat 0

/-- `stage_values`: one field of every timing record. -/
def stageValues (metrics : Metrics) (field : ChunkTiming → UInt64) : List UInt64 :=
  metrics.timings.map field

/-- The lambda `stage_p` of `to_json`. -/
def stageP (metrics : Metrics) (field : ChunkTiming → UInt64) (p : ℚ) : UInt64 :=
  percentile (metrics.stageValues field) p

end Metrics

/-- `Metrics._percentile` of the Python client. -/
def PyMetrics.percentile (values : List UInt64) (p : ℚ) : UInt64 :=
  if values.isEmpty then 0
  else
    let sortedVals := values.insertionSort (· ≤ ·)
    let n : ℤ := sortedVals.length
    let idx := max 0 (min (nearestRank p sortedVals.length - 1) (n - 1))
    sortedVals.getD idx.toNat 0

section Rank

variable {p q : ℚ} {n : Nat}

theorem nearestRank_mono (h : p ≤ q) : nearestRank p n ≤ nearestRank q n := by
  have hn : (0 : ℚ) ≤ n := Nat.cast_nonneg n
  apply Int.ceil_le_ceil
  apply mul_le_mul_of_nonneg_right _ hn
  linarith

theorem one_le_nearestRank (h0 : 0 < p) (hn : 0 < n) : 1 ≤ nearestRank p n := by
  have hn' : (0 : ℚ) < n := Nat.cast_pos.mpr hn
  have hpos : 0 < p / 100 * n := by positivity
  exact Int.one_le_ceil_iff.mpr hpos

theorem nearestRank_le (h100 : p ≤ 100) : nearestRank p n ≤ n := by
  have hn : (0 : ℚ) ≤ n := Nat.cast_nonneg n
  apply Int.ceil_le.mpr
  have hle : p / 100 * n ≤ 1 * n := mul_le_mul_of_nonneg_right (by linarith) hn
  simpa using hle

theorem nearestRank_zero : nearestRank 0 n = 0 := by
  unfold nearestRank
  simp

end Rank

namespace Metrics

variable {values : StdVector UInt64} {p q : ℚ}

/-- Within `0 < p ≤ 100` the index neither wraps nor leaves the vector. -/
theorem percentileIndex_toNat {n : Nat} (hn : 0 < n) (hsize : n < 2 ^ 64) (h0 : 0 < p)
    (h100 : p ≤ 100) :
    (percentileIndex p n).toNat = (nearestRank p n).toNat - 1 ∧
      (percentileIndex p n).toNat < n := by
  have hlow := one_le_nearestRank h0 hn
  have hhigh : nearestRank p n ≤ n := nearestRank_le h100
  have hcast : (UInt64.ofNat (nearestRank p n).toNat).toNat = (nearestRank p n).toNat := by
    rw [UInt64.toNat_ofNat']
    apply Nat.mod_eq_of_lt
    omega
  have hone : (1 : UInt64) ≤ UInt64.ofNat (nearestRank p n).toNat := by
    rw [UInt64.le_iff_toNat_le, hcast, UInt64.toNat_one]
    omega
  have hindex : (percentileIndex p n).toNat = (nearestRank p n).toNat - 1 := by
    unfold percentileIndex
    rw [UInt64.toNat_sub_of_le _ _ hone, hcast, UInt64.toNat_one]
  refine ⟨hindex, ?_⟩
  omega

/-- The clamped index, read from the sorted values, is the order statistic of that index. -/
theorem percentile_getD {k : Nat} {idx : UInt64} (hne : values.toList ≠ [])
    (hk : (if UInt64.ofNat values.toList.length ≤ idx then UInt64.ofNat values.toList.length - 1
      else idx).toNat = k)
    (hlt : k < values.toList.length) (hidx : percentileIndex p values.toList.length = idx) :
    IsOrderStatistic values.toList k (percentile values.toList p) := by
  have hlength : (values.toList.insertionSort (· ≤ ·)).length = values.toList.length :=
    List.length_insertionSort (· ≤ ·) values.toList
  have hk' : k < (values.toList.insertionSort (· ≤ ·)).length := by omega
  have hread : percentile values.toList p = (values.toList.insertionSort (· ≤ ·))[k] := by
    unfold percentile
    rw [if_neg (by simpa using hne)]
    simp only [hlength, hidx, hk]
    rw [List.getD_eq_getElem?_getD, List.getElem?_eq_getElem hk']
    rfl
  rw [hread]
  exact isOrderStatistic_getElem hk'

/-- **The nearest rank.**  For `0 < p ≤ 100` the result is the element number `⌈p N / 100⌉`. -/
theorem isOrderStatistic_percentile (hne : values.toList ≠ []) (h0 : 0 < p) (h100 : p ≤ 100) :
    IsOrderStatistic values.toList ((nearestRank p values.toList.length).toNat - 1)
      (percentile values.toList p) := by
  have hn : 0 < values.toList.length := List.length_pos_iff.mpr hne
  obtain ⟨hindex, hrange⟩ := percentileIndex_toNat hn values.size_lt h0 h100
  have hnotClamped : ¬ UInt64.ofNat values.toList.length ≤
      percentileIndex p values.toList.length := by
    rw [UInt64.le_iff_toNat_le, UInt64.toNat_ofNat', Nat.mod_eq_of_lt values.size_lt]
    omega
  apply percentile_getD hne _ _ rfl
  · rw [if_neg hnotClamped, hindex]
  · omega

/-- At `p = 0` the subtraction wraps and the clamp picks the last element. -/
theorem isOrderStatistic_percentile_zero (hne : values.toList ≠ []) :
    IsOrderStatistic values.toList (values.toList.length - 1) (percentile values.toList 0) := by
  have hn : 0 < values.toList.length := List.length_pos_iff.mpr hne
  have hsize := values.size_lt
  have hindex : percentileIndex 0 values.toList.length = 0 - 1 := by
    unfold percentileIndex
    rw [nearestRank_zero]
    rfl
  have hcast : (UInt64.ofNat values.toList.length).toNat = values.toList.length := by
    rw [UInt64.toNat_ofNat']
    exact Nat.mod_eq_of_lt hsize
  have hlast : ((0 : UInt64) - 1).toNat = 2 ^ 64 - 1 := rfl
  have hclamped : UInt64.ofNat values.toList.length ≤ 0 - 1 := by
    rw [UInt64.le_iff_toNat_le, hcast, hlast]
    omega
  have hone : (1 : UInt64) ≤ UInt64.ofNat values.toList.length := by
    rw [UInt64.le_iff_toNat_le, hcast, UInt64.toNat_one]
    omega
  apply percentile_getD hne _ _ hindex
  · rw [if_pos hclamped, UInt64.toNat_sub_of_le _ _ hone, hcast, UInt64.toNat_one]
  · omega

theorem percentile_mono (h0 : 0 < p) (hpq : p ≤ q) (h100 : q ≤ 100) :
    percentile values.toList p ≤ percentile values.toList q := by
  by_cases hne : values.toList = []
  · rw [hne]
    exact le_rfl
  · apply (isOrderStatistic_percentile hne h0 (hpq.trans h100)).mono
      (isOrderStatistic_percentile hne (h0.trans_le hpq) h100)
    have hrank : nearestRank p values.toList.length ≤ nearestRank q values.toList.length :=
      nearestRank_mono hpq
    omega

/-- The values of a stage, as the vector `stage_values` returns. -/
def stageVector (timings : StdVector ChunkTiming) (field : ChunkTiming → UInt64) :
    StdVector UInt64 :=
  { toList := timings.toList.map field
    size_lt := by
      rw [List.length_map]
      exact timings.size_lt }

/-- The order of the values does not matter. -/
theorem percentile_perm {values' : StdVector UInt64} (hperm : values.toList.Perm values'.toList)
    (h0 : 0 < p) (h100 : p ≤ 100) : percentile values.toList p = percentile values'.toList p := by
  by_cases hne : values.toList = []
  · rw [hne] at hperm ⊢
    rw [hperm.nil_eq]
  · have hne' : values'.toList ≠ [] := by
      intro hnil
      rw [hnil] at hperm
      exact hne hperm.eq_nil
    have hstatistic := (isOrderStatistic_percentile hne h0 h100).perm hperm
    rw [hperm.length_eq] at hstatistic
    exact hstatistic.unique (isOrderStatistic_percentile hne' h0 h100)

end Metrics

/-- **Nearest-rank percentile.**  For `0 < p ≤ 100` the percentile of a non-empty vector is one of
its values; at least `p N / 100` of the values are at or below it and fewer lie strictly below; it
does not depend on their order and does not decrease in `p`; and the index needs no clamp. -/
theorem percentile_nearestRank (values : StdVector UInt64) (p : ℚ) (hne : values.toList ≠ [])
    (h0 : 0 < p) (h100 : p ≤ 100) :
    Metrics.percentile values.toList p ∈ values.toList ∧
      p * values.toList.length / 100 ≤
        values.toList.countP (· ≤ Metrics.percentile values.toList p) ∧
      (values.toList.countP (· < Metrics.percentile values.toList p) : ℚ) <
        p * values.toList.length / 100 ∧
      (∀ values' : StdVector UInt64, values.toList.Perm values'.toList →
        Metrics.percentile values'.toList p = Metrics.percentile values.toList p) ∧
      (∀ q, p ≤ q → q ≤ 100 →
        Metrics.percentile values.toList p ≤ Metrics.percentile values.toList q) ∧
      (∀ (metrics : Metrics) (field : ChunkTiming → UInt64), metrics.timings.length < 2 ^ 64 →
        metrics.stageP field 50 ≤ metrics.stageP field 95 ∧
          metrics.stageP field 95 ≤ metrics.stageP field 99) ∧
      (Metrics.percentileIndex p values.toList.length).toNat < values.toList.length := by
  have hn : 0 < values.toList.length := List.length_pos_iff.mpr hne
  have hstatistic := Metrics.isOrderStatistic_percentile hne h0 h100
  have hlow := one_le_nearestRank h0 hn
  have hrank : p / 100 * values.toList.length = p * values.toList.length / 100 := by ring
  refine ⟨hstatistic.mem, ?_, ?_, ?_, ?_, ?_, ?_⟩
  · have hcount : nearestRank p values.toList.length ≤
        values.toList.countP (· ≤ Metrics.percentile values.toList p) := by
      have hupTo := hstatistic.upTo
      omega
    have hceil := Int.ceil_le.mp hcount
    rw [hrank] at hceil
    exact_mod_cast hceil
  · have hcount : (values.toList.countP (· < Metrics.percentile values.toList p) : ℤ) <
        nearestRank p values.toList.length := by
      have hbelow := hstatistic.below
      omega
    have hceil := Int.lt_ceil.mp hcount
    rw [hrank] at hceil
    exact_mod_cast hceil
  · intro values' hperm
    exact (Metrics.percentile_perm hperm h0 h100).symm
  · intro q hpq hq
    exact Metrics.percentile_mono h0 hpq hq
  · intro metrics field hsize
    have hstage : ∀ q, metrics.stageP field q =
        Metrics.percentile (Metrics.stageVector ⟨metrics.timings, hsize⟩ field).toList q :=
      fun _ => rfl
    rw [hstage, hstage, hstage]
    exact ⟨Metrics.percentile_mono (by norm_num) (by norm_num) (by norm_num),
      Metrics.percentile_mono (by norm_num) (by norm_num) (by norm_num)⟩
  · exact (Metrics.percentileIndex_toNat hn values.size_lt h0 h100).2

/-- The 95th percentile of five values. -/
theorem percentile_nearestRank_five :
    Metrics.percentile [5, 1, 4, 2, 3] 95 ∈ [5, 1, 4, 2, 3] ∧
      (95 : ℚ) * [(5 : UInt64), 1, 4, 2, 3].length / 100 ≤
        [5, 1, 4, 2, 3].countP (· ≤ Metrics.percentile [5, 1, 4, 2, 3] 95) := by
  obtain ⟨hmem, hupTo, -⟩ :=
    percentile_nearestRank ⟨[5, 1, 4, 2, 3], by norm_num⟩ 95 (List.cons_ne_nil _ _) (by norm_num)
      (by norm_num)
  exact ⟨hmem, hupTo⟩

/-! ## The Python copy -/

section Python

variable {values : StdVector UInt64} {p : ℚ}

/-- Python clamps below as well, so a rank of zero means the first element. -/
theorem isOrderStatistic_py (hne : values.toList ≠ []) (h100 : p ≤ 100) :
    IsOrderStatistic values.toList ((nearestRank p values.toList.length).toNat - 1)
      (PyMetrics.percentile values.toList p) := by
  have hn : 0 < values.toList.length := List.length_pos_iff.mpr hne
  have hhigh : nearestRank p values.toList.length ≤ values.toList.length := nearestRank_le h100
  have hlength : (values.toList.insertionSort (· ≤ ·)).length = values.toList.length :=
    List.length_insertionSort (· ≤ ·) values.toList
  have hk : (nearestRank p values.toList.length).toNat - 1 <
      (values.toList.insertionSort (· ≤ ·)).length := by omega
  have hindex : (max 0 (min (nearestRank p values.toList.length - 1)
      ((values.toList.length : ℤ) - 1))).toNat =
        (nearestRank p values.toList.length).toNat - 1 := by omega
  have hread : PyMetrics.percentile values.toList p =
      (values.toList.insertionSort (· ≤ ·))[(nearestRank p values.toList.length).toNat - 1] := by
    unfold PyMetrics.percentile
    rw [if_neg (by simpa using hne)]
    simp only [hlength, hindex]
    rw [List.getD_eq_getElem?_getD, List.getElem?_eq_getElem hk]
    rfl
  rw [hread]
  exact isOrderStatistic_getElem hk

/-- Above zero both read the same order statistic. -/
theorem percentile_eq_py_of_pos (h0 : 0 < p) (h100 : p ≤ 100) :
    Metrics.percentile values.toList p = PyMetrics.percentile values.toList p := by
  by_cases hne : values.toList = []
  · rw [hne]
    rfl
  · exact (Metrics.isOrderStatistic_percentile hne h0 h100).unique
      (isOrderStatistic_py hne h100)

/-- At zero one reads the maximum and the other the minimum. -/
theorem percentile_eq_py_zero :
    Metrics.percentile values.toList 0 = PyMetrics.percentile values.toList 0 ↔
      ∀ v ∈ values.toList, ∀ w ∈ values.toList, v = w := by
  by_cases hne : values.toList = []
  · rw [hne]
    simp [Metrics.percentile, PyMetrics.percentile]
  · have hmax := Metrics.isOrderStatistic_percentile_zero hne
    have hmin : IsOrderStatistic values.toList 0 (PyMetrics.percentile values.toList 0) := by
      have hpy := isOrderStatistic_py hne (by norm_num : (0 : ℚ) ≤ 100)
      rwa [nearestRank_zero] at hpy
    constructor
    · intro heq v hv w hw
      have hvHigh := hmax.le_last v hv
      have hvLow := hmin.zero_le v hv
      have hwHigh := hmax.le_last w hw
      have hwLow := hmin.zero_le w hw
      rw [heq] at hvHigh hwHigh
      exact (le_antisymm hvHigh hvLow).trans (le_antisymm hwHigh hwLow).symm
    · intro hall
      exact hall _ hmax.mem _ hmin.mem

end Python

/-- **Where the two percentiles agree.**  For `0 ≤ p ≤ 100` the C++ and the Python percentile are
equal exactly when `p` is not zero or all values are the same. -/
theorem percentile_eq_py_iff (values : StdVector UInt64) (p : ℚ) (h0 : 0 ≤ p) (h100 : p ≤ 100) :
    Metrics.percentile values.toList p = PyMetrics.percentile values.toList p ↔
      p ≠ 0 ∨ ∀ v ∈ values.toList, ∀ w ∈ values.toList, v = w := by
  by_cases hp : p = 0
  · rw [hp, percentile_eq_py_zero]
    simp
  · have hpos : 0 < p := lt_of_le_of_ne h0 (Ne.symm hp)
    rw [percentile_eq_py_of_pos hpos h100]
    simp [hp]

theorem percentile_eq_py_iff_median :
    Metrics.percentile [1, 2] 50 = PyMetrics.percentile [1, 2] 50 :=
  (percentile_eq_py_iff ⟨[1, 2], by norm_num⟩ 50 (by norm_num) (by norm_num)).mpr
    (Or.inl (by norm_num))

/-- At `p = 0` the C++ code returns the maximum of two values and Python the minimum. -/
theorem percentile_ne_py_at_zero :
    Metrics.percentile [1, 2] 0 = 2 ∧ PyMetrics.percentile [1, 2] 0 = 1 ∧
      Metrics.percentile [1, 2] 0 ≠ PyMetrics.percentile [1, 2] 0 := by
  decide +kernel

end Vdi
