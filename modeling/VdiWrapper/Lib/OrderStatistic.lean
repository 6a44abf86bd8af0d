import Mathlib.Data.List.Sort

/-!
# Order statistics by counting

`IsOrderStatistic xs k v` says, without sorting anything, that `v` is the `k`-th smallest element
of `xs`, counted from zero: at most `k` elements lie strictly below it and more than `k` lie at or
below it.  The counts determine the value (`IsOrderStatistic.unique`) and are blind to the order of
the list (`IsOrderStatistic.perm`); sorting and indexing computes it (`isOrderStatistic_getElem`).
-/

namespace Runs

variable {α : Type} [LinearOrder α]

/-- `v` is the `k`-th smallest element of `xs`. -/
structure IsOrderStatistic (xs : List α) (k : Nat) (v : α) : Prop where
  mem : v ∈ xs
  below : xs.countP (· < v) ≤ k
  upTo : k < xs.countP (· ≤ v)

variable {xs ys : List α} {k k' : Nat} {v v' : α}

namespace IsOrderStatistic

theorem perm (h : IsOrderStatistic xs k v) (hperm : xs.Perm ys) : IsOrderStatistic ys k v := by
  refine ⟨hperm.mem_iff.mp h.mem, ?_, ?_⟩
  · rw [← hperm.countP_eq]
    exact h.below
  · rw [← hperm.countP_eq]
    exact h.upTo

/-- A larger index has a larger value. -/
theorem mono (h : IsOrderStatistic xs k v) (h' : IsOrderStatistic xs k' v') (hk : k ≤ k') :
    v ≤ v' := by
  by_contra hlt
  have hcount : xs.countP (· ≤ v') ≤ xs.countP (· < v) := by
    apply List.countP_mono_left
    intro x _ hx
    have hle : x ≤ v' := by simpa using hx
    simpa using hle.trans_lt (not_le.mp hlt)
  have hbelow := h.below
  have hupTo := h'.upTo
  omega

/-- There is one `k`-th smallest value. -/
theorem unique (h : IsOrderStatistic xs k v) (h' : IsOrderStatistic xs k v') : v = v' :=
  le_antisymm (h.mono h' le_rfl) (h'.mono h le_rfl)

/-- Index zero is the minimum. -/
theorem zero_le (h : IsOrderStatistic xs 0 v) : ∀ x ∈ xs, v ≤ x := by
  intro x hx
  have hnone : xs.countP (· < v) = 0 := Nat.le_zero.mp h.below
  have hx' := List.countP_eq_zero.mp hnone x hx
  simpa using hx'

/-- The last index is the maximum. -/
theorem le_last (h : IsOrderStatistic xs (xs.length - 1) v) : ∀ x ∈ xs, x ≤ v := by
  have hlength : xs.countP (· ≤ v) ≤ xs.length := List.countP_le_length
  have hupTo := h.upTo
  have hall : xs.countP (· ≤ v) = xs.length := by omega
  intro x hx
  have hx' := List.countP_eq_length.mp hall x hx
  simpa using hx'

end IsOrderStatistic

/-- In a sorted list the elements below the `k`-th lie before it. -/
theorem countP_lt_getElem (hsorted : xs.SortedLE) (hk : k < xs.length) :
    xs.countP (· < xs[k]) ≤ k := by
  have hdrop : (xs.drop k).countP (· < xs[k]) = 0 := by
    apply List.countP_eq_zero.mpr
    intro x hx
    obtain ⟨i, hi, rfl⟩ := List.mem_iff_getElem.mp hx
    rw [List.length_drop] at hi
    have hki : k + i < xs.length := by omega
    have hle : xs[k] ≤ xs[k + i] :=
      List.sortedLE_iff_getElem_le_getElem_of_le.mp hsorted (Nat.le_add_right k i)
    rw [List.getElem_drop]
    simpa using hle
  have hsplit : xs.countP (· < xs[k]) =
      (xs.take k).countP (· < xs[k]) + (xs.drop k).countP (· < xs[k]) := by
    rw [← List.countP_append, List.take_append_drop]
  have htake : (xs.take k).countP (· < xs[k]) ≤ k := by
    apply List.countP_le_length.trans
    rw [List.length_take]
    exact Nat.min_le_left _ _
  omega

/-- In a sorted list the elements up to the `k`-th lie at or below it. -/
theorem lt_countP_le_getElem (hsorted : xs.SortedLE) (hk : k < xs.length) :
    k < xs.countP (· ≤ xs[k]) := by
  have htake : (xs.take (k + 1)).countP (· ≤ xs[k]) = (xs.take (k + 1)).length := by
    apply List.countP_eq_length.mpr
    intro x hx
    obtain ⟨i, hi, rfl⟩ := List.mem_iff_getElem.mp hx
    rw [List.length_take] at hi
    have hik : i < xs.length := by omega
    have hle : xs[i] ≤ xs[k] :=
      List.sortedLE_iff_getElem_le_getElem_of_le.mp hsorted (by omega)
    rw [List.getElem_take]
    simpa using hle
  have hsublist : (xs.take (k + 1)).countP (· ≤ xs[k]) ≤ xs.countP (· ≤ xs[k]) :=
    (List.take_sublist _ _).countP_le
  rw [htake, List.length_take] at hsublist
  omega

/-- Sorting and indexing finds the order statistic. -/
theorem isOrderStatistic_getElem (hk : k < (xs.insertionSort (· ≤ ·)).length) :
    IsOrderStatistic xs k ((xs.insertionSort (· ≤ ·))[k]) := by
  have hsorted : (xs.insertionSort (· ≤ ·)).SortedLE :=
    List.sortedLE_iff_pairwise.mpr (List.pairwise_insertionSort (· ≤ ·) xs)
  have hstatistic : IsOrderStatistic (xs.insertionSort (· ≤ ·)) k
      ((xs.insertionSort (· ≤ ·))[k]) :=
    ⟨List.getElem_mem hk, countP_lt_getElem hsorted hk, lt_countP_le_getElem hsorted hk⟩
  exact hstatistic.perm (List.perm_insertionSort (· ≤ ·) xs)

end Runs
