import Mathlib.Data.List.Chain

/-!
# Throttled requests

Requests arrive at non-decreasing times, and a request passes when a full period has gone by since
the mark, the time of the last one that passed.  A throttle whose mark is zero is not armed: the
next request arms it without passing.

Two facts make it useful as an alarm.  What passes is spaced by the period
(`passed_isChain`), and a request made a full period after the arming is never silent: something
passed within the period before it (`exists_passed`).
-/

namespace Runs.Throttle

variable {period mark t : Nat} {ts : List Nat}

/-- A request at `t` passes. -/
def Passes (period mark t : Nat) : Prop := 0 < mark ∧ mark + period ≤ t

instance : Decidable (Passes period mark t) := inferInstanceAs (Decidable (_ ∧ _))

/-- The mark after a request at `t`. -/
def step (period mark t : Nat) : Nat := if mark = 0 ∨ mark + period ≤ t then t else mark

/-- The mark after the requests `ts`. -/
def marked (period mark : Nat) (ts : List Nat) : Nat := ts.foldl (step period) mark

/-- The requests that pass, in order. -/
def passed (period : Nat) : Nat → List Nat → List Nat
  | _, [] => []
  | mark, t :: ts =>
      if Passes period mark t then t :: passed period t ts
      else passed period (step period mark t) ts

theorem step_of_passes (h : Passes period mark t) : step period mark t = t := if_pos (.inr h.2)

/-- An armed throttle keeps its mark when a request does not pass. -/
theorem step_of_not_passes (harmed : 0 < mark) (h : ¬ Passes period mark t) :
    step period mark t = mark := by
  apply if_neg
  rintro (hzero | hlate)
  · omega
  · exact h ⟨harmed, hlate⟩

@[simp] theorem marked_nil : marked period mark [] = mark := rfl

@[simp] theorem marked_snoc (mark : Nat) (ts : List Nat) (t : Nat) :
    marked period mark (ts ++ [t]) = step period (marked period mark ts) t := by
  simp [marked]

/-- The mark is the start or the time of a request. -/
theorem marked_mem (period mark : Nat) (ts : List Nat) : marked period mark ts ∈ mark :: ts := by
  induction ts generalizing mark with
  | nil => simp
  | cons t ts ih =>
      have hrest : marked period mark (t :: ts) ∈ step period mark t :: ts := ih _
      unfold step at hrest
      split at hrest
      · exact List.mem_cons_of_mem _ hrest
      · rcases List.mem_cons.mp hrest with hmark | hmem
        · rw [hmark]
          exact List.mem_cons_self
        · exact List.mem_cons_of_mem _ (List.mem_cons_of_mem _ hmem)

theorem passed_snoc (mark : Nat) (ts : List Nat) (t : Nat) :
    passed period mark (ts ++ [t]) =
      passed period mark ts ++ if Passes period (marked period mark ts) t then [t] else [] := by
  induction ts generalizing mark with
  | nil => by_cases hpasses : Passes period mark t <;> simp [passed, hpasses]
  | cons u ts ih =>
      by_cases hpasses : Passes period mark u
      · have hmark : marked period mark (u :: ts) = marked period u ts := by
          rw [marked, List.foldl_cons, step_of_passes hpasses]
          rfl
        rw [hmark, List.cons_append, passed, passed, if_pos hpasses, if_pos hpasses, ih,
          List.cons_append]
      · rw [List.cons_append, passed, passed, if_neg hpasses, if_neg hpasses, ih]
        rfl

/-- **Spacing.**  From the arming on, what passes is at least a period apart. -/
theorem passed_isChain (hmark : 0 < mark) (hpos : ∀ t ∈ ts, 0 < t) :
    (mark :: passed period mark ts).IsChain fun a b => a + period ≤ b := by
  induction ts generalizing mark with
  | nil => exact .singleton _
  | cons t ts ih =>
      have ht : 0 < t := hpos t List.mem_cons_self
      have hrest : ∀ u ∈ ts, 0 < u := fun u hu => hpos u (List.mem_cons_of_mem _ hu)
      rw [passed]
      by_cases hpasses : Passes period mark t
      · rw [if_pos hpasses]
        exact .cons_cons hpasses.2 (ih ht hrest)
      · rw [if_neg hpasses, step_of_not_passes hmark hpasses]
        exact ih hmark hrest

/-- **Coverage.**  A request made a period after the arming finds that something passed, itself
perhaps, less than a period ago. -/
theorem exists_passed (hperiod : 0 < period) (hmark : 0 < mark)
    (hsorted : (mark :: ts).Pairwise (· ≤ ·)) (ht : t ∈ ts) (hlate : mark + period ≤ t) :
    ∃ p ∈ passed period mark ts, p ≤ t ∧ t < p + period := by
  induction ts generalizing mark with
  | nil => cases ht
  | cons u ts ih =>
      obtain ⟨hmark_le, hsorted⟩ := List.pairwise_cons.mp hsorted
      obtain ⟨hu_le, hrest⟩ := List.pairwise_cons.mp hsorted
      have hmu : mark ≤ u := hmark_le u List.mem_cons_self
      rw [passed]
      by_cases hpasses : Passes period mark u
      · rw [if_pos hpasses]
        by_cases hagain : u + period ≤ t
        · -- the request at `t` is late again, so it is not the one at `u`
          have htail : t ∈ ts := by
            rcases List.mem_cons.mp ht with rfl | ht
            · omega
            · exact ht
          obtain ⟨p, hp, hwindow⟩ := ih (by omega) hsorted htail hagain
          exact ⟨p, List.mem_cons_of_mem _ hp, hwindow⟩
        · have hut : u ≤ t := by
            rcases List.mem_cons.mp ht with rfl | ht
            · exact Nat.le_refl _
            · exact hu_le t ht
          exact ⟨u, List.mem_cons_self, hut, by omega⟩
      · rw [if_neg hpasses, step_of_not_passes hmark hpasses]
        rcases List.mem_cons.mp ht with rfl | ht
        · exact absurd ⟨hmark, hlate⟩ hpasses
        · apply ih hmark _ ht hlate
          exact List.pairwise_cons.mpr
            ⟨fun v hv => hmark_le v (List.mem_cons_of_mem _ hv), hrest⟩

end Runs.Throttle
