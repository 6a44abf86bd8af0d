import Mathlib.Algebra.BigOperators.Group.List.Basic
import Mathlib.Algebra.GroupWithZero.Nat
import Mathlib.Data.List.Perm.Basic

/-!
# Threads that interleave their atomic steps

Any number of threads share a state.  A schedule says who moves next; the thread named takes one
atomic step, and whatever the machine leaves open in that step is part of the schedule too.  Three
rules carry facts about one step of one thread over to every schedule.

* `Outline.turn` — an assertion each thread makes about the shared state holds throughout, once
  the thread's own steps keep it and the steps of the others do not disturb it;
* `run_settled` — where the effects that are still to come commute, what the state will be in the
  end does not depend on the schedule;
* `run_weight_le` — when a step costs its thread more weight than it can give to all the others,
  only so many steps can be taken.
-/

namespace Runs

variable {T S C : Type}

/-- The threads of a program and the state they share. -/
structure Threads (T S : Type) where
  threads : List T
  shared : S

namespace Threads

variable (step : C → T → S → T × S)

/-- Thread `move.1` takes its next step; a turn of no thread is no step. -/
def turn (p : Threads T S) (move : Nat × C) : Threads T S :=
  match p.threads[move.1]? with
  | none => p
  | some t =>
      { threads := p.threads.set move.1 (step move.2 t p.shared).1
        shared := (step move.2 t p.shared).2 }

def run (p : Threads T S) (schedule : List (Nat × C)) : Threads T S :=
  schedule.foldl (turn step) p

/-- What a turn can do: nothing, or one step of one thread with all the others left as they are. -/
theorem turn_cases (p : Threads T S) (move : Nat × C) :
    (p.threads[move.1]? = none ∧ turn step p move = p) ∨
      ∃ before t after, p.threads = before ++ t :: after ∧ p.threads[move.1]? = some t ∧
        turn step p move =
          { threads := before ++ (step move.2 t p.shared).1 :: after
            shared := (step move.2 t p.shared).2 } := by
  cases hget : p.threads[move.1]? with
  | none => exact .inl ⟨rfl, by simp [turn, hget]⟩
  | some t =>
      right
      obtain ⟨hlt, ht⟩ := List.getElem?_eq_some_iff.mp hget
      refine ⟨p.threads.take move.1, t, p.threads.drop (move.1 + 1), ?_, rfl, ?_⟩
      · rw [← ht, List.getElem_cons_drop, List.take_append_drop]
      · simp only [turn, hget]
        rw [List.set_eq_take_append_cons_drop, if_pos hlt]

@[simp] theorem run_nil (p : Threads T S) : run step p [] = p := rfl

@[simp] theorem run_cons (p : Threads T S) (move : Nat × C) (schedule : List (Nat × C)) :
    run step p (move :: schedule) = run step (turn step p move) schedule := rfl

theorem turn_length (p : Threads T S) (move : Nat × C) :
    (turn step p move).threads.length = p.threads.length := by
  obtain ⟨-, h⟩ | ⟨before, t, after, hp, -, h⟩ := turn_cases step p move
  · rw [h]
  · rw [h, hp]
    simp

/-! ### Assertions that the others do not disturb -/

/-- An assertion of each thread about the shared state, and what a step promises the others. -/
structure Outline (step : C → T → S → T × S) where
  holds : T → S → Prop
  promise : S → S → Prop
  keeps : ∀ {c : C} {t : T} {s : S}, holds t s → holds (step c t s).1 (step c t s).2
  promises : ∀ {c : C} {t : T} {s : S}, holds t s → promise s (step c t s).2
  undisturbed : ∀ {t : T} {s s' : S}, promise s s' → holds t s → holds t s'

variable {step}

/-- Every thread's assertion holds. -/
def Outline.Everywhere (o : Outline step) (p : Threads T S) : Prop :=
  ∀ t ∈ p.threads, o.holds t p.shared

theorem Outline.turn (o : Outline step) {p : Threads T S} (h : o.Everywhere p)
    (move : Nat × C) : o.Everywhere (turn step p move) := by
  obtain ⟨-, hturn⟩ | ⟨before, t, after, hp, -, hturn⟩ := turn_cases step p move
  · rwa [hturn]
  · rw [hturn]
    unfold Outline.Everywhere at h ⊢
    rw [hp] at h
    have ht := h t (by simp)
    intro u hu
    obtain hu | hu | hu : u ∈ before ∨ u = (step move.2 t p.shared).1 ∨ u ∈ after := by
      simpa using hu
    · exact o.undisturbed (o.promises ht) (h u (by simp [hu]))
    · rw [hu]
      exact o.keeps ht
    · exact o.undisturbed (o.promises ht) (h u (by simp [hu]))

/-! ### Effects that commute -/

/-- The shared state once every thread has had the effect that is left of it. -/
def settled (finish : T → S → S) (p : Threads T S) : S := p.threads.foldr finish p.shared

theorem settled_of_done {finish : T → S → S} {p : Threads T S}
    (h : ∀ t ∈ p.threads, ∀ s, finish t s = s) : settled finish p = p.shared := by
  unfold settled
  generalize p.threads = ts at h
  induction ts with
  | nil => rfl
  | cons t ts ih =>
      rw [List.foldr_cons, h t List.mem_cons_self]
      exact ih fun u hu => h u (List.mem_cons_of_mem t hu)

section Commuting

variable {finish : T → S → S} (hcomm : ∀ t u s, finish t (finish u s) = finish u (finish t s))

include hcomm

/-- A thread's effect may as well come first. -/
theorem foldr_finish_middle (before : List T) (t : T) (after : List T) (s : S) :
    (before ++ t :: after).foldr finish s = (before ++ after).foldr finish (finish t s) := by
  have hperm : (before ++ t :: after).Perm (before ++ after ++ [t]) := by
    rw [List.append_assoc]
    exact List.Perm.append_left _ (List.perm_append_singleton t after).symm
  rw [hperm.foldr_eq' (fun t _ u _ s => hcomm u t s), List.foldr_append]
  rfl

/-- One turn: the thread has had a part of its effect, and what is left of it is the rest. -/
theorem turn_settled (o : Outline step)
    (hstep : ∀ c t s, o.holds t s → finish (step c t s).1 (step c t s).2 = finish t s)
    {p : Threads T S} (h : o.Everywhere p) (move : Nat × C) :
    settled finish (turn step p move) = settled finish p := by
  obtain ⟨-, hturn⟩ | ⟨before, t, after, hp, -, hturn⟩ := turn_cases step p move
  · rw [hturn]
  · have ht : o.holds t p.shared := h t (by rw [hp]; simp)
    unfold settled
    rw [hturn, hp, foldr_finish_middle hcomm, foldr_finish_middle hcomm, hstep _ _ _ ht]

/-- The state in the end is settled from the start. -/
theorem run_settled (o : Outline step)
    (hstep : ∀ c t s, o.holds t s → finish (step c t s).1 (step c t s).2 = finish t s)
    {p : Threads T S} (h : o.Everywhere p) (schedule : List (Nat × C)) :
    settled finish (run step p schedule) = settled finish p := by
  induction schedule generalizing p with
  | nil => rfl
  | cons move schedule ih =>
      rw [run_cons, ih (o.turn h move), turn_settled hcomm o hstep h move]

end Commuting

/-! ### Steps that cost weight -/

/-- What the steps of a schedule cost the threads that take them. -/
def spent (step : C → T → S → T × S) (cost : C → T → S → Nat) :
    Threads T S → List (Nat × C) → Nat
  | _, [] => 0
  | p, move :: schedule =>
      (match p.threads[move.1]? with
        | none => 0
        | some t => cost move.2 t p.shared) + spent step cost (turn step p move) schedule

theorem spent_le_add {f g h : C → T → S → Nat} (hle : ∀ c t s, f c t s ≤ g c t s + h c t s)
    (p : Threads T S) (schedule : List (Nat × C)) :
    spent step f p schedule ≤ spent step g p schedule + spent step h p schedule := by
  induction schedule generalizing p with
  | nil => simp [spent]
  | cons move schedule ih =>
      have hrest := ih (turn step p move)
      simp only [spent]
      cases p.threads[move.1]? with
      | none => simpa using hrest
      | some t =>
          have hmove := hle move.2 t p.shared
          simp only
          omega

/-- The weight of all the threads. -/
def weight (heavy : T → S → Nat) (p : Threads T S) : Nat :=
  (p.threads.map fun t => heavy t p.shared).sum

section Weighing

variable {heavy : T → S → Nat} {cost gift : C → T → S → Nat} {n : Nat}

/-- A gift to each of the threads. -/
theorem sum_map_le_add (ts : List T) {f g : T → Nat} {d : Nat} (h : ∀ t, g t ≤ f t + d) :
    (ts.map g).sum ≤ (ts.map f).sum + ts.length * d := by
  induction ts with
  | nil => simp
  | cons t ts ih =>
      have ht := h t
      simp only [List.map_cons, List.sum_cons, List.length_cons, Nat.succ_mul]
      omega

/-- One turn, where the mover pays for its step and for what it gives to each of the others. -/
theorem turn_weight_le
    (hown : ∀ c t s, heavy (step c t s).1 (step c t s).2 + cost c t s + n * gift c t s ≤
      heavy t s + gift c t s)
    (hother : ∀ c t s u, heavy u (step c t s).2 ≤ heavy u s + gift c t s)
    {p : Threads T S} (hn : p.threads.length = n) {move : Nat × C} {t : T}
    (ht : p.threads[move.1]? = some t) :
    weight heavy (turn step p move) + cost move.2 t p.shared ≤ weight heavy p := by
  obtain ⟨hnone, -⟩ | ⟨before, u, after, hp, hu, hturn⟩ := turn_cases step p move
  · rw [hnone] at ht
    cases ht
  · have hsame : u = t := Option.some.inj (hu.symm.trans ht)
    subst hsame
    have hlength : before.length + after.length + 1 = n := by
      rw [← hn, hp]
      simp
      omega
    have hbefore := sum_map_le_add before (hother move.2 u p.shared)
    have hafter := sum_map_le_add after (hother move.2 u p.shared)
    have hmover := hown move.2 u p.shared
    have hshare : n * gift move.2 u p.shared = before.length * gift move.2 u p.shared +
        after.length * gift move.2 u p.shared + gift move.2 u p.shared := by
      rw [← hlength, Nat.add_mul, Nat.add_mul, Nat.one_mul]
    unfold weight
    rw [hturn, hp]
    simp only [List.map_append, List.map_cons, List.sum_append, List.sum_cons]
    omega

/-- What a whole schedule costs was there as weight at the start. -/
theorem run_weight_le
    (hown : ∀ c t s, heavy (step c t s).1 (step c t s).2 + cost c t s + n * gift c t s ≤
      heavy t s + gift c t s)
    (hother : ∀ c t s u, heavy u (step c t s).2 ≤ heavy u s + gift c t s)
    {p : Threads T S} (hn : p.threads.length = n) (schedule : List (Nat × C)) :
    weight heavy (run step p schedule) + spent step cost p schedule ≤ weight heavy p := by
  induction schedule generalizing p with
  | nil => simp [spent]
  | cons move schedule ih =>
      have hrest := ih ((turn_length step p move).trans hn)
      cases hget : p.threads[move.1]? with
      | none =>
          have hidle : turn step p move = p := by simp [turn, hget]
          simp only [run_cons, spent, hget, hidle] at hrest ⊢
          omega
      | some t =>
          have hturn := turn_weight_le hown hother hn hget
          simp only [run_cons, spent, hget]
          omega

end Weighing

end Threads

end Runs
