import Mathlib.Data.List.Count
import VdiWrapper.Lib.Path

/-!
# References held along a trace

A `Holding` reads acquisitions, releases and uses of references off one trace.  The same name may
be acquired more than once, so references are counted: `x` is held when it was acquired more often
than released.  A trace is `Careful` when it only uses and releases what it holds and lets nothing
be held at a barrier.  Careful traces chain across a moment when nothing is held, and a reference
that is never given back is visible in the count for ever after.
-/

namespace Runs

variable {E X : Type}

/-- Which events acquire, release and use a reference, and before which nothing may be held. -/
structure Holding (E X : Type) where
  acquires : E → Option X
  releases : E → Option X
  uses : E → Option X
  barrier : E → Prop

namespace Holding

variable (H : Holding E X)

def acquired (es : List E) : List X := es.filterMap H.acquires

def released (es : List E) : List X := es.filterMap H.releases

@[simp] theorem acquired_append (es es' : List E) :
    H.acquired (es ++ es') = H.acquired es ++ H.acquired es' :=
  List.filterMap_append

@[simp] theorem released_append (es es' : List E) :
    H.released (es ++ es') = H.released es ++ H.released es' :=
  List.filterMap_append

variable [DecidableEq X]

/-- `x` was acquired more often than released. -/
def Held (x : X) (es : List E) : Prop := (H.released es).count x < (H.acquired es).count x

/-- Every reference was released as often as it was acquired. -/
def Free (es : List E) : Prop := ∀ x, (H.released es).count x = (H.acquired es).count x

/-- What must hold just before `e`. -/
structure Allows (H : Holding E X) (pre : List E) (e : E) : Prop where
  release : ∀ x, H.releases e = some x → H.Held x pre
  use : ∀ x, H.uses e = some x → H.Held x pre
  barrier : H.barrier e → H.Free pre

/-- Every event of the trace is allowed by what came before it. -/
def Careful (es : List E) : Prop := Always H.Allows es

variable {H} {pre es es' : List E}

theorem free_nil : H.Free [] := fun _ => rfl

theorem Free.append_iff (h : H.Free pre) : H.Free (pre ++ es) ↔ H.Free es := by
  unfold Free at h ⊢
  apply forall_congr'
  intro x
  rw [released_append, acquired_append, List.count_append, List.count_append, h x]
  exact Nat.add_left_cancel_iff

theorem Free.append_held_iff {x : X} (h : H.Free pre) : H.Held x (pre ++ es) ↔ H.Held x es := by
  unfold Held
  rw [released_append, acquired_append, List.count_append, List.count_append, h x]
  exact Nat.add_lt_add_iff_left

/-- What is held stays held while nothing is acquired or released. -/
theorem Held.append {x : X} (h : H.Held x es)
    (hidle : ∀ e ∈ es', H.acquires e = none ∧ H.releases e = none) : H.Held x (es ++ es') := by
  have hacquired : H.acquired es' = [] :=
    List.filterMap_eq_nil_iff.mpr fun e he => (hidle e he).1
  have hreleased : H.released es' = [] :=
    List.filterMap_eq_nil_iff.mpr fun e he => (hidle e he).2
  unfold Held at h ⊢
  rwa [released_append, acquired_append, hacquired, hreleased, List.append_nil, List.append_nil]

/-- Careful traces chain across a moment when nothing is held. -/
theorem Careful.append (h : H.Careful es) (hfree : H.Free es) (h' : H.Careful es') :
    H.Careful (es ++ es') := by
  refine always_append.mpr ⟨h, h'.imp fun pre e _ allows => ⟨?_, ?_, ?_⟩⟩
  · intro x hx
    exact hfree.append_held_iff.mpr (allows.release x hx)
  · intro x hx
    exact hfree.append_held_iff.mpr (allows.use x hx)
  · intro hb
    exact hfree.append_iff.mpr (allows.barrier hb)

/-- An event that may happen at any time. -/
structure Harmless (H : Holding E X) (e : E) : Prop where
  releases : H.releases e = none
  uses : H.uses e = none
  barrier : ¬ H.barrier e

theorem Harmless.allows {e : E} (h : H.Harmless e) : H.Allows pre e := by
  refine ⟨fun x hx => ?_, fun x hx => ?_, fun hb => absurd hb h.barrier⟩
  · rw [h.releases] at hx
    cases hx
  · rw [h.uses] at hx
    cases hx

theorem Careful.append_harmless (h : H.Careful es) (h' : ∀ e ∈ es', H.Harmless e) :
    H.Careful (es ++ es') :=
  always_append.mpr ⟨h, always_of_forall fun _ e he => (h' e he).allows⟩

theorem Careful.of_harmless (h : ∀ e ∈ es, H.Harmless e) : H.Careful es :=
  always_of_forall fun _ e he => (h e he).allows

/-- References that are held while `es` neither acquires nor releases any may be used in it. -/
theorem Careful.append_uses (h : H.Careful es)
    (hnone : ∀ e ∈ es', H.acquires e = none ∧ H.releases e = none ∧ ¬ H.barrier e)
    (huses : ∀ e ∈ es', ∀ x, H.uses e = some x → H.Held x es) : H.Careful (es ++ es') := by
  refine always_append.mpr ⟨h, fun pre e post heq => ?_⟩
  have hmem : e ∈ es' := by simp [heq]
  have hpre : ∀ a ∈ pre, a ∈ es' := fun a ha => by simp [heq, ha]
  refine ⟨fun x hx => ?_, fun x hx => ?_, fun hb => absurd hb (hnone e hmem).2.2⟩
  · rw [(hnone e hmem).2.1] at hx
    cases hx
  · exact (huses e hmem x hx).append fun a ha =>
      ⟨(hnone a (hpre a ha)).1, (hnone a (hpre a ha)).2.1⟩

/-- Nothing is acquired or released while nothing is held. -/
theorem Careful.append_idle (h : H.Careful es) (hfree : H.Free es)
    (hidle : ∀ e ∈ es', H.acquires e = none ∧ H.releases e = none ∧ H.uses e = none) :
    H.Careful (es ++ es') ∧ H.Free (es ++ es') := by
  have hfree' : ∀ pre, (∀ a ∈ pre, a ∈ es') → H.Free pre := by
    intro pre hpre x
    have hacquired : H.acquired pre = [] :=
      List.filterMap_eq_nil_iff.mpr fun a ha => (hidle a (hpre a ha)).1
    have hreleased : H.released pre = [] :=
      List.filterMap_eq_nil_iff.mpr fun a ha => (hidle a (hpre a ha)).2.1
    rw [hacquired, hreleased]
  refine ⟨h.append hfree fun pre e post heq => ?_, hfree.append_iff.mpr (hfree' es' fun _ => id)⟩
  have hmem : e ∈ es' := by simp [heq]
  refine ⟨fun x hx => ?_, fun x hx => ?_, fun _ => hfree' pre fun a ha => by simp [heq, ha]⟩
  · rw [(hidle e hmem).2.1] at hx
    cases hx
  · rw [(hidle e hmem).2.2] at hx
    cases hx

/-- Releasing, one by one, exactly what is held leaves nothing held. -/
theorem Careful.append_releases (f : X → E) (xs : List X)
    (hf : ∀ x, H.releases (f x) = some x ∧ H.acquires (f x) = none ∧ H.uses (f x) = none ∧
      ¬ H.barrier (f x))
    (h : H.Careful es)
    (hcount : ∀ x, (H.released es).count x + xs.count x = (H.acquired es).count x) :
    H.Careful (es ++ xs.map f) ∧ H.Free (es ++ xs.map f) := by
  induction xs generalizing es with
  | nil =>
      rw [List.map_nil, List.append_nil]
      exact ⟨h, fun x => by simpa using hcount x⟩
  | cons x xs ih =>
      obtain ⟨hreleases, hacquires, huses, hbarrier⟩ := hf x
      have hallows : H.Allows es (f x) := by
        refine ⟨fun y hy => ?_, fun y hy => ?_, fun hb => absurd hb hbarrier⟩
        · rw [hreleases] at hy
          cases hy
          have hx := hcount x
          rw [List.count_cons_self] at hx
          unfold Held
          omega
        · rw [huses] at hy
          cases hy
      have hcareful : H.Careful (es ++ [f x]) := by
        refine always_append.mpr ⟨h, always_cons.mpr ⟨?_, always_nil⟩⟩
        rwa [List.append_nil]
      have hreleased : H.released (es ++ [f x]) = H.released es ++ [x] := by
        simp [released, hreleases]
      have hacquired : H.acquired (es ++ [f x]) = H.acquired es := by
        simp [acquired, hacquires]
      have hrest := ih hcareful fun y => by
        have hy := hcount y
        rw [hreleased, hacquired, List.count_append]
        rw [List.count_cons] at hy
        rw [List.count_singleton]
        omega
      rwa [List.append_assoc, List.singleton_append] at hrest

/-! ## What is owed -/

/-- After the careful trace `es` exactly the references of `xs` are still to be released. -/
structure Owes (H : Holding E X) (xs : List X) (es : List E) : Prop where
  careful : H.Careful es
  count : ∀ x, (H.released es).count x + xs.count x = (H.acquired es).count x

variable {xs : List X} {x : X} {e : E}

theorem owes_nil : H.Owes [] [] := ⟨always_nil, fun _ => rfl⟩

theorem Owes.free (h : H.Owes [] es) : H.Free es := h.count

theorem Owes.held (h : H.Owes xs es) (hx : x ∈ xs) : H.Held x es := by
  have hcount := h.count x
  have hpos := List.count_pos_iff.mpr hx
  unfold Held
  omega

theorem Owes.acquire (h : H.Owes xs es) (hacquires : H.acquires e = some x)
    (hharmless : H.Harmless e) : H.Owes (x :: xs) (es ++ [e]) := by
  refine ⟨h.careful.append_harmless fun a ha => ?_, fun y => ?_⟩
  · rwa [List.mem_singleton.mp ha]
  · have hacquired : H.acquired [e] = [x] := List.filterMap_cons_some hacquires
    have hreleased : H.released [e] = [] := List.filterMap_cons_none hharmless.releases
    have hcount := h.count y
    rw [acquired_append, released_append, hacquired, hreleased, List.append_nil,
      List.count_append, List.count_cons, List.count_singleton]
    omega

/-- What is owed may be used. -/
theorem Owes.use (h : H.Owes xs es)
    (hnone : ∀ e ∈ es', H.acquires e = none ∧ H.releases e = none ∧ ¬ H.barrier e)
    (huses : ∀ e ∈ es', ∀ x, H.uses e = some x → x ∈ xs) : H.Owes xs (es ++ es') := by
  refine ⟨h.careful.append_uses hnone fun e he x hx => h.held (huses e he x hx), fun x => ?_⟩
  have hacquired : H.acquired es' = [] :=
    List.filterMap_eq_nil_iff.mpr fun e he => (hnone e he).1
  have hreleased : H.released es' = [] :=
    List.filterMap_eq_nil_iff.mpr fun e he => (hnone e he).2.1
  rw [acquired_append, released_append, hacquired, hreleased, List.append_nil, List.append_nil]
  exact h.count x

theorem Owes.useOne (h : H.Owes xs es)
    (hnone : H.acquires e = none ∧ H.releases e = none ∧ ¬ H.barrier e)
    (huses : ∀ x, H.uses e = some x → x ∈ xs) : H.Owes xs (es ++ [e]) :=
  h.use (List.forall_mem_singleton.mpr hnone) (List.forall_mem_singleton.mpr huses)

/-- Where nothing is owed, a barrier may be passed. -/
theorem Owes.pass (h : H.Owes [] es)
    (hidle : ∀ e ∈ es', H.acquires e = none ∧ H.releases e = none ∧ H.uses e = none) :
    H.Owes [] (es ++ es') := by
  obtain ⟨hcareful, hfree⟩ := h.careful.append_idle h.free hidle
  exact ⟨hcareful, hfree⟩

theorem Owes.passOne (h : H.Owes [] es)
    (hidle : H.acquires e = none ∧ H.releases e = none ∧ H.uses e = none) :
    H.Owes [] (es ++ [e]) :=
  h.pass (List.forall_mem_singleton.mpr hidle)

theorem Owes.release (h : H.Owes (x :: xs) es) (hreleases : H.releases e = some x)
    (hacquires : H.acquires e = none) (huses : H.uses e = none) (hbarrier : ¬ H.barrier e) :
    H.Owes xs (es ++ [e]) := by
  have hheld : H.Held x es := h.held List.mem_cons_self
  have hallows : H.Allows es e := by
    refine ⟨fun y hy => ?_, fun y hy => ?_, fun hb => absurd hb hbarrier⟩
    · rw [hreleases] at hy
      cases hy
      exact hheld
    · rw [huses] at hy
      cases hy
  refine ⟨always_append.mpr ⟨h.careful, always_cons.mpr ⟨?_, always_nil⟩⟩, fun y => ?_⟩
  · rwa [List.append_nil]
  · have hacquired : H.acquired [e] = [] := List.filterMap_cons_none hacquires
    have hreleased : H.released [e] = [x] := List.filterMap_cons_some hreleases
    have hcount := h.count y
    rw [List.count_cons] at hcount
    rw [acquired_append, released_append, hacquired, hreleased, List.append_nil,
      List.count_append, List.count_singleton]
    omega

end Holding

end Runs
