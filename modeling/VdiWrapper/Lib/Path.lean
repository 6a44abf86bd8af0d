import Mathlib.Data.List.Basic

/-!
# Labelled paths and prefix properties

A labelled transition relation `step : S → E → S → Prop` records what one event may do to a
state.  `Path step s es t` chains such events along the list `es`.  A program whose trace is a
`Path` of its environment has not invented a response: every recorded event is one the
environment gave in the state it was then in.

`Throughout P es` says that `P` holds of every prefix of the trace `es`, that is at every moment
of the run that produced it; `throughout_cons` walks through a known list of events one by one.
-/

namespace Runs

variable {S T E : Type}

/-- The events `es` lead from `s` to `t`, each by one `step`. -/
inductive Path (step : S → E → S → Prop) : S → List E → S → Prop
  | nil (s : S) : Path step s [] s
  | cons {s t u : S} {e : E} {es : List E}
      (head : step s e t) (tail : Path step t es u) : Path step s (e :: es) u

theorem Path.single {step : S → E → S → Prop} {s t : S} {e : E} (h : step s e t) :
    Path step s [e] t :=
  .cons h (.nil t)

theorem Path.append {step : S → E → S → Prop} {s t u : S} {es es' : List E}
    (h : Path step s es t) (h' : Path step t es' u) : Path step s (es ++ es') u := by
  induction h with
  | nil => exact h'
  | cons head _ ih => exact .cons head (ih h')

/-- Events that may all be taken without moving are a path that goes nowhere. -/
theorem Path.idle {step : S → E → S → Prop} {s : S} {es : List E} (h : ∀ e ∈ es, step s e s) :
    Path step s es s := by
  induction es with
  | nil => exact .nil s
  | cons e es ih =>
      exact .cons (h e List.mem_cons_self) (ih fun e he => h e (List.mem_cons_of_mem _ he))

/-- A map of states and events that keeps steps keeps paths. -/
theorem Path.map {F : Type} {step : S → E → S → Prop} {step' : T → F → T → Prop} {s t : S}
    {es : List E} (h : Path step s es t) (f : S → T) (g : E → F)
    (hstep : ∀ s e t, step s e t → step' (f s) (g e) (f t)) :
    Path step' (f s) (es.map g) (f t) := by
  induction h with
  | nil => exact .nil _
  | cons head _ ih => exact .cons (hstep _ _ _ head) ih

/-- Every event of a path was a step somewhere on it. -/
theorem Path.exists_step {step : S → E → S → Prop} {s t : S} {es : List E}
    (h : Path step s es t) : ∀ e ∈ es, ∃ u v, step u e v := by
  induction h with
  | nil => simp
  | cons head tail ih =>
      intro e he
      rcases List.mem_cons.mp he with rfl | he
      · exact ⟨_, _, head⟩
      · exact ih e he

/-- A path along a concatenation passes through a middle state. -/
theorem Path.split {step : S → E → S → Prop} {s u : S} {es es' : List E}
    (h : Path step s (es ++ es') u) : ∃ t, Path step s es t ∧ Path step t es' u := by
  induction es generalizing s with
  | nil => exact ⟨s, .nil s, h⟩
  | cons e es ih =>
      cases h with
      | cons head tail =>
          obtain ⟨t, left, right⟩ := ih tail
          exact ⟨t, .cons head left, right⟩

/-- `P` holds at every moment of the run that produced the trace `es`. -/
def Throughout (P : List E → Prop) (es : List E) : Prop :=
  ∀ pre, pre <+: es → P pre

theorem Throughout.final {P : List E → Prop} {es : List E} (h : Throughout P es) : P es :=
  h es (List.prefix_refl es)

theorem Throughout.imp {P Q : List E → Prop} {es : List E}
    (hPQ : ∀ pre, P pre → Q pre) (h : Throughout P es) : Throughout Q es :=
  fun pre hp => hPQ pre (h pre hp)

@[simp] theorem throughout_nil {P : List E → Prop} : Throughout P [] ↔ P [] :=
  ⟨fun h => h.final, fun h pre hp => by rwa [List.prefix_nil.mp hp]⟩

/-- Walking one event into the run. -/
@[simp] theorem throughout_cons {P : List E → Prop} {e : E} {es : List E} :
    Throughout P (e :: es) ↔ P [] ∧ Throughout (fun pre => P (e :: pre)) es := by
  constructor
  · intro h
    refine ⟨h [] List.nil_prefix, fun pre hp => h _ ?_⟩
    exact List.cons_prefix_cons.mpr ⟨rfl, hp⟩
  · rintro ⟨h0, h⟩ pre hp
    rcases List.prefix_cons_iff.mp hp with rfl | ⟨rest, rfl, hrest⟩
    · exact h0
    · exact h rest hrest

/-- Every occurrence of an event satisfies `Q`, seen with what came before it. -/
def Always (Q : List E → E → Prop) (es : List E) : Prop :=
  ∀ pre e post, es = pre ++ e :: post → Q pre e

@[simp] theorem always_nil {Q : List E → E → Prop} : Always Q [] := by
  intro pre e post h
  simp at h

@[simp] theorem always_cons {Q : List E → E → Prop} {e : E} {es : List E} :
    Always Q (e :: es) ↔ Q [] e ∧ Always (fun pre => Q (e :: pre)) es := by
  constructor
  · intro h
    exact ⟨h [] e es rfl, fun pre e' post heq => h (e :: pre) e' post (by rw [heq]; rfl)⟩
  · rintro ⟨h0, h⟩ pre e' post heq
    cases pre with
    | nil => cases heq; exact h0
    | cons a pre => cases heq; exact h pre e' post rfl

theorem always_append {Q : List E → E → Prop} {es es' : List E} :
    Always Q (es ++ es') ↔ Always Q es ∧ Always (fun pre => Q (es ++ pre)) es' := by
  induction es generalizing Q with
  | nil => simp
  | cons e es ih => simp [ih, and_assoc]

theorem Always.imp {Q R : List E → E → Prop} {es : List E}
    (h : Always Q es) (hQR : ∀ pre e, e ∈ es → Q pre e → R pre e) : Always R es :=
  fun pre e post heq => hQR pre e (by simp [heq]) (h pre e post heq)

/-- What holds always holds at every position. -/
theorem Always.get {Q : List E → E → Prop} {es : List E} (h : Always Q es) {n : Nat} {e : E}
    (hn : es[n]? = some e) : Q (es.take n) e := by
  obtain ⟨hlt, rfl⟩ := List.getElem?_eq_some_iff.mp hn
  exact h (es.take n) es[n] (es.drop (n + 1)) (by simp)

/-- An event property that does not look back. -/
theorem always_of_forall {Q : List E → E → Prop} {es : List E}
    (h : ∀ pre, ∀ e ∈ es, Q pre e) : Always Q es :=
  fun pre e post heq => h pre e (by simp [heq])

section Fold

variable {step : S → E → S} {I : S → Prop} {Q : S → E → Prop} {s : S} {es es' : List E}

theorem always_foldl_append :
    Always (fun pre e => Q (pre.foldl step s) e) (es ++ es') ↔
      Always (fun pre e => Q (pre.foldl step s) e) es ∧
        Always (fun pre e => Q (pre.foldl step (es.foldl step s)) e) es' := by
  simp only [always_append, List.foldl_append]

/-- An invariant that the events of a run keep where they are safe holds throughout a run of safe
events. -/
theorem Always.throughout_foldl (hstep : ∀ s e, I s → Q s e → I (step s e)) (hs : I s)
    (h : Always (fun pre e => Q (pre.foldl step s) e) es) :
    Throughout (fun pre => I (pre.foldl step s)) es := by
  induction es generalizing s with
  | nil => exact throughout_nil.mpr hs
  | cons e es ih =>
      obtain ⟨head, tail⟩ := always_cons.mp h
      exact throughout_cons.mpr ⟨hs, ih (hstep s e hs head) tail⟩

end Fold

/-- An occurrence in a concatenation lies in one of its parts. -/
theorem append_eq_split {es es' pre post : List E} {e : E} (h : es ++ es' = pre ++ e :: post) :
    (∃ mid, es = pre ++ e :: mid ∧ post = mid ++ es') ∨
      ∃ mid, pre = es ++ mid ∧ es' = mid ++ e :: post := by
  rcases List.append_eq_append_iff.mp h with ⟨mid, hpre, htail⟩ | ⟨mid, hes, htail⟩
  · exact .inr ⟨mid, hpre, htail⟩
  · cases mid with
    | nil =>
        rw [List.append_nil] at hes
        exact .inr ⟨[], by rw [hes, List.append_nil], htail.symm⟩
    | cons a mid =>
        cases htail
        exact .inl ⟨mid, hes, rfl⟩

/-- `P` happens at one point of the trace and not before it, and only `Q` happens after it. -/
def StopsAt (P Q : E → Prop) (es : List E) : Prop :=
  ∃ pre e post, es = pre ++ e :: post ∧ P e ∧ (∀ a ∈ pre, ¬ P a) ∧ ∀ a ∈ post, Q a

theorem StopsAt.prepend {P Q : E → Prop} {es es' : List E} (h : ∀ a ∈ es, ¬ P a)
    (h' : StopsAt P Q es') : StopsAt P Q (es ++ es') := by
  obtain ⟨pre, e, post, rfl, he, hpre, hpost⟩ := h'
  refine ⟨es ++ pre, e, post, by simp, he, ?_, hpost⟩
  exact List.forall_mem_append.mpr ⟨h, hpre⟩

theorem StopsAt.append {P Q : E → Prop} {es es' : List E} (h : StopsAt P Q es)
    (h' : ∀ a ∈ es', Q a) : StopsAt P Q (es ++ es') := by
  obtain ⟨pre, e, post, rfl, he, hpre, hpost⟩ := h
  refine ⟨pre, e, post ++ es', by simp, he, hpre, ?_⟩
  exact List.forall_mem_append.mpr ⟨hpost, h'⟩

theorem StopsAt.exists_mem {P Q : E → Prop} {es : List E} (h : StopsAt P Q es) :
    ∃ e ∈ es, P e := by
  obtain ⟨pre, e, post, rfl, he, -, -⟩ := h
  exact ⟨e, by simp, he⟩

/-- If `Q` excludes `P`, then wherever `P` happens is the one point it happens at. -/
theorem StopsAt.at_split {P Q : E → Prop} {es pre post : List E} {e : E} (h : StopsAt P Q es)
    (hPQ : ∀ a, Q a → ¬ P a) (heq : es = pre ++ e :: post) (he : P e) :
    (∀ a ∈ pre, ¬ P a) ∧ ∀ a ∈ post, Q a := by
  obtain ⟨pre', e', post', rfl, he', hpre, hpost⟩ := h
  rcases List.append_eq_append_iff.mp heq with ⟨mid, rfl, htail⟩ | ⟨mid, rfl, htail⟩
  · cases mid with
    | nil =>
        cases htail
        exact ⟨by simpa using hpre, hpost⟩
    | cons a mid =>
        cases htail
        exact absurd he (hPQ e (hpost e (by simp)))
  · cases mid with
    | nil =>
        cases htail
        exact ⟨by simpa using hpre, hpost⟩
    | cons a mid =>
        cases htail
        exact absurd he (hpre e (by simp))

end Runs
