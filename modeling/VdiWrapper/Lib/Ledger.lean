import Mathlib.Data.List.Induction
import VdiWrapper.Lib.Path

/-!
# Debts and payments on a trace

A `Ledger` reads two lists off one trace: what has become owed and what has been paid.  A trace
is `Orderly` when a debt is only incurred with the books settled and an attempt to pay is only
made for the debt that is open.  Orderliness is a property of single events, so it composes along
a run; `Orderly.lagging` turns it into the statement about every moment: the two lists never
differ by more than the last debt.
-/

namespace Runs

variable {E X : Type}

/-- Which events incur a debt, which try to pay one, and which attempts succeed. -/
structure Ledger (E X : Type) where
  owes : E → Option X
  attempts : E → Option X
  pays : E → Option X
  attempts_of_pays : ∀ {e : E} {x : X}, pays e = some x → attempts e = some x

namespace Ledger

variable (L : Ledger E X)

def owed (es : List E) : List X := es.filterMap L.owes

def paid (es : List E) : List X := es.filterMap L.pays

/-- Everything owed has been paid, in order. -/
def Settled (es : List E) : Prop := L.owed es = L.paid es

/-- Everything owed has been paid except `x`, the last debt. -/
def Owing (x : X) (es : List E) : Prop := L.owed es = L.paid es ++ [x]

/-- At most the last debt is open. -/
def Lagging (es : List E) : Prop := L.Settled es ∨ ∃ x, L.Owing x es

@[simp] theorem owed_append (es es' : List E) : L.owed (es ++ es') = L.owed es ++ L.owed es' :=
  List.filterMap_append

@[simp] theorem paid_append (es es' : List E) : L.paid (es ++ es') = L.paid es ++ L.paid es' :=
  List.filterMap_append

variable {L} {pre es es' : List E}

theorem settled_nil : L.Settled [] := rfl

/-- Settled books can be closed: what follows is judged on its own. -/
theorem Settled.append_iff (h : L.Settled pre) : L.Settled (pre ++ es) ↔ L.Settled es := by
  unfold Settled at h ⊢
  rw [owed_append, paid_append, h, List.append_cancel_left_eq]

theorem Settled.append_owing_iff {x : X} (h : L.Settled pre) :
    L.Owing x (pre ++ es) ↔ L.Owing x es := by
  unfold Settled at h
  unfold Owing
  rw [owed_append, paid_append, h, List.append_assoc, List.append_cancel_left_eq]

/-- What must hold just before `e`: the books are settled at a boundary and before a debt, and an
attempt to pay is for the debt that is open. -/
structure Fits (L : Ledger E X) (boundary : E → Prop) (pre : List E) (e : E) : Prop where
  boundary : boundary e → L.Settled pre
  debt : ∀ x, L.owes e = some x → L.Settled pre ∧ L.pays e = none
  attempt : ∀ x, L.attempts e = some x → L.Owing x pre

theorem fits_iff {L : Ledger E X} {boundary : E → Prop} {pre : List E} {e : E} :
    L.Fits boundary pre e ↔ (boundary e → L.Settled pre) ∧
      (∀ x, L.owes e = some x → L.Settled pre ∧ L.pays e = none) ∧
        ∀ x, L.attempts e = some x → L.Owing x pre :=
  ⟨fun h => ⟨h.boundary, h.debt, h.attempt⟩, fun h => ⟨h.1, h.2.1, h.2.2⟩⟩

/-- Every event of the trace fits what came before it. -/
def Orderly (L : Ledger E X) (boundary : E → Prop) (es : List E) : Prop :=
  Always (L.Fits boundary) es

/-- An event that says nothing about the ledger. -/
structure Silent (L : Ledger E X) (boundary : E → Prop) (e : E) : Prop where
  boundary : ¬ boundary e
  owes : L.owes e = none
  attempts : L.attempts e = none

variable {boundary : E → Prop}

theorem Silent.pays {e : E} (h : L.Silent boundary e) : L.pays e = none := by
  by_contra hpays
  obtain ⟨x, hx⟩ := Option.ne_none_iff_exists'.mp hpays
  have := L.attempts_of_pays hx
  rw [h.attempts] at this
  cases this

theorem Silent.fits {e : E} (h : L.Silent boundary e) : L.Fits boundary pre e := by
  refine ⟨fun hb => absurd hb h.boundary, ?_, ?_⟩
  · intro x hx
    rw [h.owes] at hx
    cases hx
  · intro x hx
    rw [h.attempts] at hx
    cases hx

theorem Silent.owed_eq (h : ∀ e ∈ es, L.Silent boundary e) : L.owed es = [] :=
  List.filterMap_eq_nil_iff.mpr fun e he => (h e he).owes

theorem Silent.paid_eq (h : ∀ e ∈ es, L.Silent boundary e) : L.paid es = [] :=
  List.filterMap_eq_nil_iff.mpr fun e he => (h e he).pays

/-- A silent stretch settles nothing and owes nothing. -/
theorem Silent.settled (h : ∀ e ∈ es, L.Silent boundary e) : L.Settled es := by
  unfold Settled
  rw [Silent.owed_eq h, Silent.paid_eq h]

theorem Orderly.of_silent (h : ∀ e ∈ es, L.Silent boundary e) : L.Orderly boundary es :=
  always_of_forall fun _ e he => (h e he).fits

/-- Orderly runs chain across a moment with settled books. -/
theorem Orderly.append (h : L.Orderly boundary es) (hs : L.Settled es)
    (h' : L.Orderly boundary es') : L.Orderly boundary (es ++ es') := by
  refine always_append.mpr ⟨h, h'.imp fun pre e _ fits => ⟨?_, ?_, ?_⟩⟩
  · intro hb
    exact hs.append_iff.mpr (fits.boundary hb)
  · intro x hx
    exact ⟨hs.append_iff.mpr (fits.debt x hx).1, (fits.debt x hx).2⟩
  · intro x hx
    exact hs.append_owing_iff.mpr (fits.attempt x hx)

/-- A silent stretch may follow an open debt too. -/
theorem Orderly.append_silent (h : L.Orderly boundary es)
    (h' : ∀ e ∈ es', L.Silent boundary e) : L.Orderly boundary (es ++ es') :=
  always_append.mpr ⟨h, always_of_forall fun _ e he => (h' e he).fits⟩

theorem Orderly.snoc {e : E} (h : L.Orderly boundary es) (fits : L.Fits boundary es e) :
    L.Orderly boundary (es ++ [e]) := by
  refine always_append.mpr ⟨h, always_cons.mpr ⟨?_, always_nil⟩⟩
  rwa [List.append_nil]

theorem Settled.append_silent (h : L.Settled es) (h' : ∀ e ∈ es', L.Silent boundary e) :
    L.Settled (es ++ es') :=
  h.append_iff.mpr (Silent.settled h')

theorem Owing.append_silent {x : X} (h : L.Owing x es) (h' : ∀ e ∈ es', L.Silent boundary e) :
    L.Owing x (es ++ es') := by
  unfold Owing
  rw [owed_append, paid_append, Silent.owed_eq h', Silent.paid_eq h', List.append_nil,
    List.append_nil]
  exact h

/-- Paying the open debt settles the books. -/
theorem Owing.pay {x : X} {e : E} (h : L.Owing x es) (howes : L.owes e = none)
    (hpays : L.pays e = some x) : L.Settled (es ++ [e]) := by
  unfold Settled
  rw [owed_append, paid_append, h]
  simp [owed, paid, howes, hpays]

/-- One more event keeps the lag below two. -/
theorem Lagging.snoc {e : E} (h : L.Lagging pre) (fits : L.Fits boundary pre e) :
    L.Lagging (pre ++ [e]) := by
  cases howes : L.owes e with
  | some x =>
      obtain ⟨hs, hpays⟩ := fits.debt x howes
      refine .inr ⟨x, hs.append_owing_iff.mpr ?_⟩
      simp [Owing, owed, paid, howes, hpays]
  | none =>
      cases hpays : L.pays e with
      | some x => exact .inl ((fits.attempt x (L.attempts_of_pays hpays)).pay howes hpays)
      | none =>
          have howed : L.owed (pre ++ [e]) = L.owed pre := by simp [owed, howes]
          have hpaid : L.paid (pre ++ [e]) = L.paid pre := by simp [paid, hpays]
          unfold Lagging Settled Owing at h ⊢
          rwa [howed, hpaid]

/-- **At every moment of an orderly run, everything owed has been paid, in order, except possibly
the last debt.** -/
theorem Orderly.lagging (h : L.Orderly boundary es) : Throughout L.Lagging es := by
  intro pre
  induction pre using List.reverseRecOn with
  | nil => exact fun _ => .inl settled_nil
  | append_singleton pre e ih =>
      intro hp
      have hlag : L.Lagging pre := ih ((List.prefix_append pre [e]).trans hp)
      obtain ⟨post, hpost⟩ := hp
      exact hlag.snoc (h pre e post (by simp [← hpost]))

end Ledger

end Runs
