import Mathlib.Data.List.Perm.Basic
import Mathlib.Data.List.Nodup
import VdiWrapper.Lib.Path

/-!
# Custody of items lent from a queue

A lender keeps its free items in a queue.  A client takes the front item, finds the queue empty,
or gives back an item it has.  Whatever the clients and whatever the order of their moves, every
item is in exactly one place, and the items leave the queue in the order in which they came to it.

* `Owns` — the free and the lent items are a rearrangement of a fixed stock;
* `Owns.path` — every run keeps the stock;
* `fifo` — what was taken, followed by what is still free, is the stock in the order it came in.
-/

namespace Runs

variable {C X : Type}

/-- The free items in queue order, and each lent item with the client that has it. -/
structure Custody (C X : Type) where
  free : List X
  held : List (C × X)

inductive Custody.Move (C X : Type)
  | take (client : C) (item : X)
  | miss (client : C)
  | give (client : C) (item : X)

namespace Custody

def Move.taken : Move C X → Option X
  | .take _ x => some x
  | .miss _ => none
  | .give _ _ => none

def Move.given : Move C X → Option X
  | .take _ _ => none
  | .miss _ => none
  | .give _ x => some x

/-- All the items there are, free or lent. -/
def items (s : Custody C X) : List X := s.free ++ s.held.map Prod.snd

/-- The free and the lent items together are the stock `xs`. -/
def Owns (xs : List X) (s : Custody C X) : Prop := s.items.Perm xs

variable {s t : Custody C X} {xs : List X}

namespace Owns

theorem nodup (h : Owns xs s) (hxs : xs.Nodup) : s.items.Nodup :=
  h.nodup_iff.mpr hxs

/-- No item is lent to two clients. -/
theorem exclusive (h : Owns xs s) (hxs : xs.Nodup) {c c' : C} {x : X}
    (hc : (c, x) ∈ s.held) (hc' : (c', x) ∈ s.held) : c = c' := by
  have hheld : (s.held.map Prod.snd).Nodup := (List.nodup_append.mp (h.nodup hxs)).2.1
  have hpair : (c, x) = (c', x) := List.inj_on_of_nodup_map hheld hc hc' rfl
  exact congrArg Prod.fst hpair

/-- A lent item is not free. -/
theorem notMem_free (h : Owns xs s) (hxs : xs.Nodup) {c : C} {x : X} (hc : (c, x) ∈ s.held) :
    x ∉ s.free := by
  intro hfree
  have hdisjoint := (List.nodup_append.mp (h.nodup hxs)).2.2
  exact hdisjoint x hfree x (List.mem_map_of_mem hc) rfl

theorem length_add (h : Owns xs s) : s.free.length + s.held.length = xs.length := by
  have hlength := h.length_eq
  unfold items at hlength
  rwa [List.length_append, List.length_map] at hlength

/-- Nothing is free exactly when as much is lent as there is. -/
theorem free_eq_nil_iff (h : Owns xs s) : s.free = [] ↔ s.held.length = xs.length := by
  have hlength := h.length_add
  rw [← List.length_eq_zero_iff]
  omega

/-- Nothing is free exactly when every item is lent. -/
theorem free_eq_nil_iff_forall (h : Owns xs s) (hxs : xs.Nodup) :
    s.free = [] ↔ ∀ x ∈ xs, ∃ c, (c, x) ∈ s.held := by
  constructor
  · intro hfree x hx
    have hitem : x ∈ s.items := h.mem_iff.mpr hx
    unfold items at hitem
    rw [hfree, List.nil_append] at hitem
    obtain ⟨p, hp, hpx⟩ := List.mem_map.mp hitem
    exact ⟨p.1, by rwa [← hpx]⟩
  · intro hall
    apply List.eq_nil_iff_forall_not_mem.mpr
    intro x hx
    have hstock : x ∈ xs := h.mem_iff.mp (List.mem_append_left _ hx)
    obtain ⟨c, hc⟩ := hall x hstock
    exact h.notMem_free hxs hc hx

end Owns

variable [DecidableEq C] [DecidableEq X]

/-- One move.  A client gives back only what it has. -/
inductive Step : Custody C X → Move C X → Custody C X → Prop
  | take (c : C) (x : X) (free : List X) (held : List (C × X)) :
      Step ⟨x :: free, held⟩ (.take c x) ⟨free, (c, x) :: held⟩
  | miss (c : C) (held : List (C × X)) : Step ⟨[], held⟩ (.miss c) ⟨[], held⟩
  | give (c : C) (x : X) (free : List X) (held : List (C × X)) (has : (c, x) ∈ held) :
      Step ⟨free, held⟩ (.give c x) ⟨free ++ [x], held.erase (c, x)⟩

variable {m : Move C X} {ms : List (Move C X)}

/-- A move carries an item from one place to another. -/
theorem Step.items_perm (h : Step s m t) : t.items.Perm s.items := by
  cases h with
  | take c x free held => exact List.perm_middle
  | miss => exact List.Perm.refl _
  | give c x free held has =>
      have hheld : (held.map Prod.snd).Perm (x :: (held.erase (c, x)).map Prod.snd) :=
        (List.perm_cons_erase has).map Prod.snd
      calc free ++ [x] ++ (held.erase (c, x)).map Prod.snd
          = free ++ (x :: (held.erase (c, x)).map Prod.snd) := by simp
        List.Perm _ (free ++ held.map Prod.snd) := hheld.symm.append_left free

theorem Owns.path (h : Owns xs s) (hrun : Path Step s ms t) : Owns xs t := by
  induction hrun with
  | nil => exact h
  | cons head _ ih => exact ih (head.items_perm.trans h)

/-- The queue gives its items out at the front and takes them back at the end. -/
theorem Step.fifo (h : Step s m t) :
    m.taken.toList ++ t.free = s.free ++ m.given.toList := by
  cases h with
  | take => simp [Move.taken, Move.given]
  | miss => rfl
  | give => rfl

/-- Items leave the queue in the order in which they came to it. -/
theorem fifo (hrun : Path Step s ms t) :
    ms.filterMap Move.taken ++ t.free = s.free ++ ms.filterMap Move.given := by
  induction hrun with
  | nil => simp
  | @cons s u t m ms head tail ih =>
      have hstep := head.fifo
      have htaken : (m :: ms).filterMap Move.taken = m.taken.toList ++ ms.filterMap Move.taken := by
        cases m <;> rfl
      have hgiven : (m :: ms).filterMap Move.given = m.given.toList ++ ms.filterMap Move.given := by
        cases m <;> rfl
      rw [htaken, hgiven, List.append_assoc, ih, ← List.append_assoc, hstep, List.append_assoc]

end Custody

end Runs
