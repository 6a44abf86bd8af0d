import Mathlib.Data.List.Forall2

/-!
# Regular expressions with captures

The fragment of a backtracking engine that needs no more than classes of characters, their
repetition, sequence and groups.  `Matches` says which texts an expression matches and what its
groups capture then; `runs` lists the matches at the start of a text in the order in which the
engine tries them, and `find` is the first one at the leftmost place that has any.
-/

variable {α : Type*}

/-- A regular expression over the letters `α`. -/
inductive Regex (α : Type*)
  | empty
  /-- One letter of a class. -/
  | one (p : α → Bool)
  | seq (a b : Regex α)
  /-- Letters of a class, as few as possible if `lazily`, else as many as possible. -/
  | many (lazily : Bool) (p : α → Bool)
  | group (a : Regex α)

namespace Regex

/-- `a.Matches u captures`: `a` matches all of `u`. -/
inductive Matches : Regex α → List α → List (List α) → Prop
  | empty : Matches .empty [] []
  | one {p : α → Bool} {c : α} (h : p c = true) : Matches (.one p) [c] []
  | seq {a b : Regex α} {u v : List α} {us vs : List (List α)} (ha : Matches a u us)
      (hb : Matches b v vs) : Matches (.seq a b) (u ++ v) (us ++ vs)
  | many {lazily : Bool} {p : α → Bool} {u : List α} (h : ∀ c ∈ u, p c = true) :
      Matches (.many lazily p) u []
  | group {a : Regex α} {u : List α} {us : List (List α)} (h : Matches a u us) :
      Matches (.group a) u (u :: us)

/-- A match at the start of a text: what it read, its captures, and what follows. -/
structure Run (α : Type*) where
  read : List α
  captures : List (List α)
  rest : List α
deriving DecidableEq

def manyRuns (lazily : Bool) (p : α → Bool) : List α → List (Run α)
  | [] => [⟨[], [], []⟩]
  | c :: s =>
      if p c then
        let further := (manyRuns lazily p s).map fun r => ⟨c :: r.read, [], r.rest⟩
        if lazily then ⟨[], [], c :: s⟩ :: further else further ++ [⟨[], [], c :: s⟩]
      else [⟨[], [], c :: s⟩]

def oneRuns (p : α → Bool) : List α → List (Run α)
  | [] => []
  | c :: s => if p c then [⟨[c], [], s⟩] else []

def runs : Regex α → List α → List (Run α)
  | .empty, s => [⟨[], [], s⟩]
  | .one p, s => oneRuns p s
  | .seq a b, s => (a.runs s).flatMap fun r =>
      (b.runs r.rest).map fun r' => ⟨r.read ++ r'.read, r.captures ++ r'.captures, r'.rest⟩
  | .many lazily p, s => manyRuns lazily p s
  | .group a, s => (a.runs s).map fun r => ⟨r.read, r.read :: r.captures, r.rest⟩

/-- The leftmost match. -/
def find (a : Regex α) : List α → Option (Run α)
  | [] => (a.runs []).head?
  | c :: s =>
      match a.runs (c :: s) with
      | [] => find a s
      | r :: _ => some r

/-- The letters one after the other, each up to `same`. -/
def literal (same : α → α → Bool) : List α → Regex α
  | [] => .empty
  | c :: w => .seq (.one (same c)) (literal same w)

/-! ## What the expressions match -/

theorem matches_empty_iff {u : List α} {us : List (List α)} :
    (Regex.empty : Regex α).Matches u us ↔ u = [] ∧ us = [] := by
  constructor
  · intro h
    cases h
    exact ⟨rfl, rfl⟩
  · intro ⟨hu, hus⟩
    rw [hu, hus]
    exact .empty

theorem matches_one_iff {p : α → Bool} {u : List α} {us : List (List α)} :
    (Regex.one p).Matches u us ↔ ∃ c, p c = true ∧ u = [c] ∧ us = [] := by
  constructor
  · intro h
    cases h with
    | one hc => exact ⟨_, hc, rfl, rfl⟩
  · intro ⟨c, hc, hu, hus⟩
    rw [hu, hus]
    exact .one hc

theorem matches_seq_iff {a b : Regex α} {u : List α} {us : List (List α)} :
    (Regex.seq a b).Matches u us ↔ ∃ v w vs ws, a.Matches v vs ∧ b.Matches w ws ∧
      u = v ++ w ∧ us = vs ++ ws := by
  constructor
  · intro h
    cases h with
    | seq ha hb => exact ⟨_, _, _, _, ha, hb, rfl, rfl⟩
  · intro ⟨v, w, vs, ws, ha, hb, hu, hus⟩
    rw [hu, hus]
    exact .seq ha hb

theorem matches_many_iff {lazily : Bool} {p : α → Bool} {u : List α} {us : List (List α)} :
    (Regex.many lazily p).Matches u us ↔ (∀ c ∈ u, p c = true) ∧ us = [] := by
  constructor
  · intro h
    cases h with
    | many hall => exact ⟨hall, rfl⟩
  · intro ⟨hall, hus⟩
    rw [hus]
    exact .many hall

theorem matches_group_iff {a : Regex α} {u : List α} {us : List (List α)} :
    (Regex.group a).Matches u us ↔ ∃ vs, a.Matches u vs ∧ us = u :: vs := by
  constructor
  · intro h
    cases h with
    | group ha => exact ⟨_, ha, rfl⟩
  · intro ⟨vs, ha, hus⟩
    rw [hus]
    exact .group ha

/-- A literal matches the texts of its length that agree with it letter by letter. -/
theorem matches_literal_iff {same : α → α → Bool} {w u : List α} {us : List (List α)} :
    (literal same w).Matches u us ↔ List.Forall₂ (fun c d => same c d = true) w u ∧ us = [] := by
  induction w generalizing u us with
  | nil => simp [literal, matches_empty_iff]
  | cons c w ih =>
      simp only [literal, matches_seq_iff, matches_one_iff, ih]
      constructor
      · intro ⟨v, w', vs, ws, ⟨d, hd, hv, hvs⟩, ⟨hw, hws⟩, hu, hus⟩
        subst hv hvs hws hu hus
        exact ⟨.cons hd hw, rfl⟩
      · intro ⟨h, hus⟩
        cases h with
        | cons hd hw => exact ⟨_, _, [], [], ⟨_, hd, rfl, rfl⟩, ⟨hw, rfl⟩, rfl, hus⟩

/-! ## What the engine finds -/

theorem mem_oneRuns {p : α → Bool} {s : List α} {r : Run α} :
    r ∈ oneRuns p s ↔ s = r.read ++ r.rest ∧ (Regex.one p).Matches r.read r.captures := by
  obtain ⟨read, captures, rest⟩ := r
  rw [matches_one_iff]
  cases s with
  | nil =>
      constructor
      · intro h
        cases h
      · intro ⟨hs, c, hc, hread, _⟩
        rw [hread] at hs
        cases hs
  | cons c s =>
      by_cases hc : p c = true
      · simp only [oneRuns, hc, if_true, List.mem_singleton, Run.mk.injEq]
        constructor
        · intro ⟨hread, hcaptures, hrest⟩
          rw [hread, hrest]
          exact ⟨rfl, c, hc, rfl, hcaptures⟩
        · intro ⟨hs, d, hd, hread, hcaptures⟩
          rw [hread] at hs
          cases hs
          exact ⟨hread, hcaptures, rfl⟩
      · simp only [oneRuns, hc, Bool.false_eq_true, if_false]
        constructor
        · intro h
          cases h
        · intro ⟨hs, d, hd, hread, _⟩
          rw [hread] at hs
          cases hs
          exact absurd hd hc

/-- A repetition stops at once or reads one more letter of its class, in either order. -/
theorem mem_manyRuns_cons {lazily : Bool} {p : α → Bool} {c : α} {s : List α} {r : Run α} :
    r ∈ manyRuns lazily p (c :: s) ↔ r = ⟨[], [], c :: s⟩ ∨
      p c = true ∧ ∃ r' ∈ manyRuns lazily p s, ⟨c :: r'.read, [], r'.rest⟩ = r := by
  cases lazily <;> by_cases hc : p c = true <;> simp [manyRuns, hc, or_comm]

theorem mem_manyRuns {lazily : Bool} {p : α → Bool} {s : List α} {r : Run α} :
    r ∈ manyRuns lazily p s ↔
      s = r.read ++ r.rest ∧ (Regex.many lazily p).Matches r.read r.captures := by
  rw [matches_many_iff]
  induction s generalizing r with
  | nil =>
      obtain ⟨read, captures, rest⟩ := r
      simp only [manyRuns, List.mem_singleton, Run.mk.injEq]
      constructor
      · intro ⟨hread, hcaptures, hrest⟩
        rw [hread, hrest]
        exact ⟨rfl, by simp, hcaptures⟩
      · intro ⟨hs, _, hcaptures⟩
        obtain ⟨hread, hrest⟩ := List.append_eq_nil_iff.mp hs.symm
        exact ⟨hread, hcaptures, hrest⟩
  | cons c s ih =>
      rw [mem_manyRuns_cons]
      constructor
      · intro h
        rcases h with rfl | ⟨hc, r', hr', rfl⟩
        · exact ⟨rfl, by simp, rfl⟩
        · obtain ⟨hs, hall, _⟩ := ih.mp hr'
          exact ⟨congrArg (c :: ·) hs, List.forall_mem_cons.mpr ⟨hc, hall⟩, rfl⟩
      · obtain ⟨read, captures, rest⟩ := r
        intro ⟨hs, hall, hcaptures⟩
        dsimp only at hs hall hcaptures
        subst hcaptures
        cases read with
        | nil => exact .inl (by rw [hs, List.nil_append])
        | cons d read =>
            rw [List.cons_append] at hs
            obtain ⟨rfl, htail⟩ := List.cons.inj hs
            obtain ⟨hc, hall⟩ := List.forall_mem_cons.mp hall
            exact .inr ⟨hc, ⟨read, [], rest⟩, ih.mpr ⟨htail, hall, rfl⟩, rfl⟩

/-- The runs are the matches of a beginning of the text. -/
theorem mem_runs {a : Regex α} {s : List α} {r : Run α} :
    r ∈ a.runs s ↔ s = r.read ++ r.rest ∧ a.Matches r.read r.captures := by
  induction a generalizing s r with
  | empty =>
      obtain ⟨read, captures, rest⟩ := r
      simp only [runs, List.mem_singleton, Run.mk.injEq, matches_empty_iff]
      constructor
      · intro ⟨hread, hcaptures, hrest⟩
        rw [hread, hrest]
        exact ⟨rfl, rfl, hcaptures⟩
      · intro ⟨hs, hread, hcaptures⟩
        rw [hread] at hs
        exact ⟨hread, hcaptures, hs.symm⟩
  | one p => exact mem_oneRuns
  | seq a b iha ihb =>
      simp only [runs, List.mem_flatMap, List.mem_map]
      constructor
      · intro ⟨r₁, h₁, r₂, h₂, hr⟩
        obtain ⟨hs₁, hmatch₁⟩ := iha.mp h₁
        obtain ⟨hs₂, hmatch₂⟩ := ihb.mp h₂
        subst hr
        rw [hs₁, hs₂]
        exact ⟨(List.append_assoc ..).symm, .seq hmatch₁ hmatch₂⟩
      · obtain ⟨read, captures, rest⟩ := r
        intro ⟨hs, h⟩
        obtain ⟨v, w, vs, ws, ha, hb, hread, hcaptures⟩ := matches_seq_iff.mp h
        dsimp only at hs hread hcaptures
        subst hread hcaptures
        rw [List.append_assoc] at hs
        exact ⟨⟨v, vs, w ++ rest⟩, iha.mpr ⟨hs, ha⟩, ⟨w, ws, rest⟩, ihb.mpr ⟨rfl, hb⟩, rfl⟩
  | many lazily p => exact mem_manyRuns
  | group a ih =>
      simp only [runs, List.mem_map]
      constructor
      · intro ⟨r', hr', hr⟩
        obtain ⟨hs, hmatch⟩ := ih.mp hr'
        subst hr
        exact ⟨hs, .group hmatch⟩
      · obtain ⟨read, captures, rest⟩ := r
        intro ⟨hs, h⟩
        obtain ⟨vs, ha, hcaptures⟩ := matches_group_iff.mp h
        dsimp only at hs hcaptures
        subst hcaptures
        exact ⟨⟨read, vs, rest⟩, ih.mpr ⟨hs, ha⟩, rfl⟩

/-- What is found is a match somewhere in the text. -/
theorem of_find_eq_some {a : Regex α} {s : List α} {r : Run α} (h : a.find s = some r) :
    ∃ pre, s = pre ++ (r.read ++ r.rest) ∧ a.Matches r.read r.captures := by
  induction s with
  | nil =>
      obtain ⟨hs, hmatch⟩ := mem_runs.mp (List.mem_of_mem_head? h)
      exact ⟨[], hs, hmatch⟩
  | cons c s ih =>
      unfold find at h
      split at h
      · obtain ⟨pre, hs, hmatch⟩ := ih h
        exact ⟨c :: pre, congrArg (c :: ·) hs, hmatch⟩
      · next r' rs hruns =>
        cases h
        obtain ⟨hs, hmatch⟩ := mem_runs.mp (hruns ▸ List.mem_cons_self)
        exact ⟨[], hs, hmatch⟩

/-- Nothing is found in a text no part of which matches. -/
theorem find_eq_none {a : Regex α} {s : List α}
    (h : ∀ pre u rest us, s = pre ++ (u ++ rest) → ¬ a.Matches u us) : a.find s = none := by
  cases hfind : a.find s with
  | none => rfl
  | some r =>
      obtain ⟨pre, hs, hmatch⟩ := of_find_eq_some hfind
      exact absurd hmatch (h pre r.read r.rest r.captures hs)

/-! ## The first match -/

/-- Where no match begins in `w`, the search goes on behind it. -/
theorem find_append {a : Regex α} {w s : List α}
    (h : ∀ pre u rest us, w ++ s = pre ++ (u ++ rest) → a.Matches u us →
      w.length ≤ pre.length) : a.find (w ++ s) = a.find s := by
  induction w with
  | nil => rfl
  | cons c w ih =>
      have hruns : a.runs (c :: (w ++ s)) = [] := by
        apply List.eq_nil_iff_forall_not_mem.mpr
        intro r hr
        obtain ⟨hs, hmatch⟩ := mem_runs.mp hr
        have hle := h [] r.read r.rest r.captures hs hmatch
        simp at hle
      have hskip : a.find (c :: (w ++ s)) = a.find (w ++ s) := by
        rw [find, hruns]
      rw [List.cons_append, hskip]
      apply ih
      intro pre u rest us hs hmatch
      have hle := h (c :: pre) u rest us (congrArg (c :: ·) hs) hmatch
      exact Nat.le_of_succ_le_succ hle

theorem find_of_head? {a : Regex α} {s : List α} {r : Run α} (h : (a.runs s).head? = some r) :
    a.find s = some r := by
  cases s with
  | nil => exact h
  | cons c s =>
      unfold find
      cases hruns : a.runs (c :: s) with
      | nil =>
          rw [hruns] at h
          cases h
      | cons r' rs =>
          rw [hruns] at h
          exact h

theorem head?_runs_seq {a b : Regex α} {s : List α} {r r' : Run α}
    (ha : (a.runs s).head? = some r) (hb : (b.runs r.rest).head? = some r') :
    ((seq a b).runs s).head? =
      some ⟨r.read ++ r'.read, r.captures ++ r'.captures, r'.rest⟩ := by
  obtain ⟨rs, hrs⟩ := List.head?_eq_some_iff.mp ha
  obtain ⟨rs', hrs'⟩ := List.head?_eq_some_iff.mp hb
  unfold runs
  rw [hrs, List.flatMap_cons, hrs']
  rfl

theorem head?_runs_one {p : α → Bool} {c : α} {s : List α} (hc : p c = true) :
    ((Regex.one p).runs (c :: s)).head? = some ⟨[c], [], s⟩ := by
  change (if p c = true then [(⟨[c], [], s⟩ : Run α)] else []).head? = _
  rw [if_pos hc]
  rfl

/-- A literal reads itself. -/
theorem head?_runs_literal {same : α → α → Bool} {w s : List α} (hsame : ∀ c, same c c = true) :
    ((literal same w).runs (w ++ s)).head? = some ⟨w, [], s⟩ := by
  induction w with
  | nil => rfl
  | cons c w ih =>
      have hone := head?_runs_one (p := same c) (s := w ++ s) (hsame c)
      exact head?_runs_seq hone ih

/-- A greedy repetition reads all it can. -/
theorem head?_manyRuns {p : α → Bool} {u s : List α} (hu : ∀ c ∈ u, p c = true)
    (hs : ∀ c ∈ s.head?, p c = false) : (manyRuns false p (u ++ s)).head? = some ⟨u, [], s⟩ := by
  induction u with
  | nil =>
      cases s with
      | nil => rfl
      | cons c s =>
          rw [List.nil_append, manyRuns, hs c rfl]
          rfl
  | cons c u ih =>
      obtain ⟨hc, hu⟩ := List.forall_mem_cons.mp hu
      obtain ⟨rs, hrs⟩ := List.head?_eq_some_iff.mp (ih hu)
      rw [List.cons_append, manyRuns, hc, hrs]
      rfl

/-! ## Where a word can occur -/

/-- A word without the letter `c` occurs on one side of it. -/
theorem occurs_beside {a b pre m rest : List α} {c : α} (h : a ++ c :: b = pre ++ (m ++ rest))
    (hc : c ∉ m) :
    (∃ rest', a = pre ++ (m ++ rest') ∧ rest = rest' ++ c :: b) ∨
      ∃ pre', b = pre' ++ (m ++ rest) := by
  rcases List.append_eq_append_iff.mp h with ⟨as, rfl, hb⟩ | ⟨cs, rfl, hrest⟩
  · cases as with
    | nil =>
        cases m with
        | nil => exact .inl ⟨[], by simp, hb.symm⟩
        | cons d m =>
            obtain ⟨rfl, _⟩ := List.cons.inj hb
            exact absurd List.mem_cons_self hc
    | cons d as => exact .inr ⟨as, (List.cons.inj hb).2⟩
  · rcases List.append_eq_append_iff.mp hrest with ⟨as, rfl, hafter⟩ | ⟨ds, rfl, hb⟩
    · exact .inl ⟨as, rfl, hafter⟩
    · cases ds with
      | nil => exact .inl ⟨[], by simp, hb.symm⟩
      | cons d ds =>
          obtain ⟨rfl, _⟩ := List.cons.inj hb
          exact absurd (List.mem_append_right cs List.mem_cons_self) hc

/-- A word does not begin in a stretch without its first letter. -/
theorem occurs_after {w b pre m rest : List α} {c : α}
    (h : w ++ b = pre ++ (c :: m ++ rest)) (hc : c ∉ w) :
    ∃ pre', b = pre' ++ (c :: m ++ rest) := by
  rcases List.append_eq_append_iff.mp h with ⟨as, _, hb⟩ | ⟨cs, rfl, hrest⟩
  · exact ⟨as, hb⟩
  · cases cs with
    | nil => exact ⟨[], hrest.symm⟩
    | cons d cs =>
        obtain ⟨rfl, _⟩ := List.cons.inj hrest
        exact absurd (List.mem_append_right pre List.mem_cons_self) hc

end Regex
