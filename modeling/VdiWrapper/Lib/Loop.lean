import Mathlib.Data.Int.CardIntervalMod
import Mathlib.Data.List.Basic

/-!
# Nested loops with `continue` and `break`

`forEach` is a `for` over a list and `whileFuel` a `while` with a bound on its rounds; both carry
a state and are left by `.stop`.  Running `forEach` inside `whileFuel` polls the elements of the
list in turn, and `RoundRobin` is the flat view of that nest: its `k`-th turn is taken by element
`k % n`.  `whileFuel_turns` is the one induction over the two loops; every property of a run is
afterwards an induction over the turns.
-/

namespace Runs

variable {α S : Type}

/-- How a loop body is left: `next` falls through or continues, `stop` breaks out of the nest. -/
inductive Flow
  | next
  | stop
deriving DecidableEq, Repr

/-- `for a in as: body a`, left early by `.stop`. -/
def forEach (body : α → S → Flow × S) : List α → S → Flow × S
  | [], s => (.next, s)
  | a :: as, s =>
      match body a s with
      | (.next, s') => forEach body as s'
      | (.stop, s') => (.stop, s')

/-- `while (true) body`, left by `.stop`; after `fuel` rounds the loop is still running. -/
def whileFuel (body : S → Flow × S) : Nat → S → Flow × S
  | 0, s => (.next, s)
  | fuel + 1, s =>
      match body s with
      | (.next, s') => whileFuel body fuel s'
      | (.stop, s') => (.stop, s')

theorem forEach_cons_next {body : α → S → Flow × S} {a : α} {as : List α} {s s' : S}
    (h : body a s = (.next, s')) : forEach body (a :: as) s = forEach body as s' := by
  simp [forEach, h]

theorem forEach_cons_stop {body : α → S → Flow × S} {a : α} {as : List α} {s s' : S}
    (h : body a s = (.stop, s')) : forEach body (a :: as) s = (.stop, s') := by
  simp [forEach, h]

theorem whileFuel_succ_next {body : S → Flow × S} {fuel : Nat} {s s' : S}
    (h : body s = (.next, s')) : whileFuel body (fuel + 1) s = whileFuel body fuel s' := by
  simp [whileFuel, h]

theorem whileFuel_succ_stop {body : S → Flow × S} {fuel : Nat} {s s' : S}
    (h : body s = (.stop, s')) : whileFuel body (fuel + 1) s = (.stop, s') := by
  simp [whileFuel, h]

/-- A `for` over one element is its body. -/
theorem forEach_singleton (body : α → S → Flow × S) (a : α) : forEach body [a] = body a := by
  funext s
  match h : body a s with
  | (.next, s') => rw [forEach_cons_next h, forEach]
  | (.stop, s') => rw [forEach_cons_stop h]

/-- A loop whose body uses something up ends. -/
theorem whileFuel_terminates {body : S → Flow × S} (left : S → Nat)
    (h : ∀ s s', body s = (.next, s') → left s' < left s) {fuel : Nat} {s : S}
    (hfuel : left s < fuel) : (whileFuel body fuel s).1 = .stop := by
  induction fuel generalizing s with
  | zero => omega
  | succ n ih =>
      match hb : body s with
      | (.next, s') =>
          rw [whileFuel_succ_next hb]
          have := h s s' hb
          exact ih (by omega)
      | (.stop, s') => rw [whileFuel_succ_stop hb]

/-- What each round preserves, the loop preserves. -/
theorem whileFuel_preserves {body : S → Flow × S} {I : S → Prop}
    (hbody : ∀ s, I s → I (body s).2) (fuel : Nat) {s : S} (hs : I s) :
    I (whileFuel body fuel s).2 := by
  induction fuel generalizing s with
  | zero => exact hs
  | succ n ih =>
      have hround := hbody s hs
      match hb : body s with
      | (.next, s') =>
          rw [whileFuel_succ_next hb]
          rw [hb] at hround
          exact ih hround
      | (.stop, s') =>
          rw [whileFuel_succ_stop hb]
          rwa [hb] at hround

/-- The turns of a polling loop: turn `k` runs the body for element `k % n`, and nothing follows
a turn that stopped. -/
inductive RoundRobin (as : List α) (body : α → S → Flow × S) (start : S) :
    Nat → Flow → S → Prop
  | start : RoundRobin as body start 0 .next start
  | turn {k : Nat} {s t : S} {flow : Flow} {a : α}
      (before : RoundRobin as body start k .next s)
      (served : as[k % as.length]? = some a)
      (step : body a s = (flow, t)) : RoundRobin as body start (k + 1) flow t

/-- One pass of the inner loop, begun at position `i` of round `r`, is a run of turns: of all that
are left of the round, unless it stopped. -/
theorem forEach_roundRobin {as : List α} {body : α → S → Flow × S} {start : S} {r : Nat} :
    ∀ {i : Nat} {s t : S} {flow : Flow}, i ≤ as.length →
      RoundRobin as body start (r * as.length + i) .next s →
      forEach body (as.drop i) s = (flow, t) →
      ∃ k, RoundRobin as body start k flow t ∧ k ≤ (r + 1) * as.length ∧
        (flow = .next → k = (r + 1) * as.length) := by
  intro i
  induction h : as.length - i generalizing i with
  | zero =>
      intro s t flow hi hrun hfor
      have hlen : i = as.length := by omega
      rw [hlen, List.drop_length] at hfor
      cases hfor
      rw [hlen, ← Nat.succ_mul] at hrun
      exact ⟨_, hrun, Nat.le_refl _, fun _ => rfl⟩
  | succ d ih =>
      intro s t flow hi hrun hfor
      have hlt : i < as.length := by omega
      have hserved : as[(r * as.length + i) % as.length]? = some as[i] := by
        rw [Nat.mul_add_mod_self_right, Nat.mod_eq_of_lt hlt]
        exact List.getElem?_eq_getElem hlt
      rw [List.drop_eq_getElem_cons hlt] at hfor
      match hb : body as[i] s with
      | (.next, s') =>
          rw [forEach_cons_next hb] at hfor
          exact ih (by omega) (by omega) (hrun.turn hserved hb) hfor
      | (.stop, s') =>
          rw [forEach_cons_stop hb] at hfor
          cases hfor
          refine ⟨_, hrun.turn hserved hb, ?_, fun h => by cases h⟩
          rw [Nat.succ_mul]
          omega

/-- **The nest is a round robin.**  A `forEach` inside a `whileFuel` takes turns over the list: as
many as the bound on the rounds allows, unless it stopped. -/
theorem whileFuel_turns {as : List α} {body : α → S → Flow × S} {start t : S} {flow : Flow}
    {fuel : Nat} (h : whileFuel (forEach body as) fuel start = (flow, t)) :
    ∃ k, RoundRobin as body start k flow t ∧ k ≤ fuel * as.length ∧
      (flow = .next → k = fuel * as.length) := by
  suffices hgen : ∀ {fuel r : Nat} {s : S}, RoundRobin as body start (r * as.length) .next s →
      whileFuel (forEach body as) fuel s = (flow, t) →
      ∃ k, RoundRobin as body start k flow t ∧ k ≤ (r + fuel) * as.length ∧
        (flow = .next → k = (r + fuel) * as.length) by
    have hstart : RoundRobin as body start (0 * as.length) .next start := by
      rw [Nat.zero_mul]
      exact .start
    simpa using hgen hstart h
  intro fuel
  induction fuel with
  | zero =>
      intro r s hrun hwhile
      cases hwhile
      exact ⟨_, hrun, Nat.le_refl _, fun _ => rfl⟩
  | succ n ih =>
      intro r s hrun hwhile
      match hb : forEach body as s with
      | (.next, s') =>
          rw [whileFuel_succ_next hb] at hwhile
          obtain ⟨k, hrun', -, hk⟩ :=
            forEach_roundRobin (i := 0) (Nat.zero_le _) hrun (by simpa using hb)
          rw [hk rfl] at hrun'
          rw [show r + (n + 1) = r + 1 + n by omega]
          exact ih hrun' hwhile
      | (.stop, s') =>
          rw [whileFuel_succ_stop hb] at hwhile
          cases hwhile
          obtain ⟨k, hrun', hle, -⟩ :=
            forEach_roundRobin (i := 0) (Nat.zero_le _) hrun (by simpa using hb)
          refine ⟨k, hrun', hle.trans (Nat.mul_le_mul_right _ (by omega)), fun h => by cases h⟩

theorem whileFuel_roundRobin {as : List α} {body : α → S → Flow × S} {start t : S} {flow : Flow}
    {fuel : Nat} (h : whileFuel (forEach body as) fuel start = (flow, t)) :
    ∃ k, RoundRobin as body start k flow t := by
  obtain ⟨k, hrun, -⟩ := whileFuel_turns h
  exact ⟨k, hrun⟩

namespace RoundRobin

variable {as : List α} {body : α → S → Flow × S} {start s t : S} {flow flow' : Flow} {j k : Nat}

/-- The turns are determined by their number. -/
theorem unique (h : RoundRobin as body start k flow s) (h' : RoundRobin as body start k flow' t) :
    flow = flow' ∧ s = t := by
  induction h generalizing flow' t with
  | start =>
      cases h'
      exact ⟨rfl, rfl⟩
  | turn before served step ih =>
      cases h' with
      | turn before' served' step' =>
          obtain ⟨-, rfl⟩ := ih before'
          rw [served] at served'
          cases served'
          rw [step] at step'
          cases step'
          exact ⟨rfl, rfl⟩

/-- The turns before the last one all went on. -/
theorem earlier (h : RoundRobin as body start k flow t) (hj : j < k) :
    ∃ s, RoundRobin as body start j .next s := by
  induction h with
  | start => omega
  | @turn i s _ _ _ before _ _ ih =>
      rcases Nat.lt_succ_iff_lt_or_eq.mp hj with hlt | heq
      · exact ih hlt
      · rw [heq]
        exact ⟨s, before⟩

/-- Nothing follows a turn that stopped. -/
theorem le_of_stop (h : RoundRobin as body start k flow t)
    (hstop : RoundRobin as body start j .stop s) : k ≤ j := by
  by_contra hlt
  obtain ⟨u, hu⟩ := h.earlier (Nat.lt_of_not_le hlt)
  cases (hu.unique hstop).1

/-- What holds after `j` turns and is kept by each turn holds after all later ones. -/
theorem onward {P : S → Prop} (hs : RoundRobin as body start j .next s)
    (ht : RoundRobin as body start k flow t) (hle : j ≤ k) (hP : P s)
    (hstep : ∀ a u, P u → P (body a u).2) : P t := by
  induction ht with
  | start =>
      cases Nat.le_zero.mp hle
      obtain ⟨-, rfl⟩ := hs.unique .start
      exact hP
  | @turn i u t flow a before served step ih =>
      rcases Nat.lt_or_eq_of_le hle with hlt | heq
      · have hnext := hstep a u (ih (Nat.le_of_lt_succ hlt))
        rw [step] at hnext
        exact hnext
      · subst heq
        obtain ⟨-, rfl⟩ := hs.unique (before.turn served step)
        exact hP

/-- A loop watched long enough ends where its turns end. -/
theorem whileFuel_eq {fuel : Nat} (h : RoundRobin as body start k flow t)
    (hle : k ≤ fuel * as.length) (hnext : flow = .next → k = fuel * as.length) :
    whileFuel (forEach body as) fuel start = (flow, t) := by
  obtain ⟨flow', t', hrun⟩ :
      ∃ flow' t', whileFuel (forEach body as) fuel start = (flow', t') := ⟨_, _, rfl⟩
  obtain ⟨k', hturns, hle', hnext'⟩ := whileFuel_turns hrun
  have hsame : k = k' := by
    cases flow with
    | stop =>
        cases flow' with
        | stop => exact Nat.le_antisymm (h.le_of_stop hturns) (hturns.le_of_stop h)
        | next =>
            have hshort := hturns.le_of_stop h
            have hall := hnext' rfl
            omega
    | next =>
        have hall := hnext rfl
        cases flow' with
        | stop =>
            have hshort := h.le_of_stop hturns
            omega
        | next =>
            have hall' := hnext' rfl
            omega
  subst hsame
  obtain ⟨rfl, rfl⟩ := h.unique hturns
  exact hrun

end RoundRobin

/-- How many of the first `k` turns of a polling loop over `n` elements go to element `j`. -/
def turns (n j k : Nat) : Nat := k.count (· % n = j)

theorem turns_succ (n j k : Nat) :
    turns n j (k + 1) = turns n j k + if k % n = j then 1 else 0 :=
  Nat.count_succ ..

/-- Every element gets one turn in each full round, and the first `k % n` get one more. -/
theorem turns_eq {n j : Nat} (hj : j < n) (k : Nat) :
    turns n j k = k / n + if j < k % n then 1 else 0 := by
  have hcount := Nat.count_modEq_card k (Nat.zero_lt_of_lt hj) j
  simpa only [turns, Nat.ModEq, Nat.mod_eq_of_lt hj] using hcount

end Runs
