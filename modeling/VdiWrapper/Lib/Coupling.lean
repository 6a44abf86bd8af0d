import VdiWrapper.Lib.Loop

/-!
# Coupled programs

A relational logic for two programs of the state monad, over two state types of their own.
`Related P Q x y` is a judgement with a precondition on both states before and a postcondition on
both results and states after.  `Coupled R Q x y` is the common case in which one relation `R`
holds before and after and `Q` relates the results.  The rules follow the programs line by line; a
line that only `x` has is passed by `Coupled.skip` if it is `Silent`, and the loops of `Lib.Loop`
are coupled when their bodies are, and cut short when a turn of the second body may stop the loop
(`whileFuel_cut`).

Two-run statements (one run is the other without some of its work, or one does not depend on part
of its input) are instances: choose `R`, couple the primitives, and follow the text.
-/

namespace Runs

variable {S T : Type} {α β γ δ : Type}

/-- From states with `P`, `x` and `y` end with results and states with `Q`. -/
def Related (P : S → T → Prop) (Q : α → β → S → T → Prop) (x : StateM S α) (y : StateM T β) :
    Prop :=
  ∀ s t, P s t → Q (x.run s).1 (y.run t).1 (x.run s).2 (y.run t).2

namespace Related

variable {P : S → T → Prop} {Q : α → β → S → T → Prop} {x : StateM S α} {y : StateM T β}

theorem bind {Q' : γ → δ → S → T → Prop} {f : α → StateM S γ} {g : β → StateM T δ}
    (hx : Related P Q x y) (hf : ∀ a b, Related (Q a b) Q' (f a) (g b)) :
    Related P Q' (x >>= f) (y >>= g) :=
  fun s t hP => hf _ _ _ _ (hx s t hP)

/-- A fact about the results so far is a hypothesis of what follows. -/
theorem assume {p : Prop} (h : p → Related P Q x y) : Related (fun s t => p ∧ P s t) Q x y :=
  fun s t hP => h hP.1 s t hP.2

end Related

/-- A turn of the second loop goes along with the first, or stops with `F` where the first goes
on. -/
def CutShort (R F : S → T → Prop) (flow flow' : Flow) (s : S) (t : T) : Prop :=
  (flow = flow' ∧ R s t) ∨ (flow = .next ∧ flow' = .stop ∧ F s t)

section Cut

variable {ι : Type} {as : List ι} {body : ι → StateM S Flow} {body' : ι → StateM T Flow}
  {R F : S → T → Prop} {start s : S} {start' : T} {flow : Flow}

/-- The second loop takes the turns of the first, or its last one is the `j`-th, after which the
first went on. -/
theorem RoundRobin.cut {k : Nat} (hbody : ∀ a, Related R (CutShort R F) (body a) (body' a))
    (hstart : R start start') (h : RoundRobin as body start k flow s) :
    (∃ t, RoundRobin as body' start' k flow t ∧ R s t) ∨
      ∃ j u t, j ≤ k ∧ RoundRobin as body start j .next u ∧
        RoundRobin as body' start' j .stop t ∧ F u t := by
  induction h with
  | start => exact .inl ⟨start', .start, hstart⟩
  | @turn k s t flow a before served step ih =>
      rcases ih with ⟨s', before', hR⟩ | ⟨j, u, t', hle, hu, ht', hF⟩
      · obtain ⟨flow', t', step'⟩ : ∃ flow' t', body' a s' = (flow', t') := ⟨_, _, rfl⟩
        have hturn : CutShort R F flow flow' t t' := by
          have hrelated := hbody a s s' hR
          unfold StateT.run at hrelated
          rw [step, step'] at hrelated
          exact hrelated
        have hserved := before'.turn served step'
        rcases hturn with ⟨hflow, hR'⟩ | ⟨hnext, hstop, hF⟩
        · rw [← hflow] at hserved
          exact .inl ⟨t', hserved, hR'⟩
        · rw [hnext] at step
          rw [hstop] at hserved
          exact .inr ⟨k + 1, t, t', Nat.le_refl _, before.turn served step, hserved, hF⟩
      · exact .inr ⟨j, u, t', hle.trans (Nat.le_succ _), hu, ht', hF⟩

/-- **A loop cut short.**  Watched for the same number of rounds, the second loop ends like the
first, or it was stopped after one of the first's turns. -/
theorem whileFuel_cut {fuel : Nat} (hbody : ∀ a, Related R (CutShort R F) (body a) (body' a))
    (hstart : R start start') (h : whileFuel (forEach body as) fuel start = (flow, s)) :
    (∃ t, whileFuel (forEach body' as) fuel start' = (flow, t) ∧ R s t) ∨
      ∃ j k u t, j ≤ k ∧ k ≤ fuel * as.length ∧ RoundRobin as body start j .next u ∧
        RoundRobin as body start k flow s ∧
        whileFuel (forEach body' as) fuel start' = (.stop, t) ∧ F u t := by
  obtain ⟨k, hturns, hle, hnext⟩ := whileFuel_turns h
  rcases hturns.cut hbody hstart with ⟨t, ht, hR⟩ | ⟨j, u, t, hj, hu, ht, hF⟩
  · exact .inl ⟨t, ht.whileFuel_eq hle hnext, hR⟩
  · have hwhile := ht.whileFuel_eq (hj.trans hle) fun h => by cases h
    exact .inr ⟨j, k, u, t, hj, hle, hu, hturns, hwhile, hF⟩

end Cut

/-- From related states, `x` and `y` return related results in related states. -/
def Coupled (R : S → T → Prop) (Q : α → β → Prop) (x : StateM S α) (y : StateM T β) : Prop :=
  ∀ s t, R s t → Q (x.run s).1 (y.run t).1 ∧ R (x.run s).2 (y.run t).2

/-- `x` keeps its state related to whatever the other program is in. -/
def Silent (R : S → T → Prop) (x : StateM S α) : Prop := ∀ s t, R s t → R (x.run s).2 t

namespace Silent

variable {R : S → T → Prop} {x : StateM S α}

theorem pure (a : α) : Silent R (Pure.pure a : StateM S α) := fun _ _ hR => hR

theorem bind {f : α → StateM S γ} (hx : Silent R x) (hf : ∀ a, Silent R (f a)) :
    Silent R (x >>= f) :=
  fun s t hR => hf _ _ t (hx s t hR)

theorem ite {c : Prop} [Decidable c] {x' : StateM S α} (hx : Silent R x) (hx' : Silent R x') :
    Silent R (if c then x else x') := by
  split
  · exact hx
  · exact hx'

end Silent

namespace Coupled

variable {R : S → T → Prop} {Q : α → β → Prop} {P : γ → δ → Prop} {x : StateM S α}
  {y : StateM T β}

theorem related_iff : Coupled R Q x y ↔ Related R (fun a b s t => Q a b ∧ R s t) x y := Iff.rfl

/-- Lines that keep the precondition of what follows. -/
theorem bindRelated {Q' : γ → δ → S → T → Prop} {f : α → StateM S γ} {g : β → StateM T δ}
    (hx : Coupled R Q x y) (hf : ∀ a b, Q a b → Related R Q' (f a) (g b)) :
    Related R Q' (x >>= f) (y >>= g) := by
  intro s t hR
  obtain ⟨hQ, hR'⟩ := hx s t hR
  exact hf _ _ hQ _ _ hR'

theorem pure {a : α} {b : β} (h : Q a b) : Coupled R Q (Pure.pure a) (Pure.pure b) :=
  fun _ _ hR => ⟨h, hR⟩

theorem bind {f : α → StateM S γ} {g : β → StateM T δ} (hx : Coupled R Q x y)
    (hf : ∀ a b, Q a b → Coupled R P (f a) (g b)) : Coupled R P (x >>= f) (y >>= g) := by
  intro s t hR
  obtain ⟨hQ, hR'⟩ := hx s t hR
  exact hf _ _ hQ _ _ hR'

/-- Lines with equal results. -/
theorem bindEq {x : StateM S α} {y : StateM T α} {f : α → StateM S γ} {g : α → StateM T δ}
    (hx : Coupled R Eq x y) (hf : ∀ a, Coupled R P (f a) (g a)) :
    Coupled R P (x >>= f) (y >>= g) :=
  hx.bind fun a _ h => h ▸ hf a

/-- Lines whose results do not matter. -/
theorem andThen {x' : StateM S γ} {y' : StateM T δ} (hx : Coupled R Q x y)
    (hx' : Coupled R P x' y') : Coupled R P (x >>= fun _ => x') (y >>= fun _ => y') :=
  hx.bind fun _ _ _ => hx'

/-- A line that only the first program has. -/
theorem skip {f : α → StateM S γ} {z : StateM T δ} (hx : Silent R x)
    (hf : ∀ a, Coupled R P (f a) z) : Coupled R P (x >>= f) z :=
  fun s t hR => hf _ _ t (hx s t hR)

/-- A line that only the first program has, with what is known of its result. -/
theorem skipWith {p : α → Prop} {f : α → StateM S γ} {z : StateM T δ}
    (hx : ∀ s t, R s t → p (x.run s).1 ∧ R (x.run s).2 t)
    (hf : ∀ a, p a → Coupled R P (f a) z) : Coupled R P (x >>= f) z := by
  intro s t hR
  obtain ⟨hp, hR'⟩ := hx s t hR
  exact hf _ hp _ t hR'

theorem ite {c d : Prop} [Decidable c] [Decidable d] {x' : StateM S α} {y' : StateM T β}
    (hcd : c ↔ d) (hx : c → Coupled R Q x y) (hx' : ¬ c → Coupled R Q x' y') :
    Coupled R Q (if c then x else x') (if d then y else y') := by
  by_cases hc : c
  · rw [if_pos hc, if_pos (hcd.mp hc)]
    exact hx hc
  · rw [if_neg hc, if_neg fun hd => hc (hcd.mpr hd)]
    exact hx' hc

section ForEach

variable {ι : Type} {body : ι → StateM S Flow} {body' : ι → StateM T Flow}

theorem forEach_cons {a a' : ι} {as as' : List ι} (ha : Coupled R Eq (body a) (body' a'))
    (has : Coupled R Eq (Runs.forEach body as : StateM S Flow) (Runs.forEach body' as')) :
    Coupled R Eq (Runs.forEach body (a :: as) : StateM S Flow)
      (Runs.forEach body' (a' :: as')) := by
  intro s t hR
  obtain ⟨hflow, hR'⟩ := ha s t hR
  match hs : (body a).run s, ht : (body' a').run t with
  | (.next, s'), (flow, t') =>
      rw [hs, ht] at hflow hR'
      cases hflow
      have hrest := has s' t' hR'
      unfold StateT.run at hs ht hrest ⊢
      rw [forEach_cons_next hs, forEach_cons_next ht]
      exact hrest
  | (.stop, s'), (flow, t') =>
      rw [hs, ht] at hflow hR'
      cases hflow
      unfold StateT.run at hs ht ⊢
      rw [forEach_cons_stop hs, forEach_cons_stop ht]
      exact ⟨rfl, hR'⟩

/-- `for` over one list with coupled bodies. -/
theorem forEach {as : List ι} (h : ∀ a ∈ as, Coupled R Eq (body a) (body' a)) :
    Coupled R Eq (Runs.forEach body as : StateM S Flow) (Runs.forEach body' as) := by
  induction as with
  | nil => exact fun _ _ hR => ⟨rfl, hR⟩
  | cons a as ih =>
      exact forEach_cons (h a List.mem_cons_self) (ih fun a ha => h a (List.mem_cons_of_mem _ ha))

/-- `for` over a list and over those of its elements with `p`, where the others fall through and
keep the states related. -/
theorem forEach_filter {p : ι → Bool} (hkept : ∀ a, p a = true → Coupled R Eq (body a) (body' a))
    (hdropped : ∀ a, p a = false → ∀ s t, R s t →
      ((body a).run s).1 = .next ∧ R ((body a).run s).2 t) (as : List ι) :
    Coupled R Eq (Runs.forEach body as : StateM S Flow) (Runs.forEach body' (as.filter p)) := by
  induction as with
  | nil => exact fun _ _ hR => ⟨rfl, hR⟩
  | cons a as ih =>
      cases hp : p a with
      | true =>
          rw [List.filter_cons_of_pos hp]
          exact forEach_cons (hkept a hp) ih
      | false =>
          rw [List.filter_cons_of_neg (by simp [hp])]
          intro s t hR
          obtain ⟨hnext, hR'⟩ := hdropped a hp s t hR
          have hstep : body a s = (.next, ((body a).run s).2) := Prod.ext hnext rfl
          have hrest := ih _ t hR'
          unfold StateT.run at hrest hstep ⊢
          rw [forEach_cons_next hstep]
          exact hrest

end ForEach

/-- `while` with coupled bodies, watched for the same number of rounds. -/
theorem whileFuel {body : StateM S Flow} {body' : StateM T Flow} (h : Coupled R Eq body body')
    (fuel : Nat) :
    Coupled R Eq (Runs.whileFuel body fuel : StateM S Flow) (Runs.whileFuel body' fuel) := by
  intro s t hR
  induction fuel generalizing s t with
  | zero => exact ⟨rfl, hR⟩
  | succ n ih =>
      obtain ⟨hflow, hR'⟩ := h s t hR
      match hs : body.run s, ht : body'.run t with
      | (.next, s'), (flow, t') =>
          rw [hs, ht] at hflow hR'
          cases hflow
          have hrest := ih s' t' hR'
          unfold StateT.run at hs ht hrest ⊢
          rw [whileFuel_succ_next hs, whileFuel_succ_next ht]
          exact hrest
      | (.stop, s'), (flow, t') =>
          rw [hs, ht] at hflow hR'
          cases hflow
          unfold StateT.run at hs ht ⊢
          rw [whileFuel_succ_stop hs, whileFuel_succ_stop ht]
          exact ⟨rfl, hR'⟩

end Coupled

end Runs
