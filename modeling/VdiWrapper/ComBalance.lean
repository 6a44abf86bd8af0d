import Mathlib.Data.List.Count
import VdiWrapper.Client
import VdiWrapper.Execution

/-!
# The balance of COM initialisations

Any number of `ComRuntime` objects are built and destroyed on one thread, in any order.  Each
construction that succeeds raises the thread's initialisation count; the destructor lowers it again
only for an object whose own call was the first one (`S_OK`).  `Step.owed` says what that amounts
to: the count, less the calls of `CoUninitialize` still to come, grows by one at each `S_FALSE` and
never falls.  So the count never drops below what the live objects need, and it returns to its
start exactly when no construction answered `S_FALSE`.
-/

namespace Vdi

open Runs

variable {ω σ : Type}

/-- What COM does to the initialisation count of the thread, all calls being for the same
apartment mode. -/
structure Com.Counts (com : Com ω) (count : ω → ℤ) : Prop where
  coInit : ∀ w,
    ((com.coInitializeEx w).1 = (if count w = 0 then sOk else sFalse) ∧
        count (com.coInitializeEx w).2 = count w + 1) ∨
      (failed (com.coInitializeEx w).1 = true ∧ count (com.coInitializeEx w).2 = count w)
  coUninit : ∀ w, count (com.coUninit w) = count w - 1

/-- A thread and the `ComRuntime` objects alive on it. -/
structure ComThread (ω σ : Type) where
  machine : Machine ω σ
  live : List ComRuntime

/-- The lifetime events of one object; a construction is labelled with what `CoInitializeEx`
answered. -/
inductive ComCall
  | construct (hr : HResult)
  | destroy
deriving DecidableEq

namespace ComThread

/-- One object is built, or any one of those alive is destroyed. -/
inductive Step (env : Env ω σ) : ComThread ω σ → ComCall → ComThread ω σ → Prop
  | construct (m m' : Machine ω σ) (com : ComRuntime) (live : List ComRuntime)
      (built : (ComRuntime.new env).run m = (com, m')) :
      Step env ⟨m, live⟩ (.construct (env.com.coInitializeEx m.outside.world).1)
        ⟨m', com :: live⟩
  | destroy (m m' : Machine ω σ) (com : ComRuntime) (before after : List ComRuntime)
      (destroyed : (com.destroy env).run m = ((), m')) :
      Step env ⟨m, before ++ com :: after⟩ .destroy ⟨m', before ++ after⟩

end ComThread

/-- The destructor will call `CoUninitialize`. -/
def ComRuntime.owes (com : ComRuntime) : Bool := com.initialized && !com.alreadyInit

/-- The object found COM initialised. -/
def ComRuntime.late (com : ComRuntime) : Bool := com.initialized && com.alreadyInit

section Runtime

variable {env : Env ω σ} {count : ω → ℤ} {m m' : Machine ω σ} {com : ComRuntime}

/-- The flags of a new object record what `CoInitializeEx` answered. -/
theorem new_run (h : (ComRuntime.new env).run m = (com, m')) :
    com = { initialized := succeeded (env.com.coInitializeEx m.outside.world).1,
            alreadyInit := succeeded (env.com.coInitializeEx m.outside.world).1 &&
              decide ((env.com.coInitializeEx m.outside.world).1 = sFalse) } ∧
      m'.outside.world = (env.com.coInitializeEx m.outside.world).2 := by
  unfold ComRuntime.new at h
  obtain ⟨hr, mid, hcall, hrest⟩ := bind_run h
  cases hcall
  by_cases hsucceeded : succeeded (env.com.coInitializeEx m.outside.world).1 = true
  · rw [if_pos hsucceeded] at hrest
    cases hrest
    simp [hsucceeded]
  · rw [if_neg hsucceeded] at hrest
    cases hrest
    simp [hsucceeded]

/-- A construction changes the count by what the new object is: owing, late or neither. -/
theorem new_count (hcounts : env.com.Counts count)
    (h : (ComRuntime.new env).run m = (com, m')) :
    count m'.outside.world = count m.outside.world + com.owes.toNat + com.late.toNat ∧
      com.late = decide ((env.com.coInitializeEx m.outside.world).1 = sFalse) := by
  obtain ⟨hcom, hworld⟩ := new_run h
  have hok : failed sOk = false ∧ sOk ≠ sFalse := by decide
  have hfalse : failed sFalse = false := by decide
  rw [hcom, hworld]
  rcases hcounts.coInit m.outside.world with hsuccess | hfailure
  · obtain ⟨hr, hcount⟩ := hsuccess
    rw [hr, hcount]
    by_cases hzero : count m.outside.world = 0
    · rw [if_pos hzero]
      simp [ComRuntime.owes, ComRuntime.late, succeeded, hok]
    · rw [if_neg hzero]
      simp [ComRuntime.owes, ComRuntime.late, succeeded, hfalse]
  · obtain ⟨hfailed, hcount⟩ := hfailure
    have hne : (env.com.coInitializeEx m.outside.world).1 ≠ sFalse := by
      intro heq
      rw [heq] at hfailed
      exact absurd hfailed (by decide)
    simp [ComRuntime.owes, ComRuntime.late, succeeded, hfailed, hcount, hne]

theorem destroy_count (hcounts : env.com.Counts count)
    (h : (com.destroy env).run m = ((), m')) :
    count m'.outside.world = count m.outside.world - com.owes.toNat := by
  unfold ComRuntime.destroy at h
  unfold ComRuntime.owes
  by_cases howes : (com.initialized && !com.alreadyInit) = true
  · rw [if_pos howes] at h
    cases h
    rw [howes]
    exact hcounts.coUninit m.outside.world
  · rw [if_neg howes] at h
    cases h
    simp [howes]

end Runtime

namespace ComThread

/-- The initialisation count of the thread. -/
def inits (count : ω → ℤ) (s : ComThread ω σ) : ℤ := count s.machine.outside.world

/-- The live objects that a `CoUninitialize` is still to come from. -/
def owing (s : ComThread ω σ) : Nat := s.live.countP ComRuntime.owes

/-- The live objects that found COM initialised. -/
def late (s : ComThread ω σ) : Nat := s.live.countP ComRuntime.late

/-- The live objects whose `initialized()` is true. -/
def initialized (s : ComThread ω σ) : Nat := s.live.countP ComRuntime.initialized

theorem initialized_eq (s : ComThread ω σ) : s.initialized = s.owing + s.late := by
  unfold initialized owing late
  induction s.live with
  | nil => rfl
  | cons com live ih =>
      rw [List.countP_cons, List.countP_cons, List.countP_cons, ih]
      obtain ⟨init, already⟩ := com
      cases init <;> cases already <;> grind [ComRuntime.owes, ComRuntime.late]

variable {env : Env ω σ} {count : ω → ℤ} {s t : ComThread ω σ} {call : ComCall}
  {calls : List ComCall}

/-- The count less the `CoUninitialize` calls to come changes only at an `S_FALSE`, by one. -/
theorem Step.owed (hcounts : env.com.Counts count) (h : Step env s call t) :
    t.inits count - t.owing = s.inits count - s.owing + [call].count (.construct sFalse) := by
  cases h with
  | construct m m' com live built =>
      obtain ⟨hcount, hlate⟩ := new_count hcounts built
      unfold inits owing
      rw [hcount, List.countP_cons, hlate]
      by_cases hfalse : (env.com.coInitializeEx m.outside.world).1 = sFalse
      · cases com.owes
        · simp [hfalse]
          omega
        · simp [hfalse]
          omega
      · cases com.owes <;> simp [hfalse]
  | destroy m m' com before after destroyed =>
      have hcount := destroy_count hcounts destroyed
      unfold inits owing
      rw [hcount, List.countP_append, List.countP_append, List.countP_cons]
      cases com.owes <;> simp
      omega

/-- A late object is built at an `S_FALSE`. -/
theorem Step.late_le (hcounts : env.com.Counts count) (h : Step env s call t) :
    t.late ≤ s.late + [call].count (.construct sFalse) := by
  cases h with
  | construct m m' com live built =>
      obtain ⟨-, hlate⟩ := new_count hcounts built
      unfold late
      rw [List.countP_cons, hlate]
      by_cases hfalse : (env.com.coInitializeEx m.outside.world).1 = sFalse
      · simp [hfalse]
      · simp [hfalse]
  | destroy m m' com before after destroyed =>
      unfold late
      rw [List.countP_append, List.countP_append, List.countP_cons]
      simp

theorem count_call (call : ComCall) (calls : List ComCall) :
    (call :: calls).count (.construct sFalse) =
      [call].count (.construct sFalse) + calls.count (.construct sFalse) := by
  rw [← List.count_append]
  rfl

/-- The same over a run: each `S_FALSE` leaves the count one higher for good. -/
theorem owed_path (hcounts : env.com.Counts count) (h : Path (Step env) s calls t) :
    t.inits count - t.owing = s.inits count - s.owing + calls.count (.construct sFalse) := by
  induction h with
  | nil => simp
  | @cons s u t call calls head tail ih =>
      have hstep := head.owed hcounts
      have hcount := count_call call calls
      omega

theorem late_path (hcounts : env.com.Counts count) (h : Path (Step env) s calls t) :
    t.late ≤ s.late + calls.count (.construct sFalse) := by
  induction h with
  | nil => simp
  | @cons s u t call calls head tail ih =>
      have hstep := head.late_le hcounts
      have hcount := count_call call calls
      omega

/-- The count never drops below its start plus the live initialised objects. -/
theorem initialized_le (hcounts : env.com.Counts count) (hstart : s.live = [])
    (h : Path (Step env) s calls t) : s.inits count + t.initialized ≤ t.inits count := by
  have howed := owed_path hcounts h
  have hlate := late_path hcounts h
  have hnone : s.owing = 0 ∧ s.late = 0 := by
    unfold owing late
    rw [hstart]
    exact ⟨rfl, rfl⟩
  rw [initialized_eq]
  omega

/-- The initialisations of a run are balanced: its count returns to the start, and on the way it
never drops below the start plus the live initialised objects. -/
structure Balanced (env : Env ω σ) (count : ω → ℤ) (s : ComThread ω σ) (calls : List ComCall)
    (t : ComThread ω σ) : Prop where
  returns : t.inits count = s.inits count
  covers : ∀ pre post u, calls = pre ++ post → Path (Step env) s pre u → Path (Step env) u post t →
    s.inits count + u.initialized ≤ u.inits count

end ComThread

/-- **When COM initialisation is balanced.**  A run in which every object is destroyed in the end
is balanced exactly when no construction found COM initialised on the thread. -/
theorem comRuntime_balanced_iff (env : Env ω σ) (count : ω → ℤ) (hcounts : env.com.Counts count)
    (s t : ComThread ω σ) (calls : List ComCall) (hstart : s.live = [])
    (hrun : Path (ComThread.Step env) s calls t) (hend : t.live = []) :
    ComThread.Balanced env count s calls t ↔ ComCall.construct sFalse ∉ calls := by
  have howed := ComThread.owed_path hcounts hrun
  have hnone : s.owing = 0 ∧ t.owing = 0 := by
    unfold ComThread.owing
    rw [hstart, hend]
    exact ⟨rfl, rfl⟩
  constructor
  · intro hbalanced
    have hreturns := hbalanced.returns
    apply List.count_eq_zero.mp
    omega
  · intro hnever
    have hzero : calls.count (.construct sFalse) = 0 := List.count_eq_zero.mpr hnever
    constructor
    · omega
    · intro pre post u _ hpre _
      exact ComThread.initialized_le hcounts hstart hpre

/-- A COM that does nothing but count. -/
def countingCom : Com ℤ where
  coInitializeEx := fun n => (if n = 0 then sOk else sFalse, n + 1)
  coUninit := fun n => n - 1
  coCreateInstance := fun n => ((sOk, 0), n)
  createEx := fun _ _ _ n => (sOk, n)
  getConfiguration := fun _ _ n => (sOk, n)
  openDevice := fun _ _ n => ((sOk, 0), n)
  setClose := fun _ n => n
  setRelease := fun _ n => n
  getCommand := fun _ _ n => ((vdETimeout, none), n)
  completeCommand := fun _ cmd _ _ _ n => ((sOk, cmd), n)
  deviceRelease := fun _ n => n

theorem countingCom_counts : countingCom.Counts id :=
  ⟨fun _ => .inl ⟨rfl, rfl⟩, fun _ => rfl⟩

def countingEnv : Env ℤ Unit where
  com := countingCom
  sink := nullSink
  clock := UInt64.ofNat

/-- A thread with the given count and trace, and nothing alive on it. -/
def countingThread (n : ℤ) (trace : List Event) : ComThread ℤ Unit where
  machine :=
    { client := Client.new false {}, outside := { world := n, sink := () }, trace := trace }
  live := []

/-- Two objects one after the other. -/
theorem comRuntime_balanced_iff_twice :
    ComThread.Balanced countingEnv id (countingThread 0 [])
      [.construct sOk, .destroy, .construct sOk, .destroy]
      (countingThread 0 [.coInitializeEx sOk, .coUninit, .coInitializeEx sOk, .coUninit]) :=
  (comRuntime_balanced_iff countingEnv id countingCom_counts _ _ _ rfl
    (.cons (.construct _ _ _ [] rfl) (.cons (.destroy _ _ _ [] [] rfl)
      (.cons (.construct _ _ _ [] rfl) (.cons (.destroy _ _ _ [] [] rfl) (.nil _))))) rfl).mpr
    (by decide)

/-- One object on a thread that has initialised COM itself: the count goes from one to two and
stays there. -/
theorem comRuntime_leaks :
    Path (ComThread.Step countingEnv) (countingThread 1 []) [.construct sFalse, .destroy]
      (countingThread 2 [.coInitializeEx sFalse]) ∧
      ¬ ComThread.Balanced countingEnv id (countingThread 1 []) [.construct sFalse, .destroy]
        (countingThread 2 [.coInitializeEx sFalse]) := by
  refine ⟨.cons (.construct _ _ _ [] rfl) (.cons (.destroy _ _ _ [] [] rfl) (.nil _)), ?_⟩
  intro hbalanced
  exact absurd hbalanced.returns (by decide)

end Vdi
