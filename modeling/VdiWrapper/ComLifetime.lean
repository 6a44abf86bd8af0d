import VdiWrapper.Lib.Holding
import VdiWrapper.Lifecycle
import VdiWrapper.Scripted

/-!
# The lifetime of COM

`CoInitializeEx` raises the COM initialisation count of the thread and `CoUninitialize` lowers it.
Both belong to a `ComRuntime` that is a local variable of `connect`, while the device set it
creates lives on in `device_set_`.  A `ComRuntime` that found COM already initialised leaves the
count raised; one that initialised COM itself takes its reference back when `connect` returns.
-/

namespace Vdi

open Runs

variable {ω σ : Type}

/-- A method call on the device set or on a virtual device. -/
@[simp] def Event.onInterface : Event → Bool
  | .createEx .. | .getConfiguration .. | .openDevice .. | .setClose _ | .setRelease _
  | .getCommand .. | .completeCommand .. | .deviceRelease _ => true
  | _ => false

/-- The COM initialisation count of the thread: a successful `CoInitializeEx` raises it,
`CoUninitialize` lowers it, and it is held while it is at least one. -/
def apartment : Holding Event Unit where
  acquires
    | .coInitializeEx hr => if failed hr then none else some ()
    | _ => none
  releases
    | .coUninit => some ()
    | _ => none
  uses := fun e => if e.onInterface then some () else none
  barrier := fun _ => False

theorem apartment_uses_eq_none {e : Event} (h : e.onInterface = false) :
    apartment.uses e = none :=
  if_neg (by rw [h]; exact Bool.false_ne_true)

def createdSet : Event → Option DeviceSet
  | .coCreateInstance hr ds => if failed hr then none else some ds
  | _ => none

def releasedSet : Event → Option DeviceSet
  | .setRelease ds => some ds
  | _ => none

/-- Every device set that was created was released. -/
def SetsReleased (es : List Event) : Prop := es.filterMap releasedSet = es.filterMap createdSet

/-- COM outlives the interfaces. -/
structure ComOutlives (es : List Event) : Prop where
  /-- Interface methods are called, and the count is lowered, only while it is at least one. -/
  careful : apartment.Careful es
  /-- `CoUninitialize` comes after the `Release` of the device set. -/
  coUninit : Always (fun pre e => e = .coUninit → SetsReleased pre) es

/-- COM was initialised by `connect` itself, with `S_OK` rather than `S_FALSE`, and the device set
was created. -/
def ConnectsFirst (es : List Event) : Prop :=
  (∃ hr, .coInitializeEx hr ∈ es ∧ failed hr = false ∧ hr ≠ sFalse) ∧
    ∃ ds name config hr, .createEx ds name config hr ∈ es ∧ failed hr = false

theorem ComOutlives.of_append {es es' : List Event} (h : ComOutlives (es ++ es')) :
    ComOutlives es :=
  ⟨(always_append.mp h.careful).1, (always_append.mp h.coUninit).1⟩

theorem ConnectsFirst.append {es : List Event} (h : ConnectsFirst es) (es' : List Event) :
    ConnectsFirst (es ++ es') := by
  obtain ⟨⟨hr, hmem, hhr⟩, ds, name, config, hr', hmem', hhr'⟩ := h
  exact ⟨⟨hr, List.mem_append_left es' hmem, hhr⟩, ds, name, config, hr',
    List.mem_append_left es' hmem', hhr'⟩

/-! ## All calls but `connect` -/

/-- An event that neither touches the COM count nor makes a device set. -/
@[simp] def Event.NotConnect : Event → Prop
  | .coInitializeEx _ | .coUninit | .coCreateInstance .. | .createEx .. => False
  | .getConfiguration .. | .openDevice .. | .setClose _ | .setRelease _ | .getCommand ..
  | .completeCommand .. | .deviceRelease _ | .sinkIsOpen _ | .sinkWrite .. | .sinkFlush
  | .nowUs _ | .transition .. | .log _ | .report .. => True

/-- An event that concerns neither COM nor an interface. -/
def Event.Comless (e : Event) : Prop := e.NotConnect ∧ e.onInterface = false

/-- What every call but `connect` does: it leaves the COM count alone, and without a device set it
calls no interface. -/
structure Afterwards (c : Client) (es : List Event) (c' : Client) : Prop where
  notConnect : ∀ e ∈ es, e.NotConnect
  idle : c.deviceSet = none → c'.deviceSet = none ∧ ∀ e ∈ es, e.onInterface = false
  state : c'.state = .init → c.state = .init

theorem closing_afterwards {c : Client} : Afterwards c (closing c) c.closed := by
  refine ⟨fun e he => ?_, fun hset => ⟨rfl, fun e he => ?_⟩, by simp [Client.closed]⟩
  · have hafter := closing_afterLoop e he
    cases e <;> first | exact hafter.elim | trivial
  · unfold closing closingFlush closingSet at he
    rw [hset] at he
    split at he <;> simp at he
    · rcases he with rfl | rfl <;> rfl
    · rw [he]
      rfl

theorem OpenRun.afterwards {c c' : Client} {es : List Event} (h : OpenRun c es c') :
    Afterwards c es c' := by
  cases h with
  | noDeviceSet hset => exact ⟨by simp [failure], fun _ => ⟨hset, by simp [failure]⟩, by simp⟩
  | failed ds hset => exact ⟨by simp [failure], by simp [hset], by simp⟩
  | opened ds hset => exact ⟨by simp, by simp [hset], by simp⟩

theorem Event.AroundLoop.notConnect {e : Event} (h : e.AroundLoop) : e.NotConnect := by
  cases e <;> first | exact h.elim | trivial

theorem Event.InLoop.notConnect {devices : List Device} {e : Event} (h : e.InLoop devices) :
    e.NotConnect := by
  cases e <;> first | exact h.elim | trivial

theorem CommandRun.notConnect {c c' : Client} {es : List Event} {returned : Bool}
    (h : CommandRun c es returned c') : ∀ e ∈ es, e.NotConnect := by
  rcases h.frame with haround |
    ⟨before, loop, after, start, devices, k, flow, c₁, rfl, hbefore, hafter, run⟩
  · exact fun e he => (haround e he).notConnect
  · intro e he
    simp only [List.mem_append] at he
    rcases he with (he | he) | he
    · exact (hbefore e he).notConnect
    · exact (run.inLoop e he).notConnect
    · exact (hafter e he).aroundLoop.notConnect

/-- Nothing leads back to `INIT`. -/
theorem StatePath.from_init {s s' : SessionState} {es : List Event} (h : StatePath s es s')
    (hinit : s' = .init) : s = .init := by
  induction h with
  | nil => exact hinit
  | @cons s t u e es head tail ih =>
      have ht := ih hinit
      cases e with
      | transition src dst =>
          obtain ⟨-, hdst, hedge⟩ := head
          rw [ht] at hdst
          rw [hdst] at hedge
          cases hedge
      | _ => exact head.symm.trans ht

theorem CommandRun.afterwards {c c' : Client} {es : List Event} {returned : Bool}
    (h : CommandRun c es returned c') (hlife : Lifecycle c) : Afterwards c es c' := by
  refine ⟨h.notConnect, fun hset => ?_, (h.lawful hlife).path.from_init⟩
  cases h with
  | wrongState => exact ⟨hset, by simp⟩
  | noDeviceSet => exact ⟨hset, by simp⟩
  | openFailed _ hset' | serving _ hset' | served _ hset' =>
      rw [hset] at hset'
      cases hset'

theorem DestroyRun.afterwards {c c' : Client} {es : List Event} (h : DestroyRun c es c') :
    Afterwards c es c' := by
  cases h with
  | nothing | closedAgain => exact ⟨by simp, by simp, id⟩
  | close =>
      have hclose := closing_afterwards (c := c)
      refine ⟨?_, fun hset => ⟨rfl, ?_⟩, hclose.state⟩
      · simpa using hclose.notConnect
      · simpa using (hclose.idle hset).2

/-! ## The invariant -/

/-- What the fields and the trace know of COM between public calls. -/
inductive ComLife (c : Client) (es : List Event) : Prop
  /-- There is no device set, and there will be none unless `connect` is still to come. -/
  | outside (hset : c.deviceSet = none) (safe : ComOutlives es) (hkept : ¬ ConnectsFirst es)
      (hinit : c.state = .init → ∀ e ∈ es, e.Comless)
  /-- The count was raised for good. -/
  | held (hstate : c.state ≠ .init) (hheld : apartment.Held () es) (safe : ComOutlives es)
      (hkept : ¬ ConnectsFirst es)
  /-- The count was lowered under a device set in use. -/
  | lost (hbroken : ¬ ComOutlives es) (hlost : ConnectsFirst es)

theorem Event.NotConnect.apartment {e : Event} (h : e.NotConnect) :
    apartment.acquires e = none ∧ apartment.releases e = none ∧ e ≠ .coUninit := by
  cases e <;> first | exact h.elim | exact ⟨rfl, rfl, by simp⟩

/-- `CoUninitialize` belongs to `connect`. -/
theorem ComOutlives.append {es es' : List Event} (h : ComOutlives es)
    (hes : ∀ e ∈ es', e.NotConnect) (hcareful : apartment.Careful (es ++ es')) :
    ComOutlives (es ++ es') := by
  refine ⟨hcareful, always_append.mpr ⟨h.coUninit, always_of_forall fun pre e he huninit => ?_⟩⟩
  exact absurd huninit (hes e he).apartment.2.2

/-- `ConnectsFirst` is decided by `connect`. -/
theorem ConnectsFirst.of_append {es es' : List Event} (h : ConnectsFirst (es ++ es'))
    (hes : ∀ e ∈ es', e.NotConnect) : ConnectsFirst es := by
  obtain ⟨⟨hr, hmem, hhr⟩, ds, name, config, hr', hmem', hhr'⟩ := h
  refine ⟨⟨hr, ?_, hhr⟩, ds, name, config, hr', ?_, hhr'⟩
  · rcases List.mem_append.mp hmem with hmem | hmem
    · exact hmem
    · exact (hes _ hmem).elim
  · rcases List.mem_append.mp hmem' with hmem' | hmem'
    · exact hmem'
    · exact (hes _ hmem').elim

theorem ComLife.afterwards {c c' : Client} {es es' : List Event} (h : ComLife c es)
    (after : Afterwards c es' c') : ComLife c' (es ++ es') := by
  cases h with
  | outside hset safe hkept hinit =>
      obtain ⟨hset', hidle⟩ := after.idle hset
      have hharmless : ∀ e ∈ es', apartment.Harmless e := fun e he =>
        ⟨(after.notConnect e he).apartment.2.1, apartment_uses_eq_none (hidle e he), id⟩
      refine .outside hset' (safe.append after.notConnect
        (Holding.Careful.append_harmless safe.careful hharmless))
        (fun h => hkept (h.of_append after.notConnect)) fun hinit' e he => ?_
      rcases List.mem_append.mp he with he | he
      · exact hinit (after.state hinit') e he
      · exact ⟨after.notConnect e he, hidle e he⟩
  | held hstate hheld safe hkept =>
      have hnone : ∀ e ∈ es', apartment.acquires e = none ∧ apartment.releases e = none ∧
          ¬ apartment.barrier e := fun e he =>
        ⟨(after.notConnect e he).apartment.1, (after.notConnect e he).apartment.2.1, id⟩
      have hcareful := Holding.Careful.append_uses safe.careful hnone fun e he x hx => hheld
      exact .held (fun hinit => hstate (after.state hinit))
        (hheld.append fun e he => ⟨(hnone e he).1, (hnone e he).2.1⟩)
        (safe.append after.notConnect hcareful) fun h => hkept (h.of_append after.notConnect)
  | lost hbroken hlost =>
      exact .lost (fun safe => hbroken safe.of_append) (hlost.append es')

/-! ## `connect` -/

theorem apartment_allows_iff {pre : List Event} {e : Event} :
    apartment.Allows pre e ↔ (e = .coUninit ∨ e.onInterface = true → apartment.Held () pre) := by
  constructor
  · rintro allows (rfl | huse)
    · exact allows.release () rfl
    · exact allows.use () (if_pos huse)
  · intro h
    refine ⟨fun _ hx => h (.inl ?_), fun _ hx => h (.inr ?_), False.elim⟩
    · cases e <;> first | rfl | cases hx
    · by_contra hno
      rw [apartment_uses_eq_none (by simpa using hno)] at hx
      cases hx

theorem held_append_iff {es es' : List Event} (hes : ∀ e ∈ es, e.Comless) :
    apartment.Held () (es ++ es') ↔ apartment.Held () es' := by
  have hfree : apartment.Free es := fun x => by
    rw [Holding.acquired, Holding.released,
      List.filterMap_eq_nil_iff.mpr fun e he => (hes e he).1.apartment.1,
      List.filterMap_eq_nil_iff.mpr fun e he => (hes e he).1.apartment.2.1]
  exact hfree.append_held_iff

theorem setsReleased_append_iff {es es' : List Event} (hes : ∀ e ∈ es, e.Comless) :
    SetsReleased (es ++ es') ↔ SetsReleased es' := by
  have hcreated : es.filterMap createdSet = [] := List.filterMap_eq_nil_iff.mpr fun e he => by
    have hnot := (hes e he).1
    cases e <;> first | exact hnot.elim | rfl
  have hreleased : es.filterMap releasedSet = [] := List.filterMap_eq_nil_iff.mpr fun e he => by
    have hnot := (hes e he).2
    cases e <;> first | rfl | cases hnot
  unfold SetsReleased
  rw [List.filterMap_append, List.filterMap_append, hcreated, hreleased, List.nil_append,
    List.nil_append]

theorem connectsFirst_append_iff {es es' : List Event} (hes : ∀ e ∈ es, e.Comless) :
    ConnectsFirst (es ++ es') ↔ ConnectsFirst es' := by
  have hright : ∀ e : Event, ¬ e.NotConnect → (e ∈ es ++ es' ↔ e ∈ es') := by
    intro e hconnect
    rw [List.mem_append]
    exact or_iff_right fun he => hconnect (hes e he).1
  unfold ConnectsFirst
  simp only [hright _ (show ¬ Event.NotConnect (.coInitializeEx _) from id),
    hright _ (show ¬ Event.NotConnect (.createEx _ _ _ _) from id)]

/-- What happens before the first call into COM does not matter to it. -/
theorem comOutlives_append_iff {es es' : List Event} (hes : ∀ e ∈ es, e.Comless) :
    ComOutlives (es ++ es') ↔ ComOutlives es' := by
  have hcareful : apartment.Careful es := .of_harmless fun e he =>
    ⟨(hes e he).1.apartment.2.1, apartment_uses_eq_none (hes e he).2, id⟩
  have huninit : Always (fun pre e => e = .coUninit → SetsReleased pre) es :=
    always_of_forall fun pre e he heq => absurd heq (hes e he).1.apartment.2.2
  constructor
  · intro h
    refine ⟨(always_append.mp h.careful).2.imp fun pre e _ allows => ?_,
      (always_append.mp h.coUninit).2.imp fun pre e _ hpre heq => ?_⟩
    · rwa [apartment_allows_iff, held_append_iff hes, ← apartment_allows_iff] at allows
    · exact (setsReleased_append_iff hes).mp (hpre heq)
  · intro h
    refine ⟨always_append.mpr ⟨hcareful, h.careful.imp fun pre e _ allows => ?_⟩,
      always_append.mpr ⟨huninit, h.coUninit.imp fun pre e _ hpre heq => ?_⟩⟩
    · rwa [apartment_allows_iff, held_append_iff hes, ← apartment_allows_iff]
    · exact (setsReleased_append_iff hes).mpr (hpre heq)

/-- `~ComRuntime` does no harm once the device set is gone. -/
theorem ComOutlives.append_uninit {es : List Event} {hr : HResult} (h : ComOutlives es)
    (hheld : apartment.Held () es) (hsets : SetsReleased es) : ComOutlives (es ++ uninit hr) := by
  unfold uninit
  split
  · rwa [List.append_nil]
  · refine ⟨always_append.mpr ⟨h.careful, ?_⟩, always_append.mpr ⟨h.coUninit, ?_⟩⟩
    · rw [always_cons, List.append_nil, apartment_allows_iff]
      exact ⟨fun _ => hheld, always_nil⟩
    · rw [always_cons, List.append_nil]
      exact ⟨fun _ => hsets, always_nil⟩

/-- After a `CoInitializeEx` that succeeded, COM is held as long as nothing calls
`CoUninitialize`. -/
theorem comOutlives_cons {hr : HResult} (hhr : failed hr = false) (es : List Event)
    (hes : .coUninit ∉ es) :
    ComOutlives (.coInitializeEx hr :: es) ∧ apartment.Held () (.coInitializeEx hr :: es) := by
  have hheld : ∀ pre, .coUninit ∉ pre → apartment.Held () (.coInitializeEx hr :: pre) := by
    intro pre hpre
    have hacquires : apartment.acquires (.coInitializeEx hr) = some () := if_neg (by simp [hhr])
    have hacquired :
        apartment.acquired (.coInitializeEx hr :: pre) = () :: apartment.acquired pre := by
      rw [Holding.acquired, List.filterMap_cons_some hacquires]
      rfl
    have hreleased : apartment.released (.coInitializeEx hr :: pre) = [] := by
      apply List.filterMap_eq_nil_iff.mpr
      intro e he
      cases e with
      | coUninit => exact absurd he (by simp [hpre])
      | _ => rfl
    unfold Holding.Held
    rw [hacquired, hreleased, List.count_cons_self]
    exact Nat.succ_pos _
  refine ⟨⟨?_, ?_⟩, hheld es hes⟩
  · refine always_cons.mpr ⟨apartment_allows_iff.mpr (by simp), fun pre e post heq => ?_⟩
    refine apartment_allows_iff.mpr fun _ => hheld pre fun hmem => hes ?_
    rw [heq]
    exact List.mem_append_left _ hmem
  · intro pre e post heq huninit
    rw [huninit] at heq
    have hmem : Event.coUninit ∈ Event.coInitializeEx hr :: es := by simp [heq]
    simp [hes] at hmem

/-- What `connect` does to COM: it ends without a device set, or it raised the count for good, or
it lowered it under its device set. -/
theorem ConnectRun.comLife {name : String} {count : Int} {c c' : Client} {es : List Event}
    (h : ConnectRun name count c es c') (hset : c.deviceSet = none) :
    (c'.deviceSet = none ∧ ComOutlives es ∧ ¬ ConnectsFirst es) ∨
      (apartment.Held () es ∧ ComOutlives es ∧ ¬ ConnectsFirst es) ∨
      (¬ ComOutlives es ∧ ConnectsFirst es) := by
  cases h with
  | comFailed hr hhr =>
      refine .inl ⟨hset, ⟨?_, ?_⟩, ?_⟩
      · simp [Holding.Careful, apartment_allows_iff, failure]
      · simp [failure]
      · simp [ConnectsFirst, failure]
  | createFailed hr hr' ds hhr hhr' =>
      obtain ⟨safe, hheld⟩ := comOutlives_cons hhr (.coCreateInstance hr' ds ::
        failure (.coCreateInstanceFailed hr') c) (by simp [failure])
      refine .inl ⟨hset, safe.append_uninit hheld ?_, ?_⟩
      · simp [SetsReleased, failure, List.filterMap_cons, releasedSet, createdSet, hhr']
      · simp [ConnectsFirst, failure, uninit]
  | createExFailed hr hr' hr'' ds hhr hhr' hhr'' =>
      obtain ⟨safe, hheld⟩ := comOutlives_cons hhr [.coCreateInstance hr' ds,
        .createEx ds name (vdConfig count) hr'', .log (.createExFailed hr''), .setRelease ds,
        .transition c.state .failed] (by simp)
      refine .inl ⟨rfl, safe.append_uninit hheld ?_, ?_⟩
      · simp [SetsReleased, List.filterMap_cons, releasedSet, createdSet, hhr']
      · simp [ConnectsFirst, uninit, hhr'']
  | connected hr hr' hr'' ds hhr hhr' hhr'' =>
      obtain ⟨safe, hheld⟩ := comOutlives_cons hhr [.coCreateInstance hr' ds,
        .createEx ds name (vdConfig count) hr'', .transition c.state .connected] (by simp)
      by_cases hfalse : hr = sFalse
      · refine .inr (.inl ?_)
        rw [uninit, if_pos hfalse, List.append_nil]
        refine ⟨hheld, safe, ?_⟩
        simp [ConnectsFirst, hfalse]
      · refine .inr (.inr ⟨fun outlives => ?_, ?_⟩)
        · rw [uninit, if_neg hfalse] at outlives
          have hreleased := outlives.coUninit _ _ [] rfl rfl
          simp [SetsReleased, List.filterMap_cons, releasedSet, createdSet, hhr'] at hreleased
        · refine ⟨⟨hr, by simp, hhr, hfalse⟩, ds, name, vdConfig count, hr'', by simp, hhr''⟩

/-! ## Sessions -/

theorem CallRun.afterwards {c c' : Client} {call : ApiCall} {es : List Event} {flow : Flow}
    (h : CallRun c call es flow c') (hlife : Lifecycle c) :
    (c.state = .init ∧ ∃ name count, ConnectRun name count c es c') ∨ Afterwards c es c' := by
  cases h with
  | connect hstate run => exact .inl ⟨hstate, _, _, run⟩
  | connectRefused | openRefused | setCommandTimeout | setFailAfterNChunks | closedAgain =>
      exact .inr ⟨by simp, fun hset => ⟨hset, by simp⟩, id⟩
  | openDevices hstate run => exact .inr run.afterwards
  | served run | serving run => exact .inr (run.afterwards hlife)
  | close => exact .inr closing_afterwards

theorem CallRun.comLife {c c' : Client} {call : ApiCall} {es before : List Event} {flow : Flow}
    (h : CallRun c call es flow c') (hlife : Lifecycle c)
    (hcom : ComLife c before) : ComLife c' (before ++ es) := by
  rcases h.afterwards hlife with ⟨hinit, name, count, run⟩ | after
  · have hinit' : c'.state ≠ .init := by cases run <;> simp
    cases hcom with
    | outside hset safe hkept hfresh =>
        have hbefore := hfresh hinit
        rcases run.comLife hset with ⟨hset', safe', hkept'⟩ | ⟨hheld, safe', hkept'⟩ |
          ⟨hbroken, hlost⟩
        · exact .outside hset' ((comOutlives_append_iff hbefore).mpr safe')
            (mt (connectsFirst_append_iff hbefore).mp hkept') fun h => absurd h hinit'
        · exact .held hinit' ((held_append_iff hbefore).mpr hheld)
            ((comOutlives_append_iff hbefore).mpr safe')
            (mt (connectsFirst_append_iff hbefore).mp hkept')
        · exact .lost (mt (comOutlives_append_iff hbefore).mp hbroken)
            ((connectsFirst_append_iff hbefore).mpr hlost)
    | held hstate => exact absurd hinit hstate
    | lost hbroken hlost => exact .lost (fun safe => hbroken safe.of_append) (hlost.append es)
  · exact hcom.afterwards after

theorem SessionRun.comLife {c c' : Client} {es : List Event} {flow : Flow}
    (h : SessionRun c es flow c') (hlife : Lifecycle c) (hset : c.deviceSet = none) :
    ComLife c' es := by
  induction h with
  | start =>
      exact .outside hset ⟨always_nil, always_nil⟩ (by simp [ConnectsFirst]) (by simp)
  | call before run ih =>
      exact run.comLife (before.lawful hlife).lifecycle ih

theorem LifetimeRun.comLife {c c' : Client} {es : List Event} {flow : Flow}
    (h : LifetimeRun c es flow c') (hlife : Lifecycle c) (hset : c.deviceSet = none) :
    ComLife c' es := by
  cases h with
  | serving run => exact run.comLife hlife hset
  | destroyed run destroyed => exact (run.comLife hlife hset).afterwards destroyed.afterwards

/-- **COM outlives the interfaces**, whatever calls are made and whatever the environment answers,
exactly when no `connect` that initialised COM itself got its device set. -/
theorem lifetime_comOutlives_iff (env : Env ω σ) (enableLogging : Bool)
    (faultInjector : FaultInjector) (outside : Outside ω σ) (calls : List ApiCall) :
    ComOutlives (lifetime env enableLogging faultInjector outside calls).trace ↔
      ¬ ConnectsFirst (lifetime env enableLogging faultInjector outside calls).trace := by
  obtain ⟨flow, run, -⟩ := lifetime_lifetimeRun env enableLogging faultInjector outside calls
  cases run.comLife (lifecycle_new enableLogging faultInjector) rfl with
  | outside hset safe hkept => exact iff_of_true safe hkept
  | held hstate hheld safe hkept => exact iff_of_true safe hkept
  | lost hbroken hlost => exact iff_of_false hbroken (not_not.mpr hlost)

/-- A client that is connected and closed: when its device set is used for the last time the count
is already back at zero. -/
theorem not_comOutlives_connectClose :
    let trace := (lifetime (scriptedEnv nullSink) false {} (scriptedStart [] ())
      [.connect "backup" 1, .close]).trace
    (∃ pre post, trace = pre ++ .setClose 0 :: post ∧ ¬ apartment.Held () pre) ∧
      ¬ ComOutlives trace := by
  intro trace
  have htrace : trace = [.coInitializeEx sOk, .coCreateInstance sOk 0,
      .createEx 0 "backup" (vdConfig 1) sOk, .transition .init .connected, .coUninit] ++
      .setClose 0 :: [.setRelease 0, .transition .connected .closed] := by decide +kernel
  have hcount : ¬ apartment.Held () [.coInitializeEx sOk, .coCreateInstance sOk 0,
      .createEx 0 "backup" (vdConfig 1) sOk, .transition .init .connected, .coUninit] := by
    unfold Holding.Held
    decide
  refine ⟨⟨_, _, htrace, hcount⟩, fun outlives => hcount ?_⟩
  exact apartment_allows_iff.mp (outlives.careful _ _ _ htrace) (.inr rfl)

end Vdi
