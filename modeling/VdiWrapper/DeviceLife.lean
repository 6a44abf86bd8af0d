import VdiWrapper.Lib.Holding
import VdiWrapper.Lifecycle
import VdiWrapper.Scripted

/-!
# The life of the virtual devices

Every successful `OpenDevice` hands out a reference to a virtual device, and `Release` gives it
back.  A call of `process_commands` that gets all its devices gives all of them back.  A call whose
`OpenDevice` loop fails midway returns with the devices opened so far: they are held for ever.
-/

namespace Vdi

open Runs

variable {ω σ : Type}

def releasedDevice : Event → Option Device
  | .deviceRelease device => some device
  | _ => none

/-- The device a `GetCommand` or a `CompleteCommand` is called on. -/
def usedDevice : Event → Option Device
  | .getCommand device .. | .completeCommand device .. => some device
  | _ => none

def Event.ClosesSet : Event → Prop
  | .setClose _ => True
  | _ => False

/-- A device reference is held from its `OpenDevice` to its `Release`; none may be held when the
device set is closed. -/
def deviceHolding : Holding Event Device where
  acquires := openedDevice
  releases := releasedDevice
  uses := usedDevice
  barrier := Event.ClosesSet

/-- Every device returned by `OpenDevice` is released exactly once, after its last use and before
the `Close` of the device set. -/
structure DeviceDiscipline (es : List Event) : Prop where
  /-- Devices are used and released while they are held, and none is held at a `Close`. -/
  careful : deviceHolding.Careful es
  /-- In the end every device was released as often as it was returned. -/
  free : deviceHolding.Free es

/-- An `OpenDevice` that failed. -/
def Event.failsOpen : Event → Bool
  | .openDevice _ _ hr _ => failed hr
  | _ => false

/-- No `OpenDevice` failed right after one that succeeded: the `OpenDevice` loop of each call
opened all its devices or none. -/
def OpensWholly (es : List Event) : Prop :=
  es.IsChain fun a b => openedDevice a ≠ none → b.failsOpen = false

instance : DecidablePred OpensWholly := fun es => inferInstanceAs (Decidable (es.IsChain _))

/-- The last event of the trace did not open a device. -/
def EndsOutside (es : List Event) : Prop := ∀ e ∈ es.getLast?, openedDevice e = none

/-- An event that concerns no device. -/
def Event.Deviceless (e : Event) : Prop :=
  openedDevice e = none ∧ releasedDevice e = none ∧ usedDevice e = none

theorem OpensWholly.append {es es' : List Event} (h : OpensWholly es) (hend : EndsOutside es)
    (h' : OpensWholly es') : OpensWholly (es ++ es') := by
  refine List.isChain_append.mpr ⟨h, h', fun a ha b _ hopened => ?_⟩
  exact absurd (hend a ha) hopened

theorem opensWholly_of_none {es : List Event} (h : ∀ e ∈ es, openedDevice e = none) :
    OpensWholly es := by
  apply List.isChain_iff_forall_rel_of_append_cons_cons.mpr
  intro a b l₁ l₂ heq hopened
  exact absurd (h a (by simp [heq])) hopened

theorem opensWholly_of_no_failure {es : List Event} (h : ∀ e ∈ es, e.failsOpen = false) :
    OpensWholly es := by
  apply List.isChain_iff_forall_rel_of_append_cons_cons.mpr
  intro a b l₁ l₂ heq _
  exact h b (by simp [heq])

theorem EndsOutside.append {es es' : List Event} (h : EndsOutside es) (h' : EndsOutside es') :
    EndsOutside (es ++ es') := by
  intro e he
  rw [List.getLast?_append, Option.mem_def, Option.or_eq_some_iff] at he
  rcases he with he | ⟨-, he⟩
  · exact h' e he
  · exact h e he

theorem endsOutside_of_none {es : List Event} (h : ∀ e ∈ es, openedDevice e = none) :
    EndsOutside es :=
  fun e he => h e (List.mem_of_getLast? he)

/-! ## One call -/

theorem closing_deviceless {c : Client} : ∀ e ∈ closing c, e.Deviceless := by
  unfold closing closingFlush closingSet
  cases c.deviceSet <;> split <;> simp [Event.Deviceless, openedDevice, releasedDevice, usedDevice]

/-- What the fields and the trace know of the devices between public calls. -/
inductive DeviceLife (c : Client) (es : List Event) : Prop
  /-- All `OpenDevice` loops were whole, and nothing is held. -/
  | whole (hchain : OpensWholly es) (hend : EndsOutside es) (discipline : DeviceDiscipline es)
  /-- One failed midway: what it opened is held, and no call will touch a device any more. -/
  | leaked (hchain : ¬ OpensWholly es) (hstate : c.state = .failed ∨ c.state = .closed)
      (hheld : ∃ device, deviceHolding.Held device es)

/-- A stretch that concerns no device changes nothing. -/
theorem DeviceLife.deviceless {c c' : Client} {es es' : List Event} (h : DeviceLife c es)
    (hes : ∀ e ∈ es', e.Deviceless)
    (hstate : c.state = .failed ∨ c.state = .closed → c'.state = .failed ∨ c'.state = .closed) :
    DeviceLife c' (es ++ es') := by
  have hnone : ∀ e ∈ es', openedDevice e = none := fun e he => (hes e he).1
  cases h with
  | whole hchain hend discipline =>
      obtain ⟨hcareful, hfree⟩ := discipline.careful.append_idle discipline.free hes
      exact .whole (hchain.append hend (opensWholly_of_none hnone))
        (hend.append (endsOutside_of_none hnone)) ⟨hcareful, hfree⟩
  | leaked hchain hstate' hheld =>
      obtain ⟨device, hheld⟩ := hheld
      exact .leaked (fun h => hchain h.left_of_append) (hstate hstate')
        ⟨device, hheld.append fun e he => ⟨hnone e he, (hes e he).2.1⟩⟩

theorem acquired_opening {ds : DeviceSet} {name : String} {opened : List (HResult × Device)}
    (h : ∀ p ∈ opened, failed p.1 = false) :
    deviceHolding.acquired (opening ds name opened) = opened.map Prod.snd :=
  openedDevices_opening h

theorem opening_harmless {ds : DeviceSet} {name : String} {opened : List (HResult × Device)} :
    ∀ e ∈ opening ds name opened, deviceHolding.Harmless e := by
  intro e he
  obtain ⟨p, -, rfl⟩ := List.mem_map.mp he
  exact ⟨rfl, rfl, id⟩

theorem released_opening {ds : DeviceSet} {name : String} {opened : List (HResult × Device)} :
    deviceHolding.released (opening ds name opened) = [] :=
  List.filterMap_eq_nil_iff.mpr fun e he => (opening_harmless e he).releases

/-- Inside the loop devices are neither opened nor released, and only those of the call used. -/
theorem LoopRun.uses {start : UInt64} {devices : List Device} {c c' : Client} {k : Nat}
    {es : List Event} {flow : Flow} (h : LoopRun start devices c k es flow c') :
    (∀ e ∈ es, openedDevice e = none ∧ releasedDevice e = none ∧ ¬ e.ClosesSet) ∧
      ∀ e ∈ es, ∀ device, usedDevice e = some device → device ∈ devices := by
  constructor
  · intro e he
    have hloop := h.inLoop e he
    cases e <;> first | exact hloop.elim | exact ⟨rfl, rfl, id⟩
  · intro e he device hused
    have hloop := h.inLoop e he
    cases e with
    | getCommand | completeCommand =>
        cases hused
        exact hloop
    | _ => cases hused

/-- What a call does once it has released its devices. -/
theorem shutdown_deviceless {c : Client} :
    ∀ e ∈ (if c.state = .flushing ∧ c.devicesClosed = false then closing c else []) ++
      [.report c.metrics c.maxActiveBuffers], e.Deviceless := by
  intro e he
  rcases List.mem_append.mp he with he | he
  · split at he
    · exact closing_deviceless e he
    · cases he
  · rw [List.mem_singleton.mp he]
    exact ⟨rfl, rfl, rfl⟩

/-- A call that got through its `OpenDevice` loop gives back everything it opened. -/
theorem served_discipline {start : UInt64} {c c₁ : Client} {k : Nat} {loop : List Event}
    {flow : Flow} {ds : DeviceSet} {name : String} {opened : List (HResult × Device)}
    (hopened : ∀ p ∈ opened, failed p.1 = false)
    (run : LoopRun start (opened.map Prod.snd) c k loop flow c₁) :
    DeviceDiscipline (opening ds name opened ++ .nowUs start :: loop ++
      finishing (opened.map Prod.snd) c₁) := by
  have hclock : deviceHolding.Harmless (.nowUs start) := ⟨rfl, rfl, id⟩
  have hopening : deviceHolding.Careful (opening ds name opened ++ [.nowUs start]) :=
    (Holding.Careful.of_harmless opening_harmless).append_harmless (by simpa using hclock)
  have hacquired : deviceHolding.acquired (opening ds name opened ++ [.nowUs start]) =
      opened.map Prod.snd := by
    rw [Holding.acquired_append, acquired_opening hopened]
    exact List.append_nil _
  have hreleased : deviceHolding.released (opening ds name opened ++ [.nowUs start]) = [] := by
    rw [Holding.released_append, released_opening]
    rfl
  obtain ⟨hnone, huses⟩ := run.uses
  -- the loop uses only devices of this call, all of which are held
  have hloop : deviceHolding.Careful (opening ds name opened ++ [.nowUs start] ++ loop) := by
    apply hopening.append_uses hnone
    intro e he device hused
    unfold Holding.Held
    rw [hacquired, hreleased]
    exact List.count_pos_iff.mpr (huses e he device hused)
  have hacquiredLoop : deviceHolding.acquired loop = [] :=
    List.filterMap_eq_nil_iff.mpr fun e he => (hnone e he).1
  have hreleasedLoop : deviceHolding.released loop = [] :=
    List.filterMap_eq_nil_iff.mpr fun e he => (hnone e he).2.1
  -- what is held after it is exactly the list of devices released next
  have hreleases := hloop.append_releases Event.deviceRelease (opened.map Prod.snd)
    (fun _ => ⟨rfl, rfl, rfl, id⟩) fun device => by
      rw [Holding.released_append, Holding.acquired_append, hacquired, hreleased, hacquiredLoop,
        hreleasedLoop]
      simp
  obtain ⟨hcareful, hfree⟩ := hreleases.1.append_idle hreleases.2 shutdown_deviceless
  have hlist : opening ds name opened ++ .nowUs start :: loop ++
      finishing (opened.map Prod.snd) c₁ =
      opening ds name opened ++ [.nowUs start] ++ loop ++
        (opened.map Prod.snd).map .deviceRelease ++
        ((if c₁.state = .flushing ∧ c₁.devicesClosed = false then closing c₁ else []) ++
          [.report c₁.metrics c₁.maxActiveBuffers]) := by
    simp [finishing]
  rw [hlist]
  exact ⟨hcareful, hfree⟩

theorem served_opensWholly {start : UInt64} {c c₁ : Client} {k : Nat} {loop : List Event}
    {flow : Flow} {ds : DeviceSet} {name : String} {opened : List (HResult × Device)}
    (hopened : ∀ p ∈ opened, failed p.1 = false)
    (run : LoopRun start (opened.map Prod.snd) c k loop flow c₁) :
    OpensWholly (opening ds name opened ++ .nowUs start :: loop ++
      finishing (opened.map Prod.snd) c₁) := by
  apply opensWholly_of_no_failure
  intro e he
  simp only [List.mem_append, List.mem_cons] at he
  rcases he with (he | rfl | he) | he
  · obtain ⟨p, hp, rfl⟩ := List.mem_map.mp he
    exact hopened p hp
  · rfl
  · have hloop := run.inLoop e he
    cases e <;> first | exact hloop.elim | rfl
  · have hafter := finishing_afterLoop e he
    cases e <;> first | exact hafter.elim | rfl

/-- A call whose `OpenDevice` loop failed after `opened`, which was not empty. -/
theorem openFailed_leaks {c : Client} {ds : DeviceSet} {opened : List (HResult × Device)}
    {hr : HResult} {device : Device} (hopened : ∀ p ∈ opened, failed p.1 = false)
    (hhr : failed hr = true) (hne : opened ≠ []) :
    ¬ OpensWholly (opening ds c.deviceName opened ++
        .openDevice ds c.deviceName hr device :: failure (.openDeviceFailed hr) c) ∧
      ∃ device', deviceHolding.Held device' (opening ds c.deviceName opened ++
        .openDevice ds c.deviceName hr device :: failure (.openDeviceFailed hr) c) := by
  obtain ⟨first, last, rfl⟩ : ∃ first last, opened = first ++ [last] := by
    rcases List.eq_nil_or_concat opened with hnil | ⟨first, last, h⟩
    · exact absurd hnil hne
    · exact ⟨first, last, by simpa using h⟩
  have hlast : openedDevice (.openDevice ds c.deviceName last.1 last.2) = some last.2 :=
    if_neg (by simp [hopened last (by simp)])
  constructor
  · intro hchain
    have hlist : opening ds c.deviceName (first ++ [last]) ++
        .openDevice ds c.deviceName hr device :: failure (.openDeviceFailed hr) c =
        opening ds c.deviceName first ++ .openDevice ds c.deviceName last.1 last.2 ::
          .openDevice ds c.deviceName hr device :: failure (.openDeviceFailed hr) c := by
      simp [opening]
    have hall := List.isChain_iff_forall_rel_of_append_cons_cons.mp hchain
    have hnot : failed hr = false := hall hlist (by simp [hlast])
    rw [hhr] at hnot
    cases hnot
  · refine ⟨last.2, ?_⟩
    have hfail : openedDevice (.openDevice ds c.deviceName hr device) = none := if_pos hhr
    have hacquired : deviceHolding.acquired
        (.openDevice ds c.deviceName hr device :: failure (.openDeviceFailed hr) c) = [] := by
      simp only [Holding.acquired, deviceHolding, List.filterMap_cons, hfail]
      rfl
    have hreleased : deviceHolding.released
        (.openDevice ds c.deviceName hr device :: failure (.openDeviceFailed hr) c) = [] := rfl
    unfold Holding.Held
    rw [Holding.released_append, Holding.acquired_append, hacquired, hreleased, released_opening,
      acquired_opening hopened]
    simp

/-- A call that returned from `process_commands`. -/
theorem CommandRun.deviceLife {c c' : Client} {es before : List Event}
    (h : CommandRun c es true c') (hlife : DeviceLife c before) :
    DeviceLife c' (before ++ es) := by
  have hlog : ∀ line, ∀ e ∈ [Event.log line], e.Deviceless := by
    simp [Event.Deviceless, openedDevice, releasedDevice, usedDevice]
  cases h with
  | wrongState => exact hlife.deviceless (hlog _) id
  | noDeviceSet => exact hlife.deviceless (hlog _) id
  | @openFailed ds opened hr device hstate hset hopened hcount hhr =>
      by_cases hnil : opened = []
      · refine hlife.deviceless ?_ fun _ => .inl rfl
        have hfail : openedDevice (.openDevice ds c.deviceName hr device) = none := if_pos hhr
        simp [hnil, opening, failure, Event.Deviceless, hfail]
        simp [openedDevice, releasedDevice, usedDevice]
      · obtain ⟨hleak, device', hheld⟩ := openFailed_leaks (c := c) hopened hhr hnil
        cases hlife with
        | whole hchain hend discipline =>
            exact .leaked (fun h => hleak h.right_of_append) (.inl rfl)
              ⟨device', discipline.free.append_held_iff.mpr hheld⟩
        | leaked _ hstate' =>
            rw [hstate] at hstate'
            simp at hstate'
  | @served ds opened start k loop c₁ hstate hset hopened hcount run =>
      cases hlife with
      | leaked _ hstate' =>
          rw [hstate] at hstate'
          simp at hstate'
      | whole hchain hend discipline =>
          have hcall : DeviceDiscipline (opening ds c.deviceName opened ++ .nowUs start :: loop ++
              finishing (opened.map Prod.snd) c₁) := served_discipline hopened run
          refine .whole (hchain.append hend (served_opensWholly hopened run))
            (fun e he => ?_) ⟨discipline.careful.append discipline.free hcall.careful,
              discipline.free.append_iff.mpr hcall.free⟩
          rw [finishing, ← List.append_assoc, ← List.append_assoc, List.getLast?_concat] at he
          cases he
          rfl

/-! ## Sessions -/

theorem uninit_deviceless {hr : HResult} : ∀ e ∈ uninit hr, e.Deviceless := by
  unfold uninit
  split <;> simp [Event.Deviceless, openedDevice, releasedDevice, usedDevice]

theorem ConnectRun.deviceless {name : String} {count : Int} {c c' : Client} {es : List Event}
    (h : ConnectRun name count c es c') : ∀ e ∈ es, e.Deviceless := by
  have huninit : ∀ hr, ∀ e ∈ uninit hr, e.Deviceless := fun _ => uninit_deviceless
  cases h with
  | comFailed =>
      simp [failure, Event.Deviceless, openedDevice, releasedDevice, usedDevice]
  | createFailed hr | createExFailed hr | connected hr =>
      refine List.forall_mem_append.mpr ⟨?_, huninit hr⟩
      simp [failure, Event.Deviceless, openedDevice, releasedDevice, usedDevice]

theorem OpenRun.deviceless {c c' : Client} {es : List Event} (h : OpenRun c es c') :
    ∀ e ∈ es, e.Deviceless := by
  cases h <;> simp [failure, Event.Deviceless, openedDevice, releasedDevice, usedDevice]

theorem CallRun.deviceLife {c c' : Client} {call : ApiCall} {es before : List Event}
    (h : CallRun c call es .next c') (hlife : DeviceLife c before) :
    DeviceLife c' (before ++ es) := by
  have hlog : ∀ line, ∀ e ∈ [Event.log line], e.Deviceless := by
    simp [Event.Deviceless, openedDevice, releasedDevice, usedDevice]
  cases h with
  | connectRefused | openRefused => exact hlife.deviceless (hlog _) id
  | connect hstate run => exact hlife.deviceless run.deviceless (by simp [hstate])
  | openDevices hstate run => exact hlife.deviceless run.deviceless (by simp [hstate])
  | served run => exact run.deviceLife hlife
  | setCommandTimeout | setFailAfterNChunks | closedAgain => exact hlife.deviceless (by simp) id
  | close hopen => exact hlife.deviceless closing_deviceless fun _ => .inr rfl

theorem SessionRun.deviceLife {c c' : Client} {es : List Event} (h : SessionRun c es .next c') :
    DeviceLife c' es := by
  generalize hflow : Flow.next = flow at h
  induction h with
  | start =>
      exact .whole .nil (by simp [EndsOutside]) ⟨always_nil, Holding.free_nil⟩
  | call before run ih =>
      subst hflow
      exact run.deviceLife (ih rfl)

theorem DestroyRun.deviceLife {c c' : Client} {es before : List Event} (h : DestroyRun c es c')
    (hlife : DeviceLife c before) : DeviceLife c' (before ++ es) := by
  cases h with
  | nothing | closedAgain =>
      exact hlife.deviceless (by simp [Event.Deviceless, openedDevice, releasedDevice, usedDevice])
        id
  | close hstate hopen =>
      refine hlife.deviceless ?_ fun _ => .inr rfl
      intro e he
      rcases List.mem_cons.mp he with rfl | he
      · exact ⟨rfl, rfl, rfl⟩
      · exact closing_deviceless e he

/-- **Device interfaces are released exactly once** over the lifetime of a client, whatever calls
are made and whatever the environment answers, exactly when no `OpenDevice` fails after another
one of the same call succeeded. -/
theorem lifetime_deviceDiscipline_iff (env : Env ω σ) (enableLogging : Bool)
    (faultInjector : FaultInjector) (outside : Outside ω σ) (calls : List ApiCall)
    (hreturned : Returned env enableLogging faultInjector outside calls) :
    DeviceDiscipline (lifetime env enableLogging faultInjector outside calls).trace ↔
      OpensWholly (lifetime env enableLogging faultInjector outside calls).trace := by
  obtain ⟨flow, run, hflow⟩ := lifetime_lifetimeRun env enableLogging faultInjector outside calls
  rw [hflow hreturned] at run
  generalize (lifetime env enableLogging faultInjector outside calls).trace = es at run
  cases run with
  | destroyed run destroyed =>
      cases destroyed.deviceLife run.deviceLife with
      | whole hchain hend discipline => exact iff_of_true discipline hchain
      | leaked hchain hstate hheld =>
          refine iff_of_false (fun discipline => ?_) hchain
          obtain ⟨device, hheld⟩ := hheld
          have hfree := discipline.free device
          unfold Holding.Held at hheld
          omega

/-- Two devices and a clean end: both are released exactly once. -/
theorem deviceDiscipline_twoDevices :
    DeviceDiscipline (lifetime (scriptedEnv nullSink) false {}
      (scriptedStart [[deliver (oneByte 7)], [deliver (oneByte 8)]] ())
      [.connect "backup" 2, .openDevices, .processCommands 3]).trace :=
  (lifetime_deviceDiscipline_iff (scriptedEnv nullSink) false {}
    (scriptedStart [[deliver (oneByte 7)], [deliver (oneByte 8)]] ())
    [.connect "backup" 2, .openDevices, .processCommands 3] (by decide +kernel)).mpr
    (by decide +kernel)

/-- Two devices are asked for and the second `OpenDevice` fails: the first is never released, not
even by `close` and the destructor. -/
theorem not_deviceDiscipline_partialOpen :
    let start := scriptedStart [[]] ()
    let calls : List ApiCall := [.connect "backup" 2, .openDevices, .processCommands 1, .close]
    Returned (scriptedEnv nullSink) false {} start calls ∧
      openedDevices (lifetime (scriptedEnv nullSink) false {} start calls).trace = [0] ∧
      (lifetime (scriptedEnv nullSink) false {} start calls).trace.filterMap releasedDevice = [] ∧
      ¬ DeviceDiscipline (lifetime (scriptedEnv nullSink) false {} start calls).trace := by
  intro start calls
  have hopened : openedDevices (lifetime (scriptedEnv nullSink) false {} start calls).trace =
      [0] := by decide +kernel
  have hreleased : (lifetime (scriptedEnv nullSink) false {} start calls).trace.filterMap
      releasedDevice = [] := by decide +kernel
  refine ⟨by decide +kernel, hopened, hreleased, fun discipline => ?_⟩
  have hfree : (List.filterMap releasedDevice _).count 0 = (openedDevices _).count 0 :=
    discipline.free 0
  rw [hopened, hreleased] at hfree
  cases hfree

end Vdi
