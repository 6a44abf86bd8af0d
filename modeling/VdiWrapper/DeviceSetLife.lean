import VdiWrapper.Lifecycle
import VdiWrapper.Scripted

/-!
# The life of the device set

The calls on the device set, read off the trace of a lifetime, form one of three words: no device
set was ever created; it was created, `CreateEx` failed and it was released; or it was created,
used, closed and released.  `SetLife` is the invariant between public calls: the word so far, and
whether `device_set_` still holds the pointer.
-/

namespace Vdi

open Runs

variable {ω σ : Type}

/-- The creation of a device set and the calls on it. -/
@[simp] def Event.isSetEvent : Event → Bool
  | .coCreateInstance hr _ => !failed hr
  | .createEx .. | .getConfiguration .. | .openDevice .. | .setClose _ | .setRelease _ => true
  | _ => false

def setEvents (es : List Event) : List Event := es.filter Event.isSetEvent

@[simp] theorem setEvents_append (es es' : List Event) :
    setEvents (es ++ es') = setEvents es ++ setEvents es' :=
  List.filter_append es es'

theorem setEvents_eq_nil {es : List Event} (h : ∀ e ∈ es, e.isSetEvent = false) :
    setEvents es = [] :=
  List.filter_eq_nil_iff.mpr fun e he => by rw [h e he]; exact Bool.false_ne_true

/-- A call between `CreateEx` and `Close`. -/
def UsesSet (ds : DeviceSet) (e : Event) : Prop :=
  (∃ timeout hr, e = .getConfiguration ds timeout hr) ∨
    ∃ name hr device, e = .openDevice ds name hr device

/-- A device set that was created with success, and what was done with it since. -/
def LiveSet (ds : DeviceSet) (es : List Event) : Prop :=
  ∃ hr name config hr' uses, failed hr = false ∧ failed hr' = false ∧
    (∀ e ∈ uses, UsesSet ds e) ∧
    es = [.coCreateInstance hr ds, .createEx ds name config hr'] ++ uses

/-- The words a device set leaves behind: at most one is created, it is released exactly once, and
closed exactly once, just before, if and only if `CreateEx` succeeded. -/
inductive FinishedSet : List Event → Prop
  | unused : FinishedSet []
  | rejected {ds : DeviceSet} {hr hr' : HResult} {name : String} {config : VDConfig}
      (hhr : failed hr = false) (hhr' : failed hr' = true) :
      FinishedSet [.coCreateInstance hr ds, .createEx ds name config hr', .setRelease ds]
  | closed {ds : DeviceSet} {es : List Event} (live : LiveSet ds es) :
      FinishedSet (es ++ [.setClose ds, .setRelease ds])

theorem LiveSet.append {ds : DeviceSet} {es uses : List Event} (h : LiveSet ds es)
    (huses : ∀ e ∈ uses, UsesSet ds e) : LiveSet ds (es ++ uses) := by
  obtain ⟨hr, name, config, hr', before, hhr, hhr', hbefore, rfl⟩ := h
  refine ⟨hr, name, config, hr', before ++ uses, hhr, hhr', fun e he => ?_, by simp⟩
  rcases List.mem_append.mp he with he | he
  · exact hbefore e he
  · exact huses e he

/-- What the fields know of the word so far. -/
inductive SetLife (c : Client) : List Event → Prop
  | unused (hstate : c.state = .init) (hset : c.deviceSet = none) : SetLife c []
  | live {ds : DeviceSet} {es : List Event} (hstate : c.state ≠ .init)
      (hset : c.deviceSet = some ds) (live : LiveSet ds es) : SetLife c es
  | finished {es : List Event} (hstate : c.state ≠ .init) (hset : c.deviceSet = none)
      (finished : FinishedSet es) : SetLife c es

/-- A step that neither makes nor uses a device set. -/
theorem SetLife.keep {c c' : Client} {es : List Event} (h : SetLife c es)
    (hset : c'.deviceSet = c.deviceSet) (hstate : c'.state = .init ↔ c.state = .init) :
    SetLife c' es := by
  cases h with
  | unused hstate' hset' => exact .unused (hstate.mpr hstate') (hset.trans hset')
  | live hstate' hset' live => exact .live (hstate.not.mpr hstate') (hset.trans hset') live
  | finished hstate' hset' finished =>
      exact .finished (hstate.not.mpr hstate') (hset.trans hset') finished

/-- A step that uses the device set. -/
theorem SetLife.use {c c' : Client} {es uses : List Event} {ds : DeviceSet} (h : SetLife c es)
    (hds : c.deviceSet = some ds) (huses : ∀ e ∈ uses, UsesSet ds e)
    (hset : c'.deviceSet = c.deviceSet) (hstate : c'.state ≠ .init) :
    SetLife c' (es ++ uses) := by
  cases h with
  | unused _ hset' | finished _ hset' =>
      rw [hset'] at hds
      cases hds
  | live _ hset' live =>
      rw [hds] at hset'
      cases hset'
      exact .live hstate (hset.trans hds) (live.append huses)

theorem setEvents_closing {c : Client} : setEvents (closing c) = closingSet c := by
  have hflush : setEvents (closingFlush c) = [] := by
    apply setEvents_eq_nil
    intro e he
    unfold closingFlush at he
    split at he
    · rw [List.mem_singleton.mp he]
      rfl
    · cases he
  have hset : setEvents (closingSet c) = closingSet c := by
    unfold closingSet
    cases c.deviceSet <;> rfl
  rw [closing, setEvents_append, setEvents_append, hflush, hset]
  simp [setEvents]

/-- Closing ends the life of the device set, if there was one. -/
theorem SetLife.close {c : Client} {es : List Event} (h : SetLife c es) :
    SetLife c.closed (es ++ setEvents (closing c)) := by
  have hstate : c.closed.state ≠ .init := by simp [Client.closed]
  rw [setEvents_closing, closingSet]
  cases h with
  | unused _ hset =>
      rw [hset]
      exact .finished hstate rfl .unused
  | live _ hset live =>
      rw [hset]
      exact .finished hstate rfl (.closed live)
  | finished _ hset finished =>
      rw [hset, List.append_nil]
      exact .finished hstate rfl finished

theorem setEvents_uninit {hr : HResult} : setEvents (uninit hr) = [] := by
  unfold uninit
  split <;> rfl

theorem ConnectRun.setLife {name : String} {count : Int} {c c' : Client} {es : List Event}
    (h : ConnectRun name count c es c') (hset : c.deviceSet = none) :
    SetLife c' (setEvents es) := by
  cases h with
  | comFailed hr hhr =>
      have hes : setEvents (.coInitializeEx hr :: failure .comInitializationFailed c) = [] := rfl
      rw [hes]
      exact .finished (by simp) hset .unused
  | createFailed hr hr' ds hhr hhr' =>
      have hes : setEvents ([.coInitializeEx hr, .coCreateInstance hr' ds] ++
          failure (.coCreateInstanceFailed hr') c) = [] := by
        simp [setEvents, failure, hhr']
      rw [setEvents_append, hes, setEvents_uninit]
      exact .finished (by simp) hset .unused
  | createExFailed hr hr' hr'' ds hhr hhr' hhr'' =>
      have hes : setEvents [.coInitializeEx hr, .coCreateInstance hr' ds,
          .createEx ds name (vdConfig count) hr'', .log (.createExFailed hr''), .setRelease ds,
          .transition c.state .failed] =
          [.coCreateInstance hr' ds, .createEx ds name (vdConfig count) hr'', .setRelease ds] := by
        simp [setEvents, List.filter_cons, hhr']
      rw [setEvents_append, hes, setEvents_uninit]
      exact .finished (by simp) rfl (.rejected hhr' hhr'')
  | connected hr hr' hr'' ds hhr hhr' hhr'' =>
      have hes : setEvents [.coInitializeEx hr, .coCreateInstance hr' ds,
          .createEx ds name (vdConfig count) hr'', .transition c.state .connected] =
          [.coCreateInstance hr' ds, .createEx ds name (vdConfig count) hr''] := by
        simp [setEvents, List.filter_cons, hhr']
      rw [setEvents_append, hes, setEvents_uninit]
      exact .live (by simp) rfl ⟨hr', name, vdConfig count, hr'', [], hhr', hhr'', by simp, rfl⟩

theorem OpenRun.setLife {c c' : Client} {es before : List Event} (h : OpenRun c es c')
    (hlife : SetLife c before) (hstate : c.state = .connected) :
    SetLife c' (before ++ setEvents es) := by
  cases h with
  | noDeviceSet hset =>
      have hes : setEvents (failure .noDeviceSet c) = [] := rfl
      rw [hes, List.append_nil]
      exact hlife.keep rfl (by simp [hstate])
  | failed ds hset hr hhr =>
      have hes : setEvents (.getConfiguration ds 60000 hr ::
          failure (.getConfigurationFailed hr) c) = [.getConfiguration ds 60000 hr] := rfl
      rw [hes]
      exact hlife.use hset (fun e he => .inl ⟨60000, hr, List.mem_singleton.mp he⟩) rfl (by simp)
  | opened ds hset hr hhr =>
      have hes : setEvents [.getConfiguration ds 60000 hr, .transition c.state .streaming] =
          [.getConfiguration ds 60000 hr] := rfl
      rw [hes]
      exact hlife.use hset (fun e he => .inl ⟨60000, hr, List.mem_singleton.mp he⟩) rfl (by simp)

theorem setEvents_opening {ds : DeviceSet} {name : String} {opened : List (HResult × Device)} :
    setEvents (opening ds name opened) = opening ds name opened := by
  apply List.filter_eq_self.mpr
  intro e he
  obtain ⟨p, -, rfl⟩ := List.mem_map.mp he
  rfl

theorem opening_usesSet {ds : DeviceSet} {name : String} {opened : List (HResult × Device)} :
    ∀ e ∈ opening ds name opened, UsesSet ds e := by
  intro e he
  obtain ⟨p, -, rfl⟩ := List.mem_map.mp he
  exact .inr ⟨name, p.1, p.2, rfl⟩

theorem LoopRun.setEvents_eq {start : UInt64} {devices : List Device} {c c' : Client} {k : Nat}
    {es : List Event} {flow : Flow} (h : LoopRun start devices c k es flow c') :
    setEvents es = [] := by
  apply setEvents_eq_nil
  intro e he
  have hloop := h.inLoop e he
  cases e <;> first | exact hloop.elim | rfl

theorem setEvents_releases {devices : List Device} :
    setEvents (devices.map .deviceRelease) = [] := by
  apply setEvents_eq_nil
  intro e he
  obtain ⟨device, -, rfl⟩ := List.mem_map.mp he
  rfl

/-- Releasing the devices and closing a flushed session. -/
theorem SetLife.finish {c : Client} {es : List Event} {devices : List Device}
    (h : SetLife c es) : SetLife c.finished (es ++ setEvents (finishing devices c)) := by
  have hreport : setEvents [.report c.metrics c.maxActiveBuffers] = [] := rfl
  rw [finishing, setEvents_append, setEvents_append, setEvents_releases, hreport, List.nil_append,
    List.append_nil]
  unfold Client.finished
  split
  · exact h.close
  · rwa [show setEvents [] = [] from rfl, List.append_nil]

theorem CommandRun.setLife {c c' : Client} {es before : List Event} {returned : Bool}
    (h : CommandRun c es returned c') (hlife : SetLife c before) :
    SetLife c' (before ++ setEvents es) := by
  have hnil : setEvents [] = [] := rfl
  cases h with
  | wrongState | noDeviceSet =>
      rw [show setEvents [_] = [] from rfl, List.append_nil]
      exact hlife
  | @openFailed ds opened hr device hstate hset hopened hcount hhr =>
      have hes : setEvents (opening ds c.deviceName opened ++
          .openDevice ds c.deviceName hr device :: failure (.openDeviceFailed hr) c) =
          opening ds c.deviceName opened ++ [.openDevice ds c.deviceName hr device] := by
        rw [setEvents_append, setEvents_opening]
        rfl
      rw [hes]
      refine hlife.use hset (fun e he => ?_) rfl (by simp)
      rcases List.mem_append.mp he with he | he
      · exact opening_usesSet e he
      · exact .inr ⟨c.deviceName, hr, device, List.mem_singleton.mp he⟩
  | @serving ds opened start k es c' hstate hset hopened hcount run =>
      have hes : setEvents (opening ds c.deviceName opened ++ .nowUs start :: es) =
          opening ds c.deviceName opened := by
        rw [setEvents_append, setEvents_opening,
          show setEvents (.nowUs start :: es) = setEvents es from rfl, run.setEvents_eq,
          List.append_nil]
      have hend : c'.state = .streaming := run.state_of_next.trans hstate
      rw [hes]
      exact hlife.use hset opening_usesSet run.keeps.1 (by simp [hend])
  | @served ds opened start k es c₁ hstate hset hopened hcount run =>
      have hes : setEvents (opening ds c.deviceName opened ++ .nowUs start :: es ++
          finishing (opened.map Prod.snd) c₁) = opening ds c.deviceName opened ++
          setEvents (finishing (opened.map Prod.snd) c₁) := by
        rw [setEvents_append, setEvents_append, setEvents_opening,
          show setEvents (.nowUs start :: es) = setEvents es from rfl, run.setEvents_eq,
          List.append_nil]
      have hstate₁ : c₁.state ≠ .init := by
        rcases run.state_of_stop with h | h | h <;>
          simp [h, Client.streamingSince_state, hstate]
      rw [hes, ← List.append_assoc]
      exact (hlife.use hset opening_usesSet run.keeps.1 hstate₁).finish

theorem CallRun.setLife {c c' : Client} {call : ApiCall} {es before : List Event} {flow : Flow}
    (h : CallRun c call es flow c') (hlife : SetLife c before) :
    SetLife c' (before ++ setEvents es) := by
  cases h with
  | connectRefused | openRefused | setCommandTimeout | setFailAfterNChunks | closedAgain =>
      rw [show setEvents _ = [] from rfl, List.append_nil]
      exact hlife.keep rfl Iff.rfl
  | connect hstate run =>
      cases hlife with
      | unused _ hset => exact run.setLife hset
      | live hused | finished hused => exact absurd hstate hused
  | openDevices hstate run => exact run.setLife hlife hstate
  | served run | serving run => exact run.setLife hlife
  | close hopen => exact hlife.close

theorem SessionRun.setLife {c c' : Client} {es : List Event} {flow : Flow}
    (h : SessionRun c es flow c') (hstate : c.state = .init) (hset : c.deviceSet = none) :
    SetLife c' (setEvents es) := by
  induction h with
  | start => exact .unused hstate hset
  | call before run ih =>
      rw [setEvents_append]
      exact run.setLife ih

/-- The destructor ends the life of the device set. -/
theorem DestroyRun.finishedSet {c c' : Client} {es before : List Event}
    (h : DestroyRun c es c') (hlife : Lifecycle c) (hset : SetLife c before) :
    FinishedSet (before ++ setEvents es) := by
  have hgone : ∀ {c : Client} {es : List Event}, SetLife c es → c.deviceSet = none →
      FinishedSet es := by
    intro c es h hnone
    cases h with
    | unused => exact .unused
    | live _ hds =>
        rw [hnone] at hds
        cases hds
    | finished _ _ finished => exact finished
  cases h with
  | nothing hstate =>
      have hnone : c.deviceSet = none := hlife.noDeviceSet hstate.symm
      rw [show setEvents [] = [] from rfl, List.append_nil]
      exact hgone hset hnone
  | closedAgain hstate hclosed => exact absurd (hlife.closed_iff.mpr hclosed) hstate.1
  | close hstate hopen =>
      rw [show setEvents (.log .destroyedWithoutClose :: closing c) = setEvents (closing c)
        from rfl]
      exact hgone hset.close rfl

/-- **The device set is closed and released exactly once.**  Whatever calls are made before the
destruction of a client, and whatever the environment answers, the calls on its device set form a
finished life. -/
theorem lifetime_finishedSet (env : Env ω σ) (enableLogging : Bool)
    (faultInjector : FaultInjector) (outside : Outside ω σ) (calls : List ApiCall)
    (hreturned : Returned env enableLogging faultInjector outside calls) :
    FinishedSet (setEvents (lifetime env enableLogging faultInjector outside calls).trace) := by
  obtain ⟨flow, run, hflow⟩ := lifetime_lifetimeRun env enableLogging faultInjector outside calls
  rw [hflow hreturned] at run
  generalize (lifetime env enableLogging faultInjector outside calls).trace = es at run
  cases run with
  | destroyed run destroyed =>
      have hlife := (run.lawful (lifecycle_new enableLogging faultInjector)).lifecycle
      rw [setEvents_append]
      exact destroyed.finishedSet hlife (run.setLife rfl rfl)

/-- A session of one write, closed by the server. -/
theorem lifetime_finishedSet_oneWrite :
    FinishedSet (setEvents (lifetime (scriptedEnv nullSink) false {}
      (scriptedStart [[deliver (oneByte 7)]] ())
      [.connect "backup" 1, .openDevices, .processCommands 2]).trace) :=
  lifetime_finishedSet (scriptedEnv nullSink) false {}
    (scriptedStart [[deliver (oneByte 7)]] ())
    [.connect "backup" 1, .openDevices, .processCommands 2] (by decide +kernel)

end Vdi
