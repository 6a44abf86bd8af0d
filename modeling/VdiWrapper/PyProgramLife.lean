import VdiWrapper.ComLifetime
import VdiWrapper.DeviceLife
import VdiWrapper.PyProgram
import VdiWrapper.PySimulation

/-!
# The life of the Python program

Whatever raises inside `main`, it is printed once and the process leaves with 1.  `finally` and
`__del__` give everything back in the order COM asks for: the device, then the set, then COM.
`Holds` is the invariant behind this: what the fields of the client hold is what the trace owes.
-/

namespace Vdi

open Runs

variable {ω α : Type}

/-! ## Reading the actions -/

def PyAction.event? : PyAction → Option Event
  | .com e => some e
  | _ => none

/-- The calls into COM. -/
def pyEvents (acts : List PyAction) : List Event := acts.filterMap PyAction.event?

@[simp] theorem pyEvents_append (acts acts' : List PyAction) :
    pyEvents (acts ++ acts') = pyEvents acts ++ pyEvents acts' :=
  List.filterMap_append

/-- The text of the exception that an action raised. -/
def PyAction.raised : PyAction → Option String
  | .com (.coInitializeEx hr) =>
      if failed hr then some (callFailed "CoInitializeEx" hr "") else none
  | .com (.coCreateInstance hr _) =>
      if failed hr then
        some (callFailed "CoCreateInstance(CLSID_MSSQL_ClientVirtualDeviceSet)" hr "")
      else none
  | .com (.createEx _ _ _ hr) => if failed hr then some (callFailed "CreateEx" hr "") else none
  | .com (.getConfiguration _ _ hr) =>
      if failed hr then some (callFailed "GetConfiguration" hr "") else none
  | .com (.openDevice _ _ hr _) =>
      if failed hr then some (callFailed "OpenDevice" hr "") else none
  | .input read => if read then none else some "EOF when reading a line"
  | _ => none

def raisedIn (acts : List PyAction) : List String := acts.filterMap PyAction.raised

@[simp] theorem raisedIn_append (acts acts' : List PyAction) :
    raisedIn (acts ++ acts') = raisedIn acts ++ raisedIn acts' :=
  List.filterMap_append

def PyAction.printed : PyAction → Option String
  | .err text => some text
  | _ => none

/-- The lines on `sys.stderr`. -/
def printedIn (acts : List PyAction) : List String := acts.filterMap PyAction.printed

@[simp] theorem printedIn_append (acts acts' : List PyAction) :
    printedIn (acts ++ acts') = printedIn acts ++ printedIn acts' :=
  List.filterMap_append

theorem printedIn_com (es : List Event) : printedIn (es.map .com) = [] :=
  List.filterMap_eq_nil_iff.mpr fun a ha => by
    obtain ⟨e, -, rfl⟩ := List.mem_map.mp ha
    rfl

theorem pyEvents_com (es : List Event) : pyEvents (es.map .com) = es := by
  unfold pyEvents
  rw [List.filterMap_map]
  exact List.filterMap_some

theorem com_calls (calls : List DeviceCall) :
    calls.map (fun call => PyAction.com call.event) = (calls.map DeviceCall.event).map .com := by
  rw [List.map_map]
  rfl

theorem pyEvents_calls (calls : List DeviceCall) :
    pyEvents (calls.map fun call => .com call.event) = calls.map DeviceCall.event := by
  rw [com_calls, pyEvents_com]

/-! ## What is held -/

/-- The device set a call other than `Release` is made on. -/
def usedSet : Event → Option DeviceSet
  | .createEx ds .. | .getConfiguration ds .. | .openDevice ds .. | .setClose ds => some ds
  | _ => none

def closedSet : Event → Option DeviceSet
  | .setClose ds => some ds
  | _ => none

/-- A device set is held from its `CoCreateInstance` to its `Release`; none may be held at
`CoUninitialize`. -/
def setHolding : Holding Event DeviceSet where
  acquires := createdSet
  releases := releasedSet
  uses := usedSet
  barrier := fun e => e = .coUninit

/-- Every device set is released exactly once, after its last use and before `CoUninitialize`, and
closed exactly once. -/
structure SetDiscipline (es : List Event) : Prop where
  careful : setHolding.Careful es
  free : setHolding.Free es
  closed : es.filterMap closedSet = es.filterMap createdSet

/-- What the trace owes while COM is initialised: `CoUninitialize`, and the set and the device that
the fields hold. -/
structure Holds (set : Option DeviceSet) (device : Option Device) (es : List Event) : Prop where
  com : apartment.Owes [()] es
  sets : setHolding.Owes set.toList es
  devices : deviceHolding.Owes device.toList es
  released : es.filterMap createdSet = es.filterMap releasedSet ++ set.toList
  closed : es.filterMap closedSet = es.filterMap releasedSet
  running : .coUninit ∉ es

/-- An event that neither acquires nor releases anything. -/
structure Event.Keeps (e : Event) : Prop where
  com : apartment.acquires e = none ∧ apartment.releases e = none
  set : createdSet e = none ∧ releasedSet e = none ∧ closedSet e = none
  device : openedDevice e = none ∧ releasedDevice e = none ∧ ¬ e.ClosesSet
  running : e ≠ .coUninit

namespace Holds

variable {set : Option DeviceSet} {device : Option Device} {ds : DeviceSet} {d : Device}
  {es es' : List Event} {hr : HResult}

/-- What is held may be used. -/
theorem use (h : Holds set device es) (hkeeps : ∀ e ∈ es', e.Keeps)
    (hset : ∀ e ∈ es', ∀ x, usedSet e = some x → x ∈ set.toList)
    (hdevice : ∀ e ∈ es', ∀ x, usedDevice e = some x → x ∈ device.toList) :
    Holds set device (es ++ es') := by
  have hcreated : es'.filterMap createdSet = [] :=
    List.filterMap_eq_nil_iff.mpr fun e he => (hkeeps e he).set.1
  have hreleased : es'.filterMap releasedSet = [] :=
    List.filterMap_eq_nil_iff.mpr fun e he => (hkeeps e he).set.2.1
  have hclosed : es'.filterMap closedSet = [] :=
    List.filterMap_eq_nil_iff.mpr fun e he => (hkeeps e he).set.2.2
  constructor
  · exact h.com.use (fun e he => ⟨(hkeeps e he).com.1, (hkeeps e he).com.2, id⟩)
      fun e he x _ => List.mem_singleton.mpr rfl
  · exact h.sets.use
      (fun e he => ⟨(hkeeps e he).set.1, (hkeeps e he).set.2.1, (hkeeps e he).running⟩) hset
  · exact h.devices.use (fun e he => (hkeeps e he).device) hdevice
  · rw [List.filterMap_append, List.filterMap_append, hcreated, hreleased, List.append_nil,
      List.append_nil]
    exact h.released
  · rw [List.filterMap_append, List.filterMap_append, hclosed, hreleased, List.append_nil,
      List.append_nil]
    exact h.closed
  · exact fun hmem => (List.mem_append.mp hmem).elim h.running fun he => (hkeeps _ he).running rfl

/-- A single call that is made on what is held. -/
theorem call (h : Holds set device es) {e : Event} (hkeeps : e.Keeps)
    (hset : ∀ x, usedSet e = some x → set = some x)
    (hdevice : ∀ x, usedDevice e = some x → device = some x) : Holds set device (es ++ [e]) := by
  refine h.use (fun a ha => ?_) (fun a ha x hx => ?_) fun a ha x hx => ?_ <;>
    obtain rfl := List.mem_singleton.mp ha
  · exact hkeeps
  · exact Option.mem_toList.mpr (hset x hx)
  · exact Option.mem_toList.mpr (hdevice x hx)

theorem start (hhr : failed hr = false) : Holds none none [.coInitializeEx hr] := by
  have hacquires : apartment.acquires (.coInitializeEx hr) = some () :=
    if_neg (by rw [hhr]; exact Bool.false_ne_true)
  constructor
  · exact Holding.owes_nil.acquire hacquires ⟨rfl, rfl, id⟩
  · exact Holding.owes_nil.passOne ⟨rfl, rfl, rfl⟩
  · exact Holding.owes_nil.passOne ⟨rfl, rfl, rfl⟩
  · rfl
  · rfl
  · simp

theorem create (h : Holds none device es) (hhr : failed hr = false) :
    Holds (some ds) device (es ++ [.coCreateInstance hr ds]) := by
  have hcreates : createdSet (.coCreateInstance hr ds) = some ds :=
    if_neg (by rw [hhr]; exact Bool.false_ne_true)
  constructor
  · exact h.com.useOne ⟨rfl, rfl, id⟩ fun _ _ => List.mem_singleton.mpr rfl
  · exact h.sets.acquire hcreates ⟨rfl, rfl, by simp [setHolding]⟩
  · refine h.devices.useOne ⟨rfl, rfl, id⟩ fun x hx => ?_
    cases hx
  · have hreleased := h.released
    simp only [Option.toList_none, List.append_nil] at hreleased
    simp [hreleased, hcreates, List.filterMap_cons, releasedSet]
  · simpa [List.filterMap_cons, closedSet, releasedSet] using h.closed
  · simp [h.running]

theorem openDevice (h : Holds (some ds) none es) {name : String} (hhr : failed hr = false) :
    Holds (some ds) (some d) (es ++ [.openDevice ds name hr d]) := by
  have hopens : openedDevice (.openDevice ds name hr d) = some d :=
    if_neg (by rw [hhr]; exact Bool.false_ne_true)
  constructor
  · exact h.com.useOne ⟨rfl, rfl, id⟩ fun _ _ => List.mem_singleton.mpr rfl
  · refine h.sets.useOne ⟨rfl, rfl, by simp [setHolding]⟩ fun x hx => ?_
    cases hx
    exact List.mem_singleton.mpr rfl
  · exact h.devices.acquire hopens ⟨rfl, rfl, id⟩
  · simpa [List.filterMap_cons, createdSet, releasedSet] using h.released
  · simpa [List.filterMap_cons, closedSet, releasedSet] using h.closed
  · simp [h.running]

theorem releaseDevice (h : Holds set (some d) es) : Holds set none (es ++ [.deviceRelease d]) := by
  constructor
  · exact h.com.useOne ⟨rfl, rfl, id⟩ fun _ _ => List.mem_singleton.mpr rfl
  · refine h.sets.useOne ⟨rfl, rfl, by simp [setHolding]⟩ fun x hx => ?_
    cases hx
  · exact h.devices.release rfl rfl rfl id
  · simpa [List.filterMap_cons, createdSet, releasedSet] using h.released
  · simpa [List.filterMap_cons, closedSet, releasedSet] using h.closed
  · simp [h.running]

theorem closeSet (h : Holds (some ds) none es) :
    Holds none none (es ++ [.setClose ds, .setRelease ds]) := by
  constructor
  · refine h.com.use (fun e he => ?_) fun e he x hx => List.mem_singleton.mpr rfl
    rcases List.mem_pair.mp he with rfl | rfl <;> exact ⟨rfl, rfl, id⟩
  · have hclosed : setHolding.Owes [ds] (es ++ [.setClose ds]) := by
      refine h.sets.useOne ⟨rfl, rfl, by simp [setHolding]⟩ fun x hx => ?_
      cases hx
      exact List.mem_singleton.mpr rfl
    have hreleased := hclosed.release (e := .setRelease ds) rfl rfl rfl (by simp [setHolding])
    rwa [List.append_assoc] at hreleased
  · exact h.devices.pass fun e he => by
      rcases List.mem_pair.mp he with rfl | rfl <;> exact ⟨rfl, rfl, rfl⟩
  · simpa [List.filterMap_cons, createdSet, releasedSet] using h.released
  · simpa [List.filterMap_cons, closedSet, releasedSet] using h.closed
  · simp [h.running]

end Holds

/-! ## The stages of the session -/

/-- The text of the exception, if there is one. -/
def textsOf : Except String α → List String
  | .ok _ => []
  | .error text => [text]

/-- What the fields hold is what the trace owes, and `raised` is all that was raised. -/
structure Stands (raised : List String) (p : PyProcess ω) : Prop where
  holds : Holds p.deviceSet p.client.device (pyEvents p.actions)
  raised : raisedIn p.actions = raised
  printed : printedIn p.actions = []

/-- From a process that holds `set` and `device`, `x` leads to one that stands, whether it raises
or not; if not, its result and what is held then are as `Q` says. -/
def Lands (set : Option DeviceSet) (device : Option Device) (x : PyRun ω α)
    (Q : α → Option DeviceSet → Option Device → Prop) : Prop :=
  ∀ p, p.deviceSet = set → p.client.device = device → Stands [] p →
    Stands (textsOf (x.run.run p).1) (x.run.run p).2 ∧
      ∀ a, (x.run.run p).1 = .ok a → Q a (x.run.run p).2.deviceSet (x.run.run p).2.client.device

section Stages

variable {com : Com ω} {set : Option DeviceSet} {device : Option Device} {ds : DeviceSet}
  {β : Type} {p : PyProcess ω}

theorem Lands.bind {x : PyRun ω α} {f : α → PyRun ω β}
    {Q : α → Option DeviceSet → Option Device → Prop}
    {R : β → Option DeviceSet → Option Device → Prop} (hx : Lands set device x Q)
    (hf : ∀ a set' device', Q a set' device' → Lands set' device' (f a) R) :
    Lands set device (x >>= f) R := by
  intro p hset hdevice hp
  obtain ⟨hstands, hQ⟩ := hx p hset hdevice hp
  have hrun : (x >>= f).run.run p =
      ExceptT.bindCont f (x.run.run p).1 (x.run.run p).2 := rfl
  rw [hrun]
  generalize x.run.run p = ran at hstands hQ
  obtain ⟨result, mid⟩ := ran
  cases result with
  | error text => exact ⟨hstands, fun b h => by cases h⟩
  | ok a => exact hf a _ _ (hQ a rfl) mid rfl rfl hstands

/-- An assignment to other fields. -/
theorem assign_lands {f : PyProcess ω → PyProcess ω}
    (hf : ∀ p, (f p).deviceSet = p.deviceSet ∧ (f p).client = p.client ∧
      (f p).actions = p.actions) :
    Lands set device (Py.assign f) fun _ set' device' => set' = set ∧ device' = device := by
  intro p hset hdevice hp
  obtain ⟨hset', hclient, hactions⟩ := hf p
  have hrun : (Py.assign f).run.run p = (.ok (), f p) := rfl
  rw [hrun]
  refine ⟨⟨?_, ?_, ?_⟩, fun _ _ => ⟨hset'.trans hset, ?_⟩⟩
  · rw [hset', hclient, hactions]
    exact hp.holds
  · rw [hactions]
    exact hp.raised
  · rw [hactions]
    exact hp.printed
  · rw [hclient]
    exact hdevice

/-- What one call adds. -/
theorem Stands.add {e : Event} {raised : List String} (hp : Stands [] p) (q : PyProcess ω)
    (hactions : q.actions = p.actions ++ [.com e])
    (hholds : Holds q.deviceSet q.client.device (pyEvents p.actions ++ [e]))
    (hraised : (PyAction.com e).raised.toList = raised) : Stands raised q := by
  constructor
  · rw [hactions, pyEvents_append]
    exact hholds
  · rw [hactions, raisedIn_append, hp.raised, List.nil_append, ← hraised]
    unfold raisedIn
    cases h : (PyAction.com e).raised <;> simp [h]
  · rw [hactions, printedIn_append, hp.printed]
    rfl

theorem pyComCall_run {answer : ω → α × ω} {event : α → Event} {f : α → PyRun ω β} :
    (Py.comCall answer event >>= f).run.run p =
      (f (answer p.world).1).run.run (p.comCall answer event).2 := rfl

/-- A call on what is held, whose failure is raised. -/
theorem request_lands {answer : ω → HResult × ω} {event : HResult → Event}
    {text : HResult → String} {k : PyRun ω α} {Q : α → Option DeviceSet → Option Device → Prop}
    (hkeeps : ∀ hr, (event hr).Keeps) (hset : ∀ hr x, usedSet (event hr) = some x → set = some x)
    (hdevice : ∀ hr, usedDevice (event hr) = none)
    (hraised : ∀ hr, (PyAction.com (event hr)).raised = if failed hr then some (text hr) else none)
    (hk : Lands set device k Q) :
    Lands set device
      (do
        let hr ← Py.comCall answer event
        if pyFailed (longOfHResult hr) then throw (text hr) else k) Q := by
  intro p hset' hdevice' hp
  subst hset' hdevice'
  have hholds := hp.holds.call (hkeeps (answer p.world).1) (hset _) fun x hx => by
    rw [hdevice] at hx
    cases hx
  rw [pyComCall_run]
  by_cases hfailed : failed (answer p.world).1 = true
  · rw [pyFailed_longOfHResult, if_pos hfailed]
    refine ⟨hp.add (p.comCall answer event).2 rfl hholds ?_, fun a h => by cases h⟩
    rw [hraised, if_pos hfailed]
    rfl
  · rw [pyFailed_longOfHResult, if_neg hfailed]
    refine hk (p.comCall answer event).2 rfl rfl (hp.add _ rfl hholds ?_)
    rw [hraised, if_neg hfailed]
    rfl

/-- A call that hands out a reference, which is then stored; its failure is raised. -/
theorem acquire_lands {answer : ω → (HResult × β) × ω} {event : HResult × β → Event}
    (text : HResult → String) (f : β → PyProcess ω → PyProcess ω)
    (set' : β → Option DeviceSet) (device' : β → Option Device)
    (hok : ∀ r es, failed r.1 = false → Holds set device es →
      Holds (set' r.2) (device' r.2) (es ++ [event r]))
    (hfail : ∀ r es, failed r.1 = true → Holds set device es → Holds set device (es ++ [event r]))
    (hraised : ∀ r, (PyAction.com (event r)).raised =
      if failed r.1 then some (text r.1) else none)
    (hf : ∀ b q, q.deviceSet = set → q.client.device = device →
      (f b q).deviceSet = set' b ∧ (f b q).client.device = device' b ∧
        (f b q).actions = q.actions) :
    Lands set device
      (do
        let r ← Py.comCall answer event
        if pyFailed (longOfHResult r.1) then throw (text r.1) else Py.assign (f r.2))
      fun _ set'' device'' => ∃ b, set'' = set' b ∧ device'' = device' b := by
  intro p hset hdevice hp
  subst hset hdevice
  rw [pyComCall_run]
  by_cases hfailed : failed (answer p.world).1.1 = true
  · rw [pyFailed_longOfHResult, if_pos hfailed]
    refine ⟨hp.add (p.comCall answer event).2 rfl (hfail _ _ hfailed hp.holds) ?_,
      fun a h => by cases h⟩
    rw [hraised, if_pos hfailed]
    rfl
  · rw [pyFailed_longOfHResult, if_neg hfailed]
    obtain ⟨hset', hdevice', hactions⟩ :=
      hf (answer p.world).1.2 (p.comCall answer event).2 rfl rfl
    have hholds := hok _ _ (Bool.eq_false_iff.mpr hfailed) hp.holds
    rw [← hset', ← hdevice'] at hholds
    refine ⟨hp.add (f _ (p.comCall answer event).2) hactions hholds ?_, fun _ _ =>
      ⟨_, hset', hdevice'⟩⟩
    rw [hraised, if_neg hfailed]
    rfl

/-- What the fields hold is read, not changed. -/
theorem self_lands {f : PyProcess ω → PyRun ω α} {Q : α → Option DeviceSet → Option Device → Prop}
    (hf : ∀ p, p.deviceSet = set → p.client.device = device → Lands set device (f p) Q) :
    Lands set device (Py.self >>= f) Q :=
  fun p hset hdevice hp => hf p hset hdevice p hset hdevice hp

theorem createDeviceSet_lands :
    Lands none none (Py.createDeviceSet com)
      fun _ set' device' => ∃ ds, set' = some ds ∧ device' = none := by
  have hfail (r : HResult × DeviceSet) (es : List Event) (hhr : failed r.1 = true)
      (h : Holds none none es) : Holds none none (es ++ [.coCreateInstance r.1 r.2]) := by
    refine h.call ⟨⟨rfl, rfl⟩, ⟨if_pos hhr, rfl, rfl⟩, ⟨rfl, rfl, id⟩, by simp⟩ ?_ ?_
    · intro x hx
      cases hx
    · intro x hx
      cases hx
  exact acquire_lands
    (callFailed "CoCreateInstance(CLSID_MSSQL_ClientVirtualDeviceSet)" · "")
    (fun ds q => { q with deviceSet := some ds }) some (fun _ => none)
    (fun r es hhr h => h.create hhr) hfail (fun r => rfl) fun ds q _ hdevice => ⟨rfl, hdevice, rfl⟩

theorem connect_lands {name : String} {count : Nat} :
    Lands none none (Py.connect com name count)
      fun _ set' device' => ∃ ds, set' = some ds ∧ device' = none := by
  have hassign (p : PyProcess ω) :
      p.deviceSet = p.deviceSet ∧ p.client = p.client ∧ p.actions = p.actions :=
    ⟨rfl, rfl, rfl⟩
  refine Lands.bind (assign_lands hassign) fun _ set' device' h => ?_
  obtain ⟨rfl, rfl⟩ := h
  refine createDeviceSet_lands.bind fun _ set' device' h => ?_
  obtain ⟨ds, rfl, rfl⟩ := h
  refine self_lands fun p hset _ => ?_
  rw [hset]
  refine request_lands (fun hr => ?_) (fun hr x hx => ?_) (fun hr => rfl) (fun hr => ?_) ?_
  · exact ⟨⟨rfl, rfl⟩, ⟨rfl, rfl, rfl⟩, ⟨rfl, rfl, id⟩, by simp⟩
  · exact hx
  · rw [createExHint_eq]
    rfl
  · exact fun p hset hdevice hp => ⟨hp, fun _ _ => ⟨ds, hset, hdevice⟩⟩

theorem readLine_lands {host : PyHost ω} :
    Lands set device (Py.readLine host) fun _ set' device' => set' = set ∧ device' = device := by
  intro p hset hdevice hp
  have hevents : pyEvents (p.actions ++ [.input (host.input p.world).1]) = pyEvents p.actions := by
    rw [pyEvents_append]
    exact List.append_nil _
  have hprinted : printedIn (p.actions ++ [.input (host.input p.world).1]) = [] := by
    rw [printedIn_append, hp.printed]
    rfl
  have hraised : raisedIn (p.actions ++ [.input (host.input p.world).1]) =
      textsOf ((Py.readLine host).run.run p).1 := by
    rw [raisedIn_append, hp.raised, List.nil_append]
    change List.filterMap _ [_] = textsOf (if (host.input p.world).1 then _ else _)
    cases (host.input p.world).1 <;> rfl
  refine ⟨⟨?_, hraised, hprinted⟩, fun _ _ => ⟨hset, hdevice⟩⟩
  change Holds p.deviceSet p.client.device (pyEvents (p.actions ++ _))
  rw [hevents]
  exact hp.holds

theorem openDevices_lands :
    Lands (some ds) none (Py.openDevices com)
      fun _ set' device' => ∃ d, set' = some ds ∧ device' = some d := by
  refine self_lands fun p hset _ => ?_
  rw [hset]
  refine request_lands (fun hr => ?_) (fun hr x hx => hx) (fun hr => rfl) (fun hr => ?_) ?_
  · exact ⟨⟨rfl, rfl⟩, ⟨rfl, rfl, rfl⟩, ⟨rfl, rfl, id⟩, by simp⟩
  · rw [getConfigurationHint_eq]
    rfl
  have hfail (r : HResult × Device) (es : List Event) (hhr : failed r.1 = true)
      (h : Holds (some ds) none es) :
      Holds (some ds) none (es ++ [.openDevice ds p.deviceName r.1 r.2]) := by
    refine h.call ⟨⟨rfl, rfl⟩, ⟨rfl, rfl, rfl⟩, ⟨if_pos hhr, rfl, id⟩, by simp⟩ (fun x hx => hx) ?_
    intro x hx
    cases hx
  exact acquire_lands (callFailed "OpenDevice" · "")
    (fun d q => { q with client := { q.client with device := some d } })
    (fun _ => some ds) some (fun r es hhr h => h.openDevice hhr) hfail (fun r => rfl)
    fun d q hset _ => ⟨hset, rfl, rfl⟩

/-! ## The command loop -/

/-- The device a call is made on. -/
def DeviceCall.on : DeviceCall → Device
  | .getCommand device .. | .completeCommand device .. => device

theorem processWrite_device (client : PyVdiClient) (cmd : VdcCommand) :
    (client.processWrite cmd).device = client.device := by
  unfold PyVdiClient.processWrite PyVdiClient.simulateBufferPool PyVdiClient.poolAcquire
  split
  · rename_i h
    split at h
    · cases h
      rfl
    · cases h
  · rename_i h
    split at h
    · cases h
    · cases h
      unfold PyVdiClient.poolRelease
      split <;> rfl

/-- The client serves `d`, and has called nothing else. -/
def Serving (d : Device) (m : PyMachine ω) : Prop :=
  m.client.device = some d ∧ ∀ call ∈ m.calls, call.on = d

theorem Serving.call {d : Device} {m : PyMachine ω} (h : Serving d m) {answer : ω → α × ω}
    (call : α → DeviceCall) (hon : ∀ a, (call a).on = d) :
    Serving d ((Py.deviceCall answer call).run m).2 := by
  refine ⟨h.1, List.forall_mem_append.mpr ⟨h.2, ?_⟩⟩
  intro c hc
  rw [List.mem_singleton.mp hc]
  exact hon _

theorem loopBody_serving (com : Com ω) {d : Device} {m : PyMachine ω} (h : Serving d m) :
    Serving d ((Py.loopBody com d).run m).2 := by
  have hget : Serving d ((Py.getCmd com d).run m).2 := h.call _ fun _ => rfl
  have hcomplete (cmd : VdcCommand) (m : PyMachine ω) (h : Serving d m) :
      Serving d ((Py.completeCmd com d cmd).run m).2 :=
    h.call (fun r : HResult × VdcCommand =>
      .completeCommand d cmd errorSuccess cmd.size cmd.position r.1) fun _ => rfl
  unfold Py.loopBody
  change Serving d (StateT.run (m := Id) (if _ then _ else _) ((Py.getCmd com d).run m).2).2
  generalize ((Py.getCmd com d).run m).2 = mid at hget
  split
  · exact hget
  split
  · exact hget
  rename_i cmd _
  split
  · have hwritten : Serving d ((Py.update (·.processWrite cmd)).run mid).2 :=
      ⟨(processWrite_device _ _).trans hget.1, hget.2⟩
    exact hcomplete cmd _ hwritten
  split
  · exact hcomplete cmd _ hget
  split
  · exact hget
  · exact hcomplete cmd _ hget

/-- The loop raises nothing and calls only its device. -/
theorem runPyCommands_serving (com : Com ω) {d : Device} {client : PyVdiClient} (fuel : Nat)
    (world : ω) (hdevice : client.device = some d) :
    textsOf (runPyCommands com fuel client world).1 = [] ∧
      Serving d (runPyCommands com fuel client world).2 := by
  have hstart : Serving d { client, world : PyMachine ω } := ⟨hdevice, by simp⟩
  have hloop := whileFuel_preserves (fun s => loopBody_serving com) fuel hstart
  change Serving d (whileFuel (Py.loopBody com d) fuel _).2 at hloop
  unfold runPyCommands
  change textsOf (Py.processCommands com fuel { client, world }).1 = [] ∧
    Serving d (Py.processCommands com fuel { client, world }).2
  unfold Py.processCommands
  simp only [hdevice]
  generalize whileFuel (Py.loopBody com d) fuel { client, world } = ran at hloop
  obtain ⟨flow, m⟩ := ran
  cases flow <;> exact ⟨rfl, hloop⟩

theorem DeviceCall.event_keeps (call : DeviceCall) : call.event.Keeps := by
  cases call <;> exact ⟨⟨rfl, rfl⟩, ⟨rfl, rfl, rfl⟩, ⟨rfl, rfl, id⟩, by simp [DeviceCall.event]⟩

theorem serve_run {fuel : Nat} {r : Except String Bool} {m : PyMachine ω}
    (h : runPyCommands com fuel p.client p.world = (r, m)) :
    (Py.serve com fuel).run.run p = (r, { p with
      client := m.client
      world := m.world
      actions := p.actions ++ m.calls.map fun call => .com call.event }) := by
  unfold Py.serve
  change ((runPyCommands com fuel p.client p.world).1, _) = _
  rw [h]

theorem serve_lands {d : Device} {fuel : Nat} :
    Lands set (some d) (Py.serve com fuel) fun _ set' device' => set' = set ∧ device' = some d := by
  intro p hset hdevice hp
  obtain ⟨htexts, hclient, hcalls⟩ := runPyCommands_serving com fuel p.world hdevice
  generalize hrun : runPyCommands com fuel p.client p.world = ran at htexts hclient hcalls
  rw [serve_run hrun, com_calls]
  refine ⟨⟨?_, ?_, ?_⟩, fun _ _ => ⟨hset, hclient⟩⟩
  · have h := hp.holds
    rw [hset, hdevice] at h
    change Holds p.deviceSet ran.2.client.device _
    rw [hset, hclient, pyEvents_append, pyEvents_com]
    refine h.use (fun e he => ?_) (fun e he x hx => ?_) fun e he x hx => ?_ <;>
      obtain ⟨call, hmem, rfl⟩ := List.mem_map.mp he
    · exact call.event_keeps
    · cases call <;> cases hx
    · have hon := hcalls call hmem
      cases call <;> cases hx <;> exact List.mem_singleton.mpr hon
  · rw [raisedIn_append, hp.raised, htexts]
    apply List.filterMap_eq_nil_iff.mpr
    intro a ha
    obtain ⟨e, he, rfl⟩ := List.mem_map.mp ha
    obtain ⟨call, -, rfl⟩ := List.mem_map.mp he
    cases call <;> rfl
  · rw [printedIn_append, hp.printed, printedIn_com]
    rfl

theorem session_lands {host : PyHost ω} {name : String} {fuel : Nat} :
    Lands none none (Py.session host name fuel)
      fun _ set' device' => set'.isSome ∧ device'.isSome := by
  refine connect_lands.bind fun _ set' device' h => ?_
  obtain ⟨ds, rfl, rfl⟩ := h
  refine readLine_lands.bind fun _ set' device' h => ?_
  obtain ⟨rfl, rfl⟩ := h
  refine openDevices_lands.bind fun _ set' device' h => ?_
  obtain ⟨d, rfl, rfl⟩ := h
  intro p hset hdevice hp
  obtain ⟨hstands, hheld⟩ := serve_lands p hset hdevice hp
  refine ⟨hstands, fun a ha => ?_⟩
  obtain ⟨hset', hdevice'⟩ := hheld a ha
  rw [hset', hdevice']
  exact ⟨rfl, rfl⟩

/-! ## Leaving -/

/-- A stretch of calls that raises and prints nothing. -/
structure Quiet (p p' : PyProcess ω) (es : List Event) : Prop where
  events : pyEvents p'.actions = pyEvents p.actions ++ es
  raised : raisedIn p'.actions = raisedIn p.actions
  printed : printedIn p'.actions = printedIn p.actions

theorem quiet_of_actions {p p' : PyProcess ω} {es : List Event}
    (hactions : p'.actions = p.actions ++ es.map .com)
    (hes : ∀ e ∈ es, (PyAction.com e).raised = none) : Quiet p p' es := by
  have hraised : raisedIn (es.map .com) = [] := List.filterMap_eq_nil_iff.mpr fun a ha => by
    obtain ⟨e, he, rfl⟩ := List.mem_map.mp ha
    exact hes e he
  constructor
  · rw [hactions, pyEvents_append, pyEvents_com]
  · rw [hactions, raisedIn_append, hraised, List.append_nil]
  · rw [hactions, printedIn_append, printedIn_com, List.append_nil]

theorem Quiet.trans {p p' p'' : PyProcess ω} {es es' : List Event} (h : Quiet p p' es)
    (h' : Quiet p' p'' es') : Quiet p p'' (es ++ es') := by
  constructor
  · rw [h'.events, h.events, List.append_assoc]
  · rw [h'.raised, h.raised]
  · rw [h'.printed, h.printed]

theorem closeDevice_holds (com : Com ω)
    (h : Holds p.deviceSet p.client.device (pyEvents p.actions)) :
    ∃ p' es, (Py.closeDevice com).run p = ((), p') ∧ Quiet p p' es ∧
      p'.client.device = none ∧ Holds p'.deviceSet none (pyEvents p'.actions) := by
  unfold Py.closeDevice StateT.run
  cases hdevice : p.client.device with
  | none =>
      rw [hdevice] at h
      refine ⟨p, [], ?_, quiet_of_actions (List.append_nil _).symm (by simp), hdevice, h⟩
      simp only [hdevice]
  | some d =>
      rw [hdevice] at h
      simp only [hdevice]
      refine ⟨_, [.deviceRelease d], rfl, quiet_of_actions rfl (by simp [PyAction.raised]), rfl, ?_⟩
      change Holds p.deviceSet none (pyEvents (p.actions ++ [.com (.deviceRelease d)]))
      rw [pyEvents_append]
      exact h.releaseDevice

theorem closeDeviceSet_holds (com : Com ω) (h : Holds p.deviceSet none (pyEvents p.actions)) :
    ∃ p' es, (Py.closeDeviceSet com).run p = ((), p') ∧ Quiet p p' es ∧
      p'.client = p.client ∧ p'.deviceSet = none ∧ Holds none none (pyEvents p'.actions) := by
  unfold Py.closeDeviceSet StateT.run
  cases hset : p.deviceSet with
  | none =>
      rw [hset] at h
      refine ⟨p, [], ?_, quiet_of_actions (List.append_nil _).symm (by simp), rfl, hset, h⟩
      simp only [hset]
  | some ds =>
      rw [hset] at h
      simp only [hset]
      refine ⟨_, [.setClose ds, .setRelease ds], rfl,
        quiet_of_actions (List.append_assoc ..) (by simp [PyAction.raised]), rfl, rfl, ?_⟩
      change Holds none none
        (pyEvents (p.actions ++ [.com (.setClose ds)] ++ [.com (.setRelease ds)]))
      rw [List.append_assoc, pyEvents_append]
      exact h.closeSet

/-- `close` gives back what is held. -/
theorem close_holds (com : Com ω) (h : Holds p.deviceSet p.client.device (pyEvents p.actions)) :
    ∃ p' es, (Py.close com).run p = ((), p') ∧ Quiet p p' es ∧
      Holds p'.deviceSet p'.client.device (pyEvents p'.actions) ∧
      p'.deviceSet = none ∧ p'.client.device = none := by
  obtain ⟨mid, es, hrun, hquiet, hdevice, hmid⟩ := closeDevice_holds com h
  obtain ⟨p', es', hrun', hquiet', hclient, hset, hholds⟩ :=
    closeDeviceSet_holds com hmid
  have hdevice' : p'.client.device = none := by rw [hclient, hdevice]
  refine ⟨p', es ++ es', ?_, hquiet.trans hquiet', ?_, hset, hdevice'⟩
  · change (Py.closeDeviceSet com).run ((Py.closeDevice com).run p).2 = _
    rw [hrun, hrun']
  · rw [hset, hdevice']
    exact hholds

/-- Where the trace owes only `CoUninitialize`, everything is in order once it is called. -/
structure GivenBack (es : List Event) : Prop where
  device : DeviceDiscipline es
  set : SetDiscipline es
  com : ComOutlives es
  balanced : apartment.Free es

theorem Holds.leave {es : List Event} (h : Holds none none es) : GivenBack (es ++ [.coUninit]) := by
  have hcom : apartment.Owes [] (es ++ [.coUninit]) := h.com.release rfl rfl rfl id
  have hset : setHolding.Owes [] (es ++ [.coUninit]) := h.sets.passOne ⟨rfl, rfl, rfl⟩
  have hdevice : deviceHolding.Owes [] (es ++ [.coUninit]) := h.devices.passOne ⟨rfl, rfl, rfl⟩
  have hreleased : SetsReleased es := by
    have hreleased := h.released
    rw [Option.toList_none, List.append_nil] at hreleased
    exact hreleased.symm
  refine ⟨⟨hdevice.careful, hdevice.free⟩, ⟨hset.careful, hset.free, ?_⟩, ⟨hcom.careful, ?_⟩,
    hcom.free⟩
  · rw [List.filterMap_append, List.filterMap_append, h.closed, hreleased]
    rfl
  · refine always_append.mpr ⟨?_, always_cons.mpr ⟨fun _ => ?_, always_nil⟩⟩
    · exact always_of_forall fun pre e he heq => absurd (heq ▸ he) h.running
    · rwa [List.append_nil]

theorem del_holds (com : Com ω) (h : Holds p.deviceSet p.client.device (pyEvents p.actions)) :
    ∃ p' es, (Py.del com).run p = ((), p') ∧ Quiet p p' es ∧ GivenBack (pyEvents p'.actions) := by
  obtain ⟨mid, es, hrun, hquiet, hholds, hset, hdevice⟩ := close_holds com h
  rw [hset, hdevice] at hholds
  have hlast : Quiet mid (mid.comCall (fun w => ((), com.coUninit w)) fun _ => .coUninit).2
      [.coUninit] := quiet_of_actions rfl (by simp [PyAction.raised])
  have hdel : (Py.del com).run p =
      ((Py.close com).run p).2.comCall (fun w => ((), com.coUninit w)) fun _ => .coUninit := rfl
  refine ⟨_, es ++ [.coUninit], ?_, hquiet.trans hlast, ?_⟩
  · rw [hdel, hrun]
  · rw [hlast.events]
    exact hholds.leave

/-- `finally` and `__del__`. -/
theorem closeDel_holds (com : Com ω) (h : Holds p.deviceSet p.client.device (pyEvents p.actions)) :
    ∃ p' es, (Py.del com).run ((Py.close com).run p).2 = ((), p') ∧ Quiet p p' es ∧
      GivenBack (pyEvents p'.actions) := by
  obtain ⟨mid, es, hrun, hquiet, hholds, -, -⟩ := close_holds com h
  obtain ⟨p', es', hrun', hquiet', hgiven⟩ := del_holds com hholds
  rw [hrun]
  exact ⟨p', es ++ es', hrun', hquiet.trans hquiet', hgiven⟩

/-! ## The exit code -/

/-- What `main` prints of an exception. -/
def errorLine (text : String) : String := "\nERROR: " ++ text ++ "\n"

/-- The exit code is 1 if there was an exception, which is printed, and 0 if not. -/
def Reported (code : Int) (acts : List PyAction) : Prop :=
  (code = 0 ∧ raisedIn acts = [] ∧ printedIn acts = []) ∨
    (code = 1 ∧ ∃ text, raisedIn acts = [text] ∧ printedIn acts = [errorLine text])

theorem Reported.quiet {code : Int} {p p' : PyProcess ω} {es : List Event}
    (h : Reported code p.actions) (hquiet : Quiet p p' es) : Reported code p'.actions := by
  unfold Reported
  rw [hquiet.raised, hquiet.printed]
  exact h

/-- The handler of `Exception`. -/
theorem caught_reported {result : Except String Bool} {code : Int} {p' : PyProcess ω}
    (hraised : raisedIn p.actions = textsOf result) (hprinted : printedIn p.actions = [])
    (hrun : (Py.caught result).run p = (some code, p')) :
    Reported code p'.actions ∧ p'.deviceSet = p.deviceSet ∧ p'.client = p.client ∧
      pyEvents p'.actions = pyEvents p.actions := by
  cases result with
  | ok returned =>
      cases returned with
      | false => cases hrun
      | true =>
          cases hrun
          exact ⟨.inl ⟨rfl, hraised, hprinted⟩, rfl, rfl, rfl⟩
  | error text =>
      cases hrun
      refine ⟨.inr ⟨rfl, text, ?_, ?_⟩, rfl, rfl, ?_⟩
      · rw [raisedIn_append, hraised]
        rfl
      · rw [printedIn_append, hprinted]
        rfl
      · rw [pyEvents_append]
        exact List.append_nil _

end Stages

section Program

variable {host : PyHost ω} {name : String} {fuel : Nat} {p p' : PyProcess ω} {code : Int}

theorem pyMain_bind {x : StateM (PyProcess ω) α} {β : Type} {f : α → StateM (PyProcess ω) β}
    {b : β} (h : (x >>= f).run p = (b, p')) :
    ∃ a mid, x.run p = (a, mid) ∧ (f a).run mid = (b, p') :=
  ⟨(x.run p).1, (x.run p).2, rfl, h⟩

/-- The `try` statement once the client is constructed, and its end. -/
theorem session_exit (hp : Stands [] p) (hset : p.deviceSet = none)
    (hdevice : p.client.device = none)
    (hrun : (do
      let result ← (Py.session host name fuel).run
      let code ← Py.caught result
      if code.isSome then
        Py.close host.com
        Py.del host.com
        return code
      else return none : StateM (PyProcess ω) (Option Int)).run p = (some code, p')) :
    Reported code p'.actions ∧ GivenBack (pyEvents p'.actions) := by
  obtain ⟨result, mid, hsession, hrun⟩ := pyMain_bind hrun
  have hstands : Stands (textsOf result) mid := by
    have hlands : Lands none none (Py.session host name fuel)
        fun _ set' device' => set'.isSome ∧ device'.isSome := session_lands
    have hstands := (hlands p hset hdevice hp).1
    rwa [show (Py.session host name fuel).run.run p = (result, mid) from hsession] at hstands
  obtain ⟨code', handled, hcaught, hrun⟩ := pyMain_bind hrun
  cases code' with
  | none =>
      cases hrun
  | some code' =>
      rw [if_pos Option.isSome_some] at hrun
      obtain ⟨_, closed, hclose, hrun⟩ := pyMain_bind hrun
      obtain ⟨_, left, hdel, hrun⟩ := pyMain_bind hrun
      cases hrun
      obtain ⟨hreported, hset', hclient, hevents⟩ :=
        caught_reported hstands.raised hstands.printed hcaught
      have hholds := hstands.holds
      rw [← hset', ← hclient, ← hevents] at hholds
      obtain ⟨left', es, hleft, hquiet, hgiven⟩ := closeDel_holds host.com hholds
      rw [hclose, hdel] at hleft
      cases hleft
      exact ⟨hreported.quiet hquiet, hgiven⟩

/-- Where the constructor raised, `__del__` has only `CoUninitialize` to call. -/
theorem del_empty {com : Com ω} (hset : p.deviceSet = none) (hdevice : p.client.device = none) :
    (Py.del com).run p = p.comCall (fun w => ((), com.coUninit w)) fun _ => .coUninit := by
  obtain ⟨client, set, deviceName, count, world, acts⟩ := p
  obtain ⟨metrics, device, pool⟩ := client
  cases hset
  cases hdevice
  rfl

theorem main_exit (hactions : p.actions = []) (hset : p.deviceSet = none)
    (hdevice : p.client.device = none)
    (hrun : (Py.main host name fuel).run p = (some code, p')) :
    Reported code p'.actions ∧ (GivenBack (pyEvents p'.actions) ∨
      ∃ hr, failed hr = true ∧ pyEvents p'.actions = [.coInitializeEx hr, .coUninit]) := by
  obtain ⟨constructed, mid, hinit, hrun⟩ := pyMain_bind hrun
  have hmid : (Py.init host.com).run.run p = (constructed, mid) := hinit
  unfold Py.init at hmid
  rw [pyComCall_run, pyFailed_longOfHResult] at hmid
  have hactions' : (p.comCall host.com.coInitializeEx .coInitializeEx).2.actions =
      [.com (.coInitializeEx (host.com.coInitializeEx p.world).1)] :=
    congrArg (· ++ _) hactions
  cases hfailed : failed (host.com.coInitializeEx p.world).1 with
  | true =>
      rw [if_pos hfailed] at hmid
      cases hmid
      obtain ⟨code', handled, hcaught, hrun⟩ := pyMain_bind hrun
      obtain ⟨_, left, hdel, hrun⟩ := pyMain_bind hrun
      cases hrun
      obtain ⟨hreported, hset', hclient, hevents⟩ := caught_reported
        (by rw [hactions']; simp [raisedIn, PyAction.raised, hfailed, textsOf])
        (by rw [hactions']; rfl) hcaught
      rw [del_empty (hset'.trans hset) ((congrArg _ hclient).trans hdevice)] at hdel
      cases hdel
      have hquiet : Quiet handled
          (handled.comCall (fun w => ((), host.com.coUninit w)) fun _ => .coUninit).2
          [.coUninit] := quiet_of_actions rfl (by simp [PyAction.raised])
      refine ⟨hreported.quiet hquiet, .inr ⟨_, hfailed, hquiet.events.trans ?_⟩⟩
      rw [hevents, hactions']
      rfl
  | false =>
      rw [hfailed] at hmid
      cases hmid
      have hstands : Stands [] (p.comCall host.com.coInitializeEx .coInitializeEx).2 := by
        constructor
        · change Holds p.deviceSet p.client.device _
          rw [hactions', hset, hdevice]
          exact Holds.start hfailed
        · rw [hactions']
          simp [raisedIn, PyAction.raised, hfailed]
        · rw [hactions']
          rfl
      obtain ⟨hreported, hgiven⟩ := session_exit hstands hset hdevice hrun
      exact ⟨hreported, .inl hgiven⟩

end Program

section Program

variable (host : PyHost ω) (world : ω) (fuel : Nat) (args : List String)

/-- **Leaving the Python program.**  Whatever surrounds it, whatever its arguments and however its
session went: `main` returns 1 if something was raised, and prints just that, without a hint; it
returns 0 if nothing was, however the command loop ended.  The device is released before the set is
closed, the set, even one that `CreateEx` rejected, is closed and released before `CoUninitialize`,
and each of it exactly once.  Only `CoUninitialize` itself is one too many if `CoInitializeEx`
failed. -/
theorem runPyMain_exit (code : Int) (hcode : (runPyMain host world fuel args).1 = some code) :
    let acts := (runPyMain host world fuel args).2.actions
    Reported code acts ∧ (GivenBack (pyEvents acts) ∨
      ∃ hr, failed hr = true ∧ pyEvents acts = [.coInitializeEx hr, .coUninit]) :=
  main_exit rfl rfl rfl (Prod.ext hcode rfl)

end Program

/-- A server that follows `script` once a line is typed in. -/
def scriptHost (script : Script) : PyHost ScriptState where
  com := script.com
  pid := 4711
  input := fun _ => (true, script.start)

theorem runPyMain_exit_shortScript :
    let acts :=
      (runPyMain (scriptHost shortScript) { answers := [], completed := 0 } 4 []).2.actions
    Reported 0 acts ∧ (GivenBack (pyEvents acts) ∨
      ∃ hr, failed hr = true ∧ pyEvents acts = [.coInitializeEx hr, .coUninit]) :=
  runPyMain_exit (scriptHost shortScript) { answers := [], completed := 0 } 4 [] 0
    (by decide +kernel)

end Vdi
