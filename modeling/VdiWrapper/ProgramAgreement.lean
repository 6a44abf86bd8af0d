import VdiWrapper.PyProgramLife
import VdiWrapper.SinkChoice

/-!
# The two programs

The benchmark runs `main` of `src/main.cpp` and `main` of `run_py_benchmark.py` against the same SQL
Server and compares their numbers.  Where the server plays an admissible script to whoever has asked
for a backup, the two programs say the same to the device, report the same counters and leave with
the same code, whatever sink the C++ program was given (`benchmark_agrees`).
-/

namespace Vdi

open Runs

variable {σ : Type} {script : Script}

/-! ## The C++ program -/

/-- Once it is asked for a backup, SQL Server begins the script. -/
structure Host.Begins (host : Host ScriptState) (script : Script) : Prop where
  com : host.com = script.com
  wsystem : ∀ cmdline w, (host.wsystem cmdline w).2 = script.start
  cinGet : ∀ w, host.cinGet w = script.start

section Calls

variable {clock : Nat → UInt64} {sink : Sink σ} {m m' : Machine ScriptState σ}

/-- On the scripted server `connect` succeeds, and does not speak to the device. -/
theorem connect_script {name : String} {ok : Bool} (hinit : m.client.state = .init)
    (h : (connect ⟨script.com, sink, clock⟩ name 1).run m = (ok, m')) :
    ok = true ∧
      m'.client = { m.client with
        deviceName := name, deviceCount := 1, deviceSet := some 0, state := .connected } ∧
      m'.outside = m.outside ∧ deviceCallsOf m'.trace = deviceCallsOf m.trace := by
  obtain ⟨client, outside, trace⟩ := m
  obtain ⟨⟩ := client
  cases hinit
  cases h
  refine ⟨rfl, rfl, rfl, ?_⟩
  change deviceCallsOf (trace ++ [.coInitializeEx sOk] ++ [.coCreateInstance sOk 0] ++
    [.createEx 0 name (vdConfig 1) sOk] ++ [.transition .init .connected] ++ [.coUninit]) = _
  simp only [deviceCallsOf_snoc, Event.deviceCall, Option.toList_none, List.append_nil]

/-- So does `open_devices`, which only waits for the configuration. -/
theorem openDevices_script {ds : DeviceSet} {ok : Bool} (hconnected : m.client.state = .connected)
    (hset : m.client.deviceSet = some ds)
    (h : (openDevices ⟨script.com, sink, clock⟩).run m = (ok, m')) :
    ok = true ∧ m'.client = { m.client with state := .streaming } ∧ m'.outside = m.outside ∧
      deviceCallsOf m'.trace = deviceCallsOf m.trace := by
  obtain ⟨client, outside, trace⟩ := m
  obtain ⟨⟩ := client
  cases hconnected
  cases hset
  cases h
  refine ⟨rfl, rfl, rfl, ?_⟩
  change deviceCallsOf (trace ++ [.getConfiguration ds 60000 sOk] ++
    [.transition .connected .streaming]) = _
  simp only [deviceCallsOf_snoc, Event.deviceCall, Option.toList_none, List.append_nil]

theorem deviceCallsOf_append (es es' : List Event) :
    deviceCallsOf (es ++ es') = deviceCallsOf es ++ deviceCallsOf es' :=
  List.filterMap_append

/-- What is called while nothing is served. -/
theorem deviceCallsOf_append_none {es es' : List Event} (h : ∀ e ∈ es', e.deviceCall = none) :
    deviceCallsOf (es ++ es') = deviceCallsOf es := by
  rw [deviceCallsOf_append, show deviceCallsOf es' = [] from List.filterMap_eq_nil_iff.mpr h,
    List.append_nil]

/-- What follows the command loop calls neither `GetCommand` nor `CompleteCommand`. -/
theorem Event.AfterLoop.deviceCall {e : Event} (h : e.AfterLoop) : e.deviceCall = none := by
  cases e <;> first | exact h.elim | rfl

end Calls

/-- A stretch in which the client counts nothing and does not speak to the device. -/
structure Mute (p p' : Process ScriptState) : Prop where
  metrics : p'.machine.client.metrics = p.machine.client.metrics
  calls : deviceCallsOf p'.machine.trace = deviceCallsOf p.machine.trace

/-- Silence followed by silence. -/
theorem Mute.trans {p p' p'' : Process ScriptState} (h : Mute p p') (h' : Mute p' p'') :
    Mute p p'' :=
  ⟨h'.metrics.trans h.metrics, h'.calls.trans h.calls⟩

section Host

variable {host : Host ScriptState} {p p' : Process ScriptState}

/-- The trace of a stretch says whether it is mute. -/
theorem mute_of_performs {es : List Event} (performs : Performs host p (es.map .client) p')
    (hmetrics : p'.machine.client.metrics = p.machine.client.metrics)
    (hes : ∀ e ∈ es, e.deviceCall = none) : Mute p p' := by
  refine ⟨hmetrics, ?_⟩
  rw [performs.trace, clientEvents_map_client]
  exact deviceCallsOf_append_none hes

/-- Closing counts nothing. -/
theorem callClose_mute {u : Unit} (h : (call (close host.env)).run p = (u, p')) : Mute p p' := by
  obtain ⟨es, performs, run⟩ := callClose_run h
  generalize hc : p.machine.client = c at run
  generalize hc' : p'.machine.client = c' at run
  cases run with
  | closedAgain => exact mute_of_performs performs (by rw [hc, hc']) (by simp)
  | close =>
      exact mute_of_performs performs (by rw [hc, hc']; rfl)
        fun e he => (closing_afterLoop e he).deviceCall

/-- Nor does the destructor, nor that of the sink. -/
theorem leaveMain_mute {u : Unit} (h : (leaveMain host).run p = (u, p')) : Mute p p' := by
  obtain ⟨es, mid, performs, run, rfl⟩ := leaveMain_run h
  generalize hc : p.machine.client = c at run
  generalize hc' : mid.machine.client = c' at run
  have hmid : Mute p mid := by
    cases run with
    | nothing => exact mute_of_performs performs (by rw [hc, hc']) (by simp)
    | closedAgain => exact mute_of_performs performs (by rw [hc, hc']) (by simp [Event.deviceCall])
    | close =>
        refine mute_of_performs performs (by rw [hc, hc']; rfl) ?_
        exact List.forall_mem_cons.mpr
          ⟨rfl, fun e he => (closing_afterLoop e he).deviceCall⟩
  exact ⟨hmid.metrics, hmid.calls⟩

/-- Launching `sqlcmd` begins the script, whatever its exit code. -/
theorem launchSqlcmd_begins (hhost : host.Begins script) {name db : String} {launched : Bool}
    (h : (launchSqlcmd host name db).run p = (launched, p')) :
    p'.machine = (p.moveWorld script.start).machine := by
  obtain ⟨rc, q, hsystem, h⟩ := process_bind h
  have hq : q.machine = (p.moveWorld script.start).machine := by
    cases hsystem
    change (p.moveWorld (host.wsystem _ p.machine.outside.world).2).machine = _
    rw [hhost.wsystem]
  by_cases hrc : rc = 0
  · rw [if_neg (by simp [hrc])] at h
    obtain ⟨-, rfl⟩ := process_pure h
    exact hq
  · rw [if_pos hrc] at h
    obtain ⟨_, q', herr, h⟩ := process_bind h
    obtain ⟨-, rfl⟩ := process_pure h
    rw [(err_run host herr).2, hq]

/-- Asking for a backup, once or twice, begins the script. -/
theorem requestBackup_begins (hhost : host.Begins script) {name : String} {autoMode : Bool}
    {u : Unit} (h : (requestBackup host name autoMode).run p = (u, p')) :
    p'.machine = (p.moveWorld script.start).machine := by
  obtain ⟨launched, q, hlaunch, h⟩ := process_bind h
  have hq : q.machine = (p.moveWorld script.start).machine ∨
      (q.machine = p.machine ∧ launched = false) := by
    unfold launchIfAutomated at hlaunch
    split at hlaunch
    · obtain ⟨_, q', hout, hlaunch⟩ := process_bind hlaunch
      left
      rw [launchSqlcmd_begins hhost hlaunch]
      unfold Process.moveWorld
      rw [(out_run host hout).2]
    · obtain ⟨rfl, rfl⟩ := process_pure hlaunch
      exact .inr ⟨rfl, rfl⟩
  cases launched with
  | true =>
      obtain ⟨-, rfl⟩ := process_pure h
      exact hq.resolve_right fun hq => by cases hq.2
  | false =>
      obtain ⟨_, q', hout, h⟩ := process_bind h
      cases h
      change (q'.moveWorld (host.cinGet _)).machine = _
      rw [hhost.cinGet]
      unfold Process.moveWorld
      rw [(out_run host hout).2]
      rcases hq with hq | ⟨hq, -⟩ <;> rw [hq]
      rfl

/-- A call on the client, without the process around it. -/
theorem call_machine {α : Type} {x : VdiM ScriptState ChosenSink α} {a : α}
    (h : (call x).run p = (a, p')) : x.run p.machine = (a, p'.machine) := by
  cases h
  rfl

/-- `main` reaches the command loop with a fresh client, and adds nothing to it afterwards. -/
structure Serves (host : Host ScriptState) (script : Script) (fuel : Nat)
    (p p' : Process ScriptState) (code : Option Int) (m served : Machine ScriptState ChosenSink)
    (returned : Bool) : Prop where
  run : (processCommands host.env fuel).run m = (returned, served)
  fresh : m.client.Fresh
  outside : m.outside = { p.machine.outside with world := script.start }
  calls : deviceCallsOf m.trace = deviceCallsOf p.machine.trace
  code : code = if returned then some 0 else none
  metrics : p'.machine.client.metrics = served.client.metrics
  callsAfter : deviceCallsOf p'.machine.trace = deviceCallsOf served.trace

/-- Everything before and after the command loop of `main` is mute. -/
theorem main_serves (hhost : host.Begins script) {injected : FaultInjector}
    (hidle : injected.Idle) (hnew : p.machine.client = Client.new false injected)
    {options : Options} {fuel : Nat} {code : Option Int}
    (h : (main host fuel options).run p = (code, p')) :
    ∃ m served returned, Serves host script fuel p p' code m served returned := by
  have henv : host.env = ⟨script.com, ChosenSink.asSink host.disk, host.clock⟩ := by
    unfold Host.env
    rw [hhost.com]
  obtain ⟨code', p₀, hbody, h⟩ := process_bind h
  obtain ⟨_, p₁, hbanner, hbody⟩ := process_bind hbody
  have hmachine₁ : p₁.machine = p.machine := (out_run host hbanner).2
  obtain ⟨connected, p₂, hconnect, hbody⟩ := process_bind hbody
  have hconnect' := call_machine hconnect
  rw [henv] at hconnect'
  obtain ⟨rfl, hclient₂, houtside₂, hcalls₂⟩ :=
    connect_script (by rw [hmachine₁, hnew]; rfl) hconnect'
  obtain ⟨_, p₃, hrequest, hbody⟩ := process_bind hbody
  have hmachine₃ := requestBackup_begins hhost hrequest
  obtain ⟨opened, p₄, hopen, hbody⟩ := process_bind hbody
  have hclient₃ : p₃.machine.client = p₂.machine.client := by rw [hmachine₃]; rfl
  have hopen' := call_machine hopen
  rw [henv] at hopen'
  obtain ⟨rfl, hclient₄, houtside₄, hcalls₄⟩ := openDevices_script
    (by rw [hclient₃, hclient₂]) (show p₃.machine.client.deviceSet = some 0 by
      rw [hclient₃, hclient₂]) hopen'
  obtain ⟨_, p₅, hout, hbody⟩ := process_bind hbody
  have hmachine₅ : p₅.machine = p₄.machine := (out_run host hout).2
  obtain ⟨returned, p₆, hprocess, hbody⟩ := process_bind hbody
  have houtside : p₅.machine.outside = { p.machine.outside with world := script.start } := by
    rw [hmachine₅, houtside₄, hmachine₃]
    change { p₂.machine.outside with world := script.start } = _
    rw [houtside₂, hmachine₁]
  have hclient : p₅.machine.client = { Client.new false injected with
      deviceName := host.deviceName
      deviceCount := 1
      deviceSet := some 0
      state := .streaming } := by
    rw [hmachine₅, hclient₄, hclient₃, hclient₂, hmachine₁, hnew]
  have hfresh : p₅.machine.client.Fresh := by
    rw [hclient]
    exact ⟨rfl, rfl, rfl, rfl, rfl, hidle⟩
  have hcalls : deviceCallsOf p₅.machine.trace = deviceCallsOf p.machine.trace := by
    rw [hmachine₅, hcalls₄, hmachine₃]
    change deviceCallsOf p₂.machine.trace = _
    rw [hcalls₂, hmachine₁]
  have hrun := call_machine hprocess
  cases returned with
  | false =>
      obtain ⟨rfl, rfl⟩ := process_pure hbody
      obtain ⟨rfl, rfl⟩ := process_pure h
      exact ⟨p₅.machine, _, false, hrun, hfresh, houtside, hcalls, rfl, rfl, rfl⟩
  | true =>
      obtain ⟨_, p₇, hclose, hbody⟩ := process_bind hbody
      obtain ⟨rfl, rfl⟩ := process_pure hbody
      obtain ⟨_, p₈, hleave, h⟩ := process_bind h
      obtain ⟨rfl, rfl⟩ := process_pure h
      have hmute := (callClose_mute hclose).trans (leaveMain_mute hleave)
      exact ⟨p₅.machine, _, true, hrun, hfresh, houtside, hcalls, rfl, hmute.metrics, hmute.calls⟩

end Host

/-! ## Any sink is a `NullSink` to the device -/

/-- A `NullSink` answers like any sink that works. -/
theorem nullSink_alike {host : Host ScriptState} (hstores : host.Stores) :
    host.env.sink.Alike nullSink fun sink (_ : Unit) => sink.Intact where
  isOpen := fun _ _ hintact => ⟨hintact.isOpen, hintact⟩
  write := fun _ _ _ hsize hintact => hintact.write hstores.disk hsize
  flush := fun _ _ hintact => hintact.flush hstores.disk

/-- The C++ client opens its device and serves it, whatever it did before. -/
theorem processCommands_twin (hscript : script.Admissible) (clock : Nat → UInt64) (fuel : Nat)
    {m : Machine ScriptState Unit} (hclient : m.client.Fresh) {p : PyMachine ScriptState}
    (twin : Twin m p) :
    let cpp := (processCommands (scriptEnv script clock) fuel).run m
    let looped := whileFuel (Py.loopBody script.com script.device) fuel p
    cpp.1 = decide (looped.1 = .stop) ∧ Twin cpp.2 looped.2 := by
  obtain ⟨ds, hset⟩ := Option.isSome_iff_exists.mp hclient.deviceSet
  unfold processCommands
  rw [run_self_bind]
  simp only [hclient.state, hset, hclient.oneDevice, ne_eq, not_true_eq_false, if_false]
  obtain ⟨hopened, twin⟩ := openAll_alone clock ds m p twin
  rw [run_bind (Prod.ext hopened rfl)]
  exact serveDevices_twin hscript _ _ twin

/-- The command loop of the C++ program and that of the Python program. -/
theorem served_twin (hscript : script.Admissible) {host : Host ScriptState}
    (hcom : host.com = script.com) (hstores : host.Stores) (fuel : Nat)
    {m : Machine ScriptState ChosenSink} (hclient : m.client.Fresh)
    (hworld : m.outside.world = script.start) (hsink : m.outside.sink.Intact)
    (hcalls : deviceCallsOf m.trace = []) :
    let cpp := (processCommands host.env fuel).run m
    let py := runPyCommands script.com fuel (PyVdiClient.opened script.device) script.start
    py.1 = .ok cpp.1 ∧ py.2.calls = deviceCallsOf cpp.2.trace ∧
      (script.answers.length < fuel → cpp.1 = true) ∧
      (py.2.client.metrics.totalBytes < 2 ^ 64 →
        SameCounters cpp.2.client.metrics py.2.client.metrics) := by
  intro cpp py
  have hcom' : host.env.com = (scriptEnv script host.clock).com := hcom
  have hclock : host.env.clock = (scriptEnv script host.clock).clock := rfl
  have halike : Coupled _ Eq (processCommands host.env fuel)
      (processCommands (scriptEnv script host.clock) fuel) :=
    (sinkAlike_session hcom' hclock (nullSink_alike hstores)).serve_coupled
  let bare : Machine ScriptState Unit :=
    { client := m.client
      outside := { world := m.outside.world, sink := (), ticks := m.outside.ticks }
      trace := m.trace }
  obtain ⟨hreturned, hsame⟩ := halike m bare ⟨rfl, rfl, rfl, rfl, hsink⟩
  have htwin : Twin bare { client := PyVdiClient.opened script.device, world := script.start } :=
    { world := hworld
      calls := hcalls
      books := hclient.books script.device
      balanced := PyVdiClient.opened_balanced script.device
      idle := hclient.faultInjector
      admissible := hscript.answers }
  obtain ⟨hstopped, twin⟩ :=
    processCommands_twin hscript host.clock fuel (m := bare) hclient htwin
  have hpy : py = _ := runPyCommands_opened script.com fuel script.device script.start
  have hreturned' : cpp.1 = _ := hreturned.trans hstopped
  rw [hpy, hreturned', show cpp.2.trace = _ from hsame.trace,
    show cpp.2.client = _ from hsame.client]
  refine ⟨rfl, twin.calls.symm, fun hfuel => ?_, twin.books.sameCounters twin.balanced⟩
  rw [whileFuel_terminates (fun p => p.world.answers.length)
    (fun _ _ hbody => Py.loopBody_answers hscript hbody) hfuel]
  rfl

/-! ## The Python program -/

/-- Once a line is typed in, SQL Server begins the script. -/
structure PyHost.Begins (host : PyHost ScriptState) (script : Script) : Prop where
  com : host.com = script.com
  input : ∀ w, host.input w = (true, script.start)

/-- The calls on the device, read back from their events. -/
theorem deviceCallsOf_event (calls : List DeviceCall) :
    deviceCallsOf (calls.map DeviceCall.event) = calls := by
  unfold deviceCallsOf
  rw [List.filterMap_map]
  refine (List.filterMap_congr fun call _ => ?_).trans List.filterMap_some
  cases call <;> rfl

section PyHost

variable {host : PyHost ScriptState} {p : PyProcess ScriptState} {name : String} {fuel : Nat}

/-- Up to its command loop the Python session is mute as well. -/
theorem session_begins (hhost : host.Begins script) (hnew : p.client = {}) :
    ∃ q, (Py.session host name fuel).run.run p = (Py.serve host.com fuel).run.run q ∧
      q.client = PyVdiClient.opened script.device ∧ q.world = script.start ∧
      deviceCallsOf (pyEvents q.actions) = deviceCallsOf (pyEvents p.actions) := by
  obtain ⟨com, pid, input⟩ := host
  obtain ⟨hcom, hinput⟩ := hhost
  obtain rfl : com = script.com := hcom
  obtain rfl : input = fun _ => (true, script.start) := funext hinput
  obtain ⟨client, set, name', count, world, acts⟩ := p
  obtain rfl : client = {} := hnew
  refine ⟨_, rfl, rfl, rfl, ?_⟩
  change deviceCallsOf (pyEvents (acts ++ [.com (.coCreateInstance sOk 0)] ++
    [.com (.createEx 0 name (Py.vdConfig 1) sOk)] ++ [.input true] ++
    [.com (.getConfiguration 0 60000 sOk)] ++ [.com (.openDevice 0 name sOk script.device)])) = _
  simp only [List.append_assoc, pyEvents_append]
  exact deviceCallsOf_append_none (by simp [pyEvents, PyAction.event?, Event.deviceCall])

/-- A stretch in which the Python client counts nothing and does not speak to the device. -/
structure PyMute (p p' : PyProcess ScriptState) : Prop where
  metrics : p'.client.metrics = p.client.metrics
  calls : deviceCallsOf (pyEvents p'.actions) = deviceCallsOf (pyEvents p.actions)

theorem PyMute.trans {p p' p'' : PyProcess ScriptState} (h : PyMute p p') (h' : PyMute p' p'') :
    PyMute p p'' :=
  ⟨h'.metrics.trans h.metrics, h'.calls.trans h.calls⟩

theorem comCall_mute {answer : ScriptState → Unit × ScriptState} {e : Event}
    (h : e.deviceCall = none) : PyMute p (p.comCall answer fun _ => e).2 := by
  refine ⟨rfl, ?_⟩
  change deviceCallsOf (pyEvents (p.actions ++ [.com e])) = _
  rw [pyEvents_append]
  exact deviceCallsOf_append_none (by simpa [pyEvents, PyAction.event?] using h)

/-- `close` of the Python client gives back the device and the set, and counts nothing. -/
theorem close_mute (com : Com ScriptState) (p : PyProcess ScriptState) :
    PyMute p ((Py.close com).run p).2 := by
  have hdevice : PyMute p ((Py.closeDevice com).run p).2 := by
    unfold Py.closeDevice StateT.run
    cases hdevice : p.client.device with
    | none =>
        simp only [hdevice]
        exact ⟨rfl, rfl⟩
    | some device =>
        simp only [hdevice]
        have hmute : PyMute p (p.comCall (fun w => ((), com.deviceRelease device w))
            fun _ => .deviceRelease device).2 := comCall_mute rfl
        exact ⟨hmute.metrics, hmute.calls⟩
  have hset (q : PyProcess ScriptState) : PyMute q ((Py.closeDeviceSet com).run q).2 := by
    unfold Py.closeDeviceSet StateT.run
    cases hset : q.deviceSet with
    | none =>
        simp only [hset]
        exact ⟨rfl, rfl⟩
    | some ds =>
        simp only [hset]
        have hmute : PyMute q (PyProcess.comCall (fun w => ((), com.setRelease ds w))
            (fun _ => .setRelease ds)
            (q.comCall (fun w => ((), com.setClose ds w)) fun _ => .setClose ds).2).2 :=
          (comCall_mute rfl).trans (comCall_mute rfl)
        exact ⟨hmute.metrics, hmute.calls⟩
  exact hdevice.trans (hset _)

/-- Nor does `__del__`. -/
theorem del_mute (com : Com ScriptState) (p : PyProcess ScriptState) :
    PyMute p ((Py.del com).run p).2 := by
  have hlast (q : PyProcess ScriptState) :
      PyMute q (q.comCall (fun w => ((), com.coUninit w)) fun _ => .coUninit).2 :=
    comCall_mute rfl
  exact (close_mute com p).trans (hlast _)

/-- The Python program is its command loop. -/
theorem runPyMain_served (fuel : Nat) (hhost : host.Begins script) (world : ScriptState)
    (args : List String) {returned : Bool} {served : PyMachine ScriptState}
    (hserved : runPyCommands script.com fuel (PyVdiClient.opened script.device) script.start =
      (.ok returned, served)) :
    let run := runPyMain host world fuel args
    run.1 = (if returned then some 0 else none) ∧ run.2.client.metrics = served.client.metrics ∧
      deviceCallsOf (pyEvents run.2.actions) = served.calls := by
  obtain ⟨com, pid, input⟩ := host
  obtain rfl : com = script.com := hhost.com
  let host : PyHost ScriptState := { com := script.com, pid, input }
  let start : PyProcess ScriptState := { world, actions := [.com (.coInitializeEx sOk)] }
  obtain ⟨q, hsession, hclient, hworld, hcalls⟩ :
      ∃ q, (Py.session host (host.deviceName args) fuel).run.run start =
          (Py.serve script.com fuel).run.run q ∧
        q.client = PyVdiClient.opened script.device ∧ q.world = script.start ∧
        deviceCallsOf (pyEvents q.actions) = [] := session_begins hhost rfl
  let looped : PyProcess ScriptState := { q with
    client := served.client
    world := served.world
    actions := q.actions ++ served.calls.map fun call => PyAction.com call.event }
  have hserve : (Py.serve script.com fuel).run.run q = (.ok returned, looped) := by
    apply serve_run
    rw [hclient, hworld, hserved]
  have hevents : deviceCallsOf (pyEvents looped.actions) = served.calls := by
    change deviceCallsOf (pyEvents (q.actions ++
      served.calls.map fun call => PyAction.com call.event)) = _
    rw [pyEvents_append, deviceCallsOf_append, hcalls, pyEvents_calls, deviceCallsOf_event,
      List.nil_append]
  have hmain : runPyMain host world fuel args = (do
      let code ← Py.caught (.ok returned)
      if code.isSome then
        Py.close script.com
        Py.del script.com
        return code
      else return none : StateM (PyProcess ScriptState) (Option Int)).run looped := by
    have hleave : runPyMain host world fuel args = (fun ran => (do
      let code ← Py.caught ran.1
      if code.isSome then
        Py.close script.com
        Py.del script.com
        return code
      else return none : StateM (PyProcess ScriptState) (Option Int)).run ran.2)
        ((Py.session host (host.deviceName args) fuel).run.run start) := rfl
    rw [hleave, hsession, hserve]
  intro run
  rw [show run = _ from hmain]
  cases returned with
  | false => exact ⟨rfl, rfl, hevents⟩
  | true =>
      have hmute := (close_mute script.com looped).trans (del_mute script.com _)
      exact ⟨rfl, hmute.metrics, hmute.calls.trans hevents⟩

end PyHost

/-- **The benchmark compares like with like.**  Where SQL Server begins an admissible script once it
is asked for a backup, and the sink of the C++ program, whichever it is, loses nothing, the two
programs make the same calls on the device with the same answers, whatever the arguments, the clock
and the numbers of the processes.  One has left with 0 if the other has, which they have after the
script, and below `2 ^ 64` bytes their counters are equal. -/
theorem benchmark_agrees (hscript : script.Admissible) {host : Host ScriptState}
    {pyHost : PyHost ScriptState} (hhost : host.Begins script) (hstores : host.Stores)
    (hpyHost : pyHost.Begins script) {injected : FaultInjector} (hidle : injected.Idle)
    (world world' : ScriptState) (fuel : Nat) (args args' : List String) :
    let cpp := runMain host world injected fuel args
    let py := runPyMain pyHost world' fuel args'
    deviceCallsOf (pyEvents py.2.actions) = deviceCallsOf cpp.2.machine.trace ∧ py.1 = cpp.1 ∧
      (script.answers.length < fuel → cpp.1 = some 0) ∧
      (py.2.client.metrics.totalBytes < 2 ^ 64 →
        SameCounters cpp.2.machine.client.metrics py.2.client.metrics) := by
  intro cpp py
  have hmain : (main host fuel (Options.parse {} args)).run
      (host.newProcess world injected (Options.parse {} args)) = (cpp.1, cpp.2) := rfl
  obtain ⟨m, served, returned, serves⟩ := main_serves hhost hidle rfl hmain
  have hworld : m.outside.world = script.start := by rw [serves.outside]
  have hsink : m.outside.sink.Intact := by
    rw [serves.outside]
    exact hstores.newSink _
  obtain ⟨hreturned, hcalls, hends, hcounters⟩ := served_twin hscript hhost.com hstores fuel
    serves.fresh hworld hsink serves.calls
  rw [serves.run] at hreturned hcalls hends hcounters
  obtain ⟨hcode, hmetrics, hpyCalls⟩ := runPyMain_served fuel hpyHost world' args'
    (Prod.ext hreturned rfl)
  refine ⟨?_, ?_, fun hfuel => ?_, fun hbytes => ?_⟩
  · rw [serves.callsAfter, ← hcalls]
    exact hpyCalls
  · rw [serves.code]
    exact hcode
  · rw [serves.code]
    exact if_pos (hends hfuel)
  · rw [serves.metrics, show py.2.client.metrics = _ from hmetrics]
    rw [show py.2.client.metrics = _ from hmetrics] at hbytes
    exact hcounters hbytes

/-- A server that follows `script` once `sqlcmd` is launched. -/
def sqlcmdHost (script : Script) : Host ScriptState where
  com := script.com
  clock := UInt64.ofNat
  disk := goodDisk
  opened := true
  allocated := some fun _ => 0
  pid := 4711
  wsystem := fun _ _ => (0, script.start)
  cinGet := fun _ => script.start

theorem sqlcmdHost_begins (script : Script) : (sqlcmdHost script).Begins script :=
  ⟨rfl, fun _ _ => rfl, fun _ => rfl⟩

theorem sqlcmdHost_stores (script : Script) : (sqlcmdHost script).Stores :=
  ⟨rfl, rfl, fun _ => ⟨rfl, Nat.le_refl _⟩⟩

theorem scriptHost_begins (script : Script) : (scriptHost script).Begins script :=
  ⟨rfl, fun _ => rfl⟩

/-- Both programs on a script of one byte: the same calls on the device, and exit code 0. -/
theorem benchmark_agrees_shortScript :
    deviceCallsOf (pyEvents (runPyMain (scriptHost shortScript) shortScript.start 4 []).2.actions) =
        deviceCallsOf (runMain (sqlcmdHost shortScript) shortScript.start {} 4
          ["--auto", "--sink", "file"]).2.machine.trace ∧
      (runMain (sqlcmdHost shortScript) shortScript.start {} 4
        ["--auto", "--sink", "file"]).1 = some 0 := by
  have hidle : FaultInjector.Idle {} := by
    unfold FaultInjector.Idle
    decide +kernel
  have hagrees := benchmark_agrees shortScript_admissible (sqlcmdHost_begins shortScript)
    (sqlcmdHost_stores shortScript) (scriptHost_begins shortScript) hidle shortScript.start
    shortScript.start 4 ["--auto", "--sink", "file"] []
  exact ⟨hagrees.1, hagrees.2.2.1 (by decide)⟩

end Vdi
