import VdiWrapper.ProgramRun

/-!
# What the program leaves behind

The life of the client of `main`.  It has one device, so the partial failure of the `OpenDevice`
loop, after which a client keeps devices for ever, is out of its reach; and every way out of `main`
passes a `close` or the destructor.  `runMain_exit` collects this, and says what the exit code
tells: whether the session was set up, and nothing about the backup.
-/

namespace Vdi

open Runs

variable {ω : Type} {name : String} {options : Options} {fuel : Nat} {c c' : Client}
  {acts : List Action} {code : Option Int}

theorem RequestRun.clientEvents {autoMode : Bool} {request : List Action}
    (h : RequestRun name autoMode request) : clientEvents request = [] := by
  cases h <;> rfl

/-- `main` gives its client a life. -/
theorem MainRun.lifetimeRun (h : MainRun name options fuel c acts code c')
    (hinit : c.state = .init) :
    ∃ flow, LifetimeRun c (clientEvents acts) flow c' ∧ (code.isSome → flow = .next) := by
  cases h with
  | connectFailed connect hfailed destroyed =>
      have session := SessionRun.start.call (.connect hinit connect)
      have life := LifetimeRun.destroyed session destroyed
      exact ⟨.next, by simpa using life, fun _ => rfl⟩
  | openFailed connect hconnected requested opened hfailed closed destroyed =>
      have session := ((SessionRun.start.call (.connect hinit connect)).call
        (.openDevices hconnected opened)).call closed
      have life := LifetimeRun.destroyed session destroyed
      exact ⟨.next, by simpa [requested.clientEvents] using life, fun _ => rfl⟩
  | @serving es es₁ es₂ c₁ c₂ _ request connect hconnected requested opened hstreaming run
      polled =>
      have serving : CallRun c₂ (.processCommands 0) es₂ .stop c' := .serving run
      have session := ((SessionRun.start.call (.connect hinit connect)).call
        (.openDevices hconnected opened)).call serving
      have life := LifetimeRun.serving session
      exact ⟨.stop, by simpa [requested.clientEvents] using life, nofun⟩
  | @served es es₁ es₂ es₃ es' c₁ c₂ c₃ c₄ _ request connect hconnected requested opened
      hstreaming run closed destroyed =>
      have served : CallRun c₂ (.processCommands 0) es₂ .next c₃ := .served run
      have session := (((SessionRun.start.call (.connect hinit connect)).call
        (.openDevices hconnected opened)).call served).call closed
      have life := LifetimeRun.destroyed session destroyed
      exact ⟨.next, by simpa [requested.clientEvents] using life, fun _ => rfl⟩

/-! ## One device -/

/-- A call with one device opens it or nothing. -/
theorem CommandRun.opensWholly {es : List Event} (h : CommandRun c es true c')
    (hcount : c.deviceCount = 1) : OpensWholly es ∧ EndsOutside es := by
  have hone : devCount c.deviceCount = 1 := by simp [devCount, hcount]
  cases h with
  | wrongState | noDeviceSet =>
      exact ⟨opensWholly_of_none (by simp [openedDevice]),
        endsOutside_of_none (by simp [openedDevice])⟩
  | @openFailed ds opened hr device hstate hset hopened hlength hhr =>
      have hnil : opened = [] := List.eq_nil_of_length_eq_zero (by omega)
      have hnone : ∀ e ∈ opening ds c.deviceName opened ++
          .openDevice ds c.deviceName hr device :: failure (.openDeviceFailed hr) c,
          openedDevice e = none := by
        simp [hnil, opening, failure, openedDevice, hhr]
      exact ⟨opensWholly_of_none hnone, endsOutside_of_none hnone⟩
  | @served ds opened start k loop c₁ hstate hset hopened hlength run =>
      refine ⟨served_opensWholly hopened run, fun e he => ?_⟩
      rw [finishing, ← List.append_assoc, ← List.append_assoc, List.getLast?_concat] at he
      cases he
      rfl

theorem OpensWholly.deviceless {es es' : List Event} (h : OpensWholly es ∧ EndsOutside es)
    (hes : ∀ e ∈ es', e.Deviceless) : OpensWholly (es ++ es') ∧ EndsOutside (es ++ es') := by
  have hnone : ∀ e ∈ es', openedDevice e = none := fun e he => (hes e he).1
  exact ⟨h.1.append h.2 (opensWholly_of_none hnone), h.2.append (endsOutside_of_none hnone)⟩

theorem closeCall_deviceless {es : List Event} {flow : Flow} (h : CallRun c .close es flow c') :
    ∀ e ∈ es, e.Deviceless := by
  cases h with
  | closedAgain => simp
  | close => exact closing_deviceless

theorem DestroyRun.deviceless {es : List Event} (h : DestroyRun c es c') :
    ∀ e ∈ es, e.Deviceless := by
  cases h with
  | nothing => simp
  | closedAgain => simp [Event.Deviceless, openedDevice, releasedDevice, usedDevice]
  | close =>
      intro e he
      obtain he | he := List.mem_cons.mp he
      · rw [he]
        exact ⟨rfl, rfl, rfl⟩
      · exact closing_deviceless e he

theorem ConnectRun.deviceCount {count : Int} {es : List Event} (h : ConnectRun name count c es c') :
    c'.deviceCount = count := by
  cases h <;> rfl

theorem OpenRun.deviceCount {es : List Event} (h : OpenRun c es c') :
    c'.deviceCount = c.deviceCount := by
  cases h <;> rfl

/-- No device is kept because another one could not be opened. -/
theorem MainRun.opensWholly (h : MainRun name options fuel c acts code c') (hcode : code.isSome) :
    OpensWholly (clientEvents acts) := by
  have hnil : OpensWholly [] ∧ EndsOutside [] := ⟨.nil, by simp [EndsOutside]⟩
  cases h with
  | connectFailed connect hfailed destroyed =>
      have hwhole := OpensWholly.deviceless (OpensWholly.deviceless hnil connect.deviceless)
        destroyed.deviceless
      simpa using hwhole.1
  | openFailed connect hconnected requested opened hfailed closed destroyed =>
      have hsetup := OpensWholly.deviceless (OpensWholly.deviceless hnil connect.deviceless)
        opened.deviceless
      have hwhole := OpensWholly.deviceless
        (OpensWholly.deviceless hsetup (closeCall_deviceless closed)) destroyed.deviceless
      simpa [requested.clientEvents] using hwhole.1
  | serving => cases hcode
  | served connect hconnected requested opened hstreaming run closed destroyed =>
      have hsetup := OpensWholly.deviceless (OpensWholly.deviceless hnil connect.deviceless)
        opened.deviceless
      have hcall := run.opensWholly (opened.deviceCount.trans connect.deviceCount)
      have hserved := And.intro (hsetup.1.append hsetup.2 hcall.1) (hsetup.2.append hcall.2)
      have hwhole := OpensWholly.deviceless
        (OpensWholly.deviceless hserved (closeCall_deviceless closed)) destroyed.deviceless
      simpa [requested.clientEvents] using hwhole.1

/-! ## The exit code -/

/-- A call of `connect` or of `open_devices` that COM failed. -/
def Event.FailsSetup : Event → Prop
  | .coInitializeEx hr | .coCreateInstance hr _ | .createEx _ _ _ hr | .getConfiguration _ _ hr =>
      failed hr = true
  | _ => False

/-- All went well in `connect` and `open_devices`. -/
def SetUp (es : List Event) : Prop := ∀ e ∈ es, ¬ e.FailsSetup

theorem SetUp.append {es es' : List Event} (h : SetUp es) (h' : SetUp es') : SetUp (es ++ es') :=
  List.forall_mem_append.mpr ⟨h, h'⟩

theorem setUp_uninit {hr : HResult} : SetUp (uninit hr) := by
  unfold uninit
  split <;> simp [SetUp, Event.FailsSetup]

theorem Event.AroundLoop.setUp {e : Event} (h : e.AroundLoop) : ¬ e.FailsSetup := by
  cases e <;> first | exact h.elim | exact id

theorem CommandRun.setUp {es : List Event} {returned : Bool} (h : CommandRun c es returned c') :
    SetUp es := by
  obtain haround | ⟨before, loop, after, start, devices, k, flow, c₁, hes, hbefore, hafter, run⟩ :=
    h.frame
  · exact fun e he => (haround e he).setUp
  · have hloop : SetUp loop := by
      intro e he
      have hin := run.inLoop e he
      cases e <;> first | exact hin.elim | exact id
    rw [hes]
    exact (SetUp.append (fun e he => (hbefore e he).setUp) hloop).append
      fun e he => (hafter e he).aroundLoop.setUp

theorem setUp_closing : SetUp (closing c) :=
  fun e he => (closing_afterLoop e he).aroundLoop.setUp

theorem closeCall_setUp {es : List Event} {flow : Flow} (h : CallRun c .close es flow c') :
    SetUp es := by
  cases h with
  | closedAgain => simp [SetUp]
  | close => exact setUp_closing

theorem DestroyRun.setUp {es : List Event} (h : DestroyRun c es c') : SetUp es := by
  cases h with
  | nothing => simp [SetUp]
  | closedAgain => simp [SetUp, Event.FailsSetup]
  | close => exact List.forall_mem_cons.mpr ⟨id, setUp_closing⟩

theorem ConnectRun.setUp_iff {count : Int} {es : List Event} (h : ConnectRun name count c es c') :
    (c'.state = .connected ↔ SetUp es) ∧ (c'.state = .connected → c'.deviceSet.isSome) := by
  cases h with
  | comFailed hr hhr => simp [SetUp, Event.FailsSetup, hhr]
  | createFailed hr hr' ds hhr hhr' => simp [SetUp, Event.FailsSetup, hhr']
  | createExFailed hr hr' hr'' ds hhr hhr' hhr'' => simp [SetUp, Event.FailsSetup, hhr'']
  | connected hr hr' hr'' ds hhr hhr' hhr'' =>
      refine ⟨iff_of_true rfl (SetUp.append ?_ setUp_uninit), fun _ => rfl⟩
      simp [SetUp, Event.FailsSetup, hhr, hhr', hhr'']

theorem OpenRun.setUp_iff {es : List Event} (h : OpenRun c es c') (hset : c.deviceSet.isSome) :
    c'.state = .streaming ↔ SetUp es := by
  cases h with
  | noDeviceSet hnone =>
      rw [hnone] at hset
      cases hset
  | failed ds _ hr hhr => simp [SetUp, Event.FailsSetup, hhr]
  | opened ds _ hr hhr => simp [SetUp, Event.FailsSetup, hhr]

/-- The exit code tells whether the session was set up. -/
theorem MainRun.exitCode (h : MainRun name options fuel c acts code c') (hcode : code.isSome) :
    (code = some 0 ∧ SetUp (clientEvents acts)) ∨
      (code = some 1 ∧ ¬ SetUp (clientEvents acts)) := by
  cases h with
  | connectFailed connect hfailed destroyed =>
      right
      refine ⟨rfl, fun hsetUp => ?_⟩
      have hconnect := connect.setUp_iff.1.mpr fun e he => hsetUp e (by simp [he])
      rw [hfailed] at hconnect
      cases hconnect
  | openFailed connect hconnected requested opened hfailed closed destroyed =>
      right
      refine ⟨rfl, fun hsetUp => ?_⟩
      have hopened := (opened.setUp_iff (connect.setUp_iff.2 hconnected)).mpr
        fun e he => hsetUp e (by simp [he])
      rw [hfailed] at hopened
      cases hopened
  | serving => cases hcode
  | served connect hconnected requested opened hstreaming run closed destroyed =>
      left
      have hconnect := connect.setUp_iff.1.mp hconnected
      have hopen := (opened.setUp_iff (connect.setUp_iff.2 hconnected)).mp hstreaming
      have hserved := (hconnect.append hopen).append run.setUp
      have hall := (hserved.append (closeCall_setUp closed)).append destroyed.setUp
      exact ⟨rfl, by simpa [requested.clientEvents] using hall⟩

/-- A life that ends with the destructor ends in `CLOSED`, unless it never began. -/
theorem DestroyRun.closed {es : List Event} (h : DestroyRun c es c') (hlife : Lifecycle c)
    (hinit : c.state ≠ .init) : c'.state = .closed := by
  cases h with
  | nothing hstate => exact hstate.resolve_right hinit
  | closedAgain hstate hclosed => exact absurd (hlife.closed_iff.mpr hclosed) hstate.1
  | close => rfl

theorem closeCall_closed {es : List Event} {flow : Flow} (h : CallRun c .close es flow c')
    (hlife : Lifecycle c) : c'.state = .closed := by
  cases h with
  | closedAgain hclosed => exact hlife.closed_iff.mpr hclosed
  | close => rfl

/-- Every way out of `main` closes the session. -/
theorem MainRun.closed (h : MainRun name options fuel c acts code c') (hcode : code.isSome)
    (hinit : c.state = .init) (hlife : Lifecycle c) : c'.state = .closed := by
  cases h with
  | connectFailed connect hfailed destroyed =>
      have hlawful := connect.lawful hlife hinit
      exact destroyed.closed hlawful.lifecycle (by simp [hfailed])
  | openFailed connect hconnected requested opened hfailed closed destroyed =>
      have hopen := (opened.lawful (connect.lawful hlife hinit).lifecycle hconnected).lifecycle
      have hclosed := closeCall_closed closed hopen
      exact destroyed.closed (closed.lawful hopen).lifecycle (by simp [hclosed])
  | serving => cases hcode
  | served connect hconnected requested opened hstreaming run closed destroyed =>
      have hopen := (opened.lawful (connect.lawful hlife hinit).lifecycle hconnected).lifecycle
      have hserved := (run.lawful hopen).lifecycle
      have hclosed := closeCall_closed closed hserved
      exact destroyed.closed (closed.lawful hserved).lifecycle (by simp [hclosed])

theorem MainRun.deviceDiscipline (h : MainRun name options fuel c acts code c')
    (hcode : code.isSome) (hinit : c.state = .init) : DeviceDiscipline (clientEvents acts) := by
  have hwhole := h.opensWholly hcode
  obtain ⟨flow, run, hflow⟩ := h.lifetimeRun hinit
  rw [hflow hcode] at run
  generalize clientEvents acts = es at hwhole run
  cases run with
  | destroyed run destroyed =>
      cases destroyed.deviceLife run.deviceLife with
      | whole _ _ discipline => exact discipline
      | leaked hchain => exact absurd hwhole hchain

theorem MainRun.finishedSet (h : MainRun name options fuel c acts code c') (hcode : code.isSome)
    (hinit : c.state = .init) (hset : c.deviceSet = none) (hlife : Lifecycle c) :
    FinishedSet (setEvents (clientEvents acts)) := by
  obtain ⟨flow, run, hflow⟩ := h.lifetimeRun hinit
  rw [hflow hcode] at run
  generalize clientEvents acts = es at run
  cases run with
  | destroyed run destroyed =>
      rw [setEvents_append]
      exact destroyed.finishedSet (run.lawful hlife).lifecycle (run.setLife hinit hset)

section Program

variable (host : Host ω) (world : ω) (injected : FaultInjector) (fuel : Nat) (args : List String)

/-- A run of the program is one of the ways of `MainRun`, on a new client. -/
theorem runMain_mainRun :
    ∃ mid, Performs host (host.newProcess world injected (Options.parse {} args))
        (runMain host world injected fuel args).2.actions mid ∧
      Left host (runMain host world injected fuel args).1 mid
        (runMain host world injected fuel args).2 ∧
      MainRun host.deviceName (Options.parse {} args) fuel (Client.new false injected)
        (runMain host world injected fuel args).2.actions
        (runMain host world injected fuel args).1
        (runMain host world injected fuel args).2.machine.client ∧
      (runMain host world injected fuel args).2.machine.trace =
        clientEvents (runMain host world injected fuel args).2.actions := by
  have hrun : (main host fuel (Options.parse {} args)).run
      (host.newProcess world injected (Options.parse {} args)) =
        ((runMain host world injected fuel args).1, (runMain host world injected fuel args).2) :=
    rfl
  obtain ⟨acts, mid, performs, hleft, run⟩ := main_mainRun rfl hrun
  have hacts : (runMain host world injected fuel args).2.actions = acts := by
    rw [hleft.actions, performs.actions]
    rfl
  have htrace : (runMain host world injected fuel args).2.machine.trace = clientEvents acts := by
    rw [hleft.trace, performs.trace]
    rfl
  rw [hacts, hleft.client, htrace]
  exact ⟨mid, performs, hleft, run, rfl⟩

/-- **Leaving the program.**  Whatever surrounds it, whatever its arguments and however its
session went: once `main` returns, the session is closed, the device set was released exactly once
and closed before that if it was created, and the device was released exactly once and before its
set.  The exit code is 0 if `connect` and `open_devices` succeeded, whatever became of the backup,
and 1 if not. -/
theorem runMain_exit (code : Int)
    (hcode : (runMain host world injected fuel args).1 = some code) :
    let p := (runMain host world injected fuel args).2
    ((code = 0 ∧ SetUp p.machine.trace) ∨ (code = 1 ∧ ¬ SetUp p.machine.trace)) ∧
      p.machine.client.state = .closed ∧ FinishedSet (setEvents p.machine.trace) ∧
      DeviceDiscipline p.machine.trace := by
  intro p
  obtain ⟨mid, -, -, run, htrace⟩ := runMain_mainRun host world injected fuel args
  have hlife : Lifecycle (Client.new false injected) := lifecycle_new false injected
  have hsome : (runMain host world injected fuel args).1.isSome := by rw [hcode]; rfl
  have hexit := run.exitCode hsome
  rw [hcode, Option.some.injEq, Option.some.injEq] at hexit
  have hstate : p.machine.client.state = .closed := run.closed hsome rfl hlife
  have hset := run.finishedSet hsome rfl rfl hlife
  have hdevice := run.deviceDiscipline hsome rfl
  rw [← htrace] at hexit hset hdevice
  exact ⟨hexit, hstate, hset, hdevice⟩

end Program

/-- A host on which everything works, with a server that plays `script`. -/
def goodHost (script : List Answer) : Host Server where
  com := scriptedCom
  clock := UInt64.ofNat
  disk := goodDisk
  opened := true
  allocated := some fun _ => 0
  pid := 4711
  wsystem := fun _ w => (0, { w with scripts := [script] })
  cinGet := fun w => { w with scripts := [script] }

/-- One byte, backed up by `sqlcmd`. -/
theorem runMain_exit_oneByte :
    let p := (runMain (goodHost [deliver (oneByte 7)]) (Server.start []) {} 2 ["--auto"]).2
    (((0 : Int) = 0 ∧ SetUp p.machine.trace) ∨ ((0 : Int) = 1 ∧ ¬ SetUp p.machine.trace)) ∧
      p.machine.client.state = .closed ∧ FinishedSet (setEvents p.machine.trace) ∧
      DeviceDiscipline p.machine.trace :=
  runMain_exit (goodHost [deliver (oneByte 7)]) (Server.start []) {} 2 ["--auto"] 0
    (by decide +kernel)

end Vdi
