import VdiWrapper.SessionCoupling
import VdiWrapper.ProgramServing

/-!
# The choice of the sink

`--sink` decides where the data goes and nothing else.  Two sinks that answer alike, whatever they
do with the data, are indistinguishable to the client: the same code against either makes the same
calls, keeps the same fields and leaves the same world (`SameButSink`).  A `FileSink` that has its
file and its buffer, on a disk that keeps everything, answers like a `NullSink`, so two runs of the
program that differ in `--sink` are the same run to SQL Server (`runMain_sinkChoice`).
-/

namespace Vdi

open Runs

variable {ω σ σ' α β : Type}

/-! ## Sinks that answer alike -/

/-- In related states the two sinks give the same answers, and what they do keeps them related. -/
structure Sink.Alike (sink : Sink σ) (sink' : Sink σ') (S : σ → σ' → Prop) : Prop where
  isOpen : ∀ s s', S s s' → (sink.isOpen s).1 = (sink'.isOpen s').1 ∧
    S (sink.isOpen s).2 (sink'.isOpen s').2
  write : ∀ s s' data, data.length < 2 ^ 32 → S s s' →
    (sink.write s data).1 = (sink'.write s' data).1 ∧
      S (sink.write s data).2 (sink'.write s' data).2
  flush : ∀ s s', S s s' → S (sink.flush s) (sink'.flush s')

/-- The same client in the same world, with sinks related by `S`. -/
structure SameButSink (S : σ → σ' → Prop) (m : Machine ω σ) (m' : Machine ω σ') : Prop where
  client : m.client = m'.client
  trace : m.trace = m'.trace
  world : m.outside.world = m'.outside.world
  ticks : m.outside.ticks = m'.outside.ticks
  sink : S m.outside.sink m'.outside.sink

/-- A chunk has as many bytes as its `DWORD` says. -/
theorem VdcCommand.payload_lt (cmd : VdcCommand) : cmd.payload.length < 2 ^ 32 := by
  unfold VdcCommand.payload
  cases cmd.buffer with
  | none => simp
  | some bytes =>
      have hsize := bytes.property
      have hlt := cmd.size.toNat_lt
      simp only
      omega

section Primitives

variable {env : Env ω σ} {env' : Env ω σ'} {S : σ → σ' → Prop}

/-- COM is asked in the same world, and answers the same. -/
theorem sinkAlike_comCall {answer : ω → α × ω} {event : α → Event} :
    Coupled (SameButSink S) Eq (comCall answer event : VdiM ω σ α) (comCall answer event) := by
  intro m m' hm
  have hanswer : answer m.outside.world = answer m'.outside.world := by rw [hm.world]
  refine ⟨congrArg Prod.fst hanswer, hm.client, ?_, congrArg Prod.snd hanswer, hm.ticks, hm.sink⟩
  change m.trace ++ [event (answer m.outside.world).1] =
    m'.trace ++ [event (answer m'.outside.world).1]
  rw [hm.trace, hanswer]

/-- The sinks are asked each in its own state, and answer alike. -/
theorem sinkAlike_sinkCall {answer : σ → α × σ} {answer' : σ' → α × σ'} {event : α → Event}
    (h : ∀ s s', S s s' → (answer s).1 = (answer' s').1 ∧ S (answer s).2 (answer' s').2) :
    Coupled (SameButSink S) Eq (sinkCall answer event : VdiM ω σ α) (sinkCall answer' event) := by
  intro m m' hm
  obtain ⟨hanswer, hsink⟩ := h _ _ hm.sink
  refine ⟨hanswer, hm.client, ?_, hm.world, hm.ticks, hsink⟩
  change m.trace ++ [event (answer m.outside.sink).1] =
    m'.trace ++ [event (answer' m'.outside.sink).1]
  rw [hm.trace, hanswer]

theorem sinkAlike_self : Coupled (SameButSink S) Eq (self : VdiM ω σ Client) self :=
  fun _ _ hm => ⟨hm.client, hm⟩

/-- The same assignment on the same fields. -/
theorem sinkAlike_update (f : Client → Client) :
    Coupled (SameButSink S) Eq (update f : VdiM ω σ Unit) (update f) :=
  fun _ _ hm => ⟨rfl, congrArg f hm.client, hm.trace, hm.world, hm.ticks, hm.sink⟩

theorem sinkAlike_emit (e : Event) : Coupled (SameButSink S) Eq (emit e : VdiM ω σ Unit) (emit e) :=
  fun _ _ hm => ⟨rfl, hm.client, congrArg (· ++ [e]) hm.trace, hm.world, hm.ticks, hm.sink⟩

/-- Both transitions start from the same state. -/
theorem sinkAlike_setState (state : SessionState) :
    Coupled (SameButSink S) Eq (setState state : VdiM ω σ Unit) (setState state) := by
  intro m m' hm
  refine ⟨rfl, ?_, ?_, hm.world, hm.ticks, hm.sink⟩
  · change { m.client with state := state } = { m'.client with state := state }
    rw [hm.client]
  · change m.trace ++ [.transition m.client.state state] =
      m'.trace ++ [.transition m'.client.state state]
    rw [hm.trace, hm.client]

/-- One clock, read equally often. -/
theorem sinkAlike_nowUs (hclock : env.clock = env'.clock) :
    Coupled (SameButSink S) Eq (nowUs env) (nowUs env') := by
  intro m m' hm
  have htime : env.clock m.outside.ticks = env'.clock m'.outside.ticks := by
    rw [hclock, hm.ticks]
  refine ⟨htime, hm.client, ?_, hm.world, congrArg (· + 1) hm.ticks, hm.sink⟩
  change m.trace ++ [.nowUs (env.clock m.outside.ticks)] =
    m'.trace ++ [.nowUs (env'.clock m'.outside.ticks)]
  rw [hm.trace, htime]

variable (hcom : env.com = env'.com) (hclock : env.clock = env'.clock)
  (alike : env.sink.Alike env'.sink S)

include hcom hclock alike

/-- The primitives of the command loop, over sinks that answer alike. -/
theorem sinkAlike_primitives : Primitives (SameButSink S) Eq env env' where
  control c d h := by
    rw [h]
    exact ⟨rfl, rfl, rfl, rfl, rfl, rfl, rfl, rfl, rfl⟩
  self := sinkAlike_self
  update f _ := sinkAlike_update f
  log line _ := sinkAlike_emit (.log line)
  setState := sinkAlike_setState
  report c d h := by
    rw [h]
    exact sinkAlike_emit _
  nowUs := sinkAlike_nowUs hclock
  openDevice ds name := by
    unfold openDevice
    rw [hcom]
    exact sinkAlike_comCall
  setClose ds := by
    unfold setClose
    rw [hcom]
    exact sinkAlike_comCall
  setRelease ds := by
    unfold setRelease
    rw [hcom]
    exact sinkAlike_comCall
  getCommand device timeout := by
    unfold getCommand
    rw [hcom]
    exact sinkAlike_comCall
  deviceRelease device := by
    unfold deviceRelease
    rw [hcom]
    exact sinkAlike_comCall
  sinkIsOpen := sinkAlike_sinkCall alike.isOpen
  sinkWrite cmd := sinkAlike_sinkCall fun s s' => alike.write s s' cmd.payload cmd.payload_lt
  sinkFlush := sinkAlike_sinkCall fun s s' hs => ⟨rfl, alike.flush s s' hs⟩

/-- The completion has no business with the sink. -/
theorem sinkAlike_completeStage {device : Device} {cmd : VdcCommand} {times : StageTimes} :
    Coupled (SameButSink S) Eq (completeStage env device cmd times)
      (completeStage env' device cmd times) := by
  have prims := sinkAlike_primitives hcom hclock alike
  have hcomplete : Coupled (SameButSink S) Eq
      (completeCommand env device cmd errorSuccess cmd.size cmd.position)
      (completeCommand env' device cmd errorSuccess cmd.size cmd.position) := by
    unfold completeCommand
    rw [hcom]
    exact sinkAlike_comCall
  have hfails : ∀ line : LogLine, Coupled (SameButSink S) Eq
      (do log line; setState .failed; return Flow.stop : VdiM ω σ Flow)
      (do log line; setState .failed; return Flow.stop) :=
    fun line => (sinkAlike_emit (.log line)).andThen
      ((sinkAlike_setState .failed).andThen (.pure rfl))
  apply prims.nowUs.bindEq
  intro ccStart
  apply hcomplete.bindEq
  intro answer
  apply prims.nowUs.bindEq
  intro ccEnd
  refine .ite .rfl (fun _ => hfails _) fun _ => ?_
  apply sinkAlike_self.bindEq
  intro c
  apply (sinkAlike_update _).andThen
  refine .ite .rfl (fun _ => hfails _) fun _ => ?_
  exact (sinkAlike_update _).andThen (.pure rfl)

/-- And those of a whole session. -/
theorem sinkAlike_session : SessionPrimitives (SameButSink S) Eq env env' where
  toPrimitives := sinkAlike_primitives hcom hclock alike
  assign f _ := sinkAlike_update f
  coInitializeEx := by
    unfold coInitializeEx
    rw [hcom]
    exact sinkAlike_comCall
  coUninit := by
    unfold coUninit
    rw [hcom]
    exact sinkAlike_comCall
  coCreateInstance := by
    unfold coCreateInstance
    rw [hcom]
    exact sinkAlike_comCall
  createEx ds name config := by
    unfold createEx
    rw [hcom]
    exact sinkAlike_comCall
  getConfiguration ds timeout := by
    unfold getConfiguration
    rw [hcom]
    exact sinkAlike_comCall
  completeStage _ _ _ := sinkAlike_completeStage hcom hclock alike

end Primitives

/-! ## The program -/

/-- What the process does, as opposed to what it prints. -/
def Action.isDeed : Action → Bool
  | .client _ | .wsystem .. | .cinGet => true
  | .out _ | .err _ => false

/-- What is left of the actions when the console is taken away. -/
def deeds (acts : List Action) : List Action := acts.filter Action.isDeed

@[simp] theorem deeds_append (acts acts' : List Action) :
    deeds (acts ++ acts') = deeds acts ++ deeds acts' :=
  List.filter_append acts acts'

/-- The same process, apart from its sink and its console. -/
structure SameDeeds (S : ChosenSink → ChosenSink → Prop) (p p' : Process ω) : Prop where
  machine : SameButSink S p.machine p'.machine
  deeds : deeds p.actions = deeds p'.actions

section Program

variable {host : Host ω} {S : ChosenSink → ChosenSink → Prop}

/-- Both sinks work. -/
def BothIntact (sink sink' : ChosenSink) : Prop := sink.Intact ∧ sink'.Intact

/-- On a disk that keeps everything, sinks that work answer alike: all that is written is accepted.
-/
theorem Host.Stores.alike (hstores : host.Stores) :
    host.env.sink.Alike host.env.sink BothIntact where
  isOpen := by
    intro s s' hintact
    have hopen : s.isOpen = s'.isOpen := hintact.1.isOpen.trans hintact.2.isOpen.symm
    exact ⟨hopen, hintact⟩
  write := by
    intro s s' data hsize hintact
    obtain ⟨hok, hkept⟩ := hintact.1.write hstores.disk hsize
    obtain ⟨hok', hkept'⟩ := hintact.2.write hstores.disk hsize
    exact ⟨hok.trans hok'.symm, hkept, hkept'⟩
  flush := fun _ _ hintact => ⟨hintact.1.flush hstores.disk, hintact.2.flush hstores.disk⟩

/-- A call on the client, seen from the process. -/
theorem sinkAlike_call {x y : VdiM ω ChosenSink α} (h : Coupled (SameButSink S) Eq x y) :
    Coupled (SameDeeds S) Eq (call x) (call y) := by
  intro p p' hp
  obtain ⟨hresult, hmachine⟩ := h _ _ hp.machine
  refine ⟨hresult, hmachine, ?_⟩
  change deeds (p.actions ++
      ((x.run p.machine).2.trace.drop p.machine.trace.length).map .client) =
    deeds (p'.actions ++ ((y.run p'.machine).2.trace.drop p'.machine.trace.length).map .client)
  rw [deeds_append, deeds_append, hp.deeds, hmachine.trace, hp.machine.trace]

/-- Printing different lines is no difference. -/
theorem sinkAlike_print {action action' : Action} (h : action.isDeed = false)
    (h' : action'.isDeed = false) :
    Coupled (SameDeeds S) Eq (act action : ProcessM ω Unit) (act action') := by
  intro p p' hp
  refine ⟨rfl, hp.machine, ?_⟩
  change deeds (p.actions ++ [action]) = deeds (p'.actions ++ [action'])
  simpa [deeds, h, h'] using hp.deeds

/-- The same move of the world, for the same action. -/
theorem SameDeeds.moveWorld {p p' : Process ω} (hp : SameDeeds S p p') {action action' : Action}
    {w w' : ω} (haction : action = action') (hw : w = w') :
    SameDeeds S { p.moveWorld w with actions := p.actions ++ [action] }
      { p'.moveWorld w' with actions := p'.actions ++ [action'] } where
  machine := ⟨hp.machine.client, hp.machine.trace, hw, hp.machine.ticks, hp.machine.sink⟩
  deeds := by
    change Vdi.deeds (p.actions ++ [action]) = Vdi.deeds (p'.actions ++ [action'])
    rw [deeds_append, deeds_append, hp.deeds, haction]

theorem sinkAlike_wsystem (cmdline : String) :
    Coupled (SameDeeds S) Eq (wsystem host cmdline) (wsystem host cmdline) := by
  intro p p' hp
  have hrc : (host.wsystem cmdline p.machine.outside.world).1 =
      (host.wsystem cmdline p'.machine.outside.world).1 := by rw [hp.machine.world]
  have hworld : (host.wsystem cmdline p.machine.outside.world).2 =
      (host.wsystem cmdline p'.machine.outside.world).2 := by rw [hp.machine.world]
  exact ⟨hrc, hp.moveWorld (congrArg (Action.wsystem cmdline) hrc) hworld⟩

theorem sinkAlike_cinGet : Coupled (SameDeeds S) Eq (cinGet host) (cinGet host) :=
  fun _ _ hp => ⟨rfl, hp.moveWorld rfl (congrArg host.cinGet hp.machine.world)⟩

/-- The backup is asked for in the same way, and by the same command. -/
theorem sinkAlike_requestBackup (name : String) (autoMode : Bool) :
    Coupled (SameDeeds S) Eq (requestBackup host name autoMode)
      (requestBackup host name autoMode) := by
  have hlaunch : Coupled (SameDeeds S) Eq (launchSqlcmd host name backupDb)
      (launchSqlcmd host name backupDb) := by
    apply (sinkAlike_wsystem _).bindEq
    intro rc
    exact .ite .rfl (fun _ => (sinkAlike_print rfl rfl).andThen (.pure rfl)) fun _ => .pure rfl
  have hauto : Coupled (SameDeeds S) Eq (launchIfAutomated host name autoMode)
      (launchIfAutomated host name autoMode) :=
    .ite .rfl (fun _ => (sinkAlike_print rfl rfl).andThen hlaunch) fun _ => .pure rfl
  apply hauto.bindEq
  intro launched
  exact .ite .rfl (fun _ => (sinkAlike_print rfl rfl).andThen sinkAlike_cinGet) fun _ => .pure rfl

/-- `main` up to its return, for options that agree on `--auto`. -/
theorem sinkAlike_mainBody (alike : host.env.sink.Alike host.env.sink S) {fuel : Nat}
    {options options' : Options} (hmode : options.autoMode = options'.autoMode) :
    Coupled (SameDeeds S) Eq (mainBody host fuel options) (mainBody host fuel options') := by
  have prims := sinkAlike_session rfl rfl alike
  have hclose : Coupled (SameDeeds S) Eq (call (close host.env)) (call (close host.env)) :=
    sinkAlike_call prims.close_coupled
  apply (sinkAlike_print rfl rfl).andThen
  apply (sinkAlike_call prims.connect_coupled).bindEq
  intro connected
  refine .ite .rfl (fun _ => (sinkAlike_print rfl rfl).andThen (.pure rfl)) fun _ => ?_
  rw [hmode]
  apply (sinkAlike_requestBackup _ _).andThen
  apply (sinkAlike_call prims.openDevices_coupled).bindEq
  intro opened
  refine .ite .rfl
    (fun _ => (sinkAlike_print rfl rfl).andThen (hclose.andThen (.pure rfl))) fun _ => ?_
  apply (sinkAlike_print rfl rfl).andThen
  apply (sinkAlike_call prims.serve_coupled).bindEq
  intro returned
  exact .ite .rfl (fun _ => hclose.andThen (.pure rfl)) fun _ => .pure rfl

/-- The relation between the sinks may be forgotten. -/
theorem SameDeeds.anySink {p p' : Process ω} (hp : SameDeeds S p p') :
    SameDeeds (fun _ _ => True) p p' :=
  ⟨⟨hp.machine.client, hp.machine.trace, hp.machine.world, hp.machine.ticks, trivial⟩, hp.deeds⟩

/-- Leaving `main` destroys sinks that are no longer alike. -/
theorem sinkAlike_main (alike : host.env.sink.Alike host.env.sink S) {fuel : Nat}
    {options options' : Options} (hmode : options.autoMode = options'.autoMode) :
    Related (SameDeeds S) (fun code code' p p' => code = code' ∧ SameDeeds (fun _ _ => True) p p')
      (main host fuel options) (main host fuel options') := by
  refine (sinkAlike_mainBody alike hmode).bindRelated fun code code' hcode => ?_
  rw [hcode]
  cases code' with
  | none => exact fun p p' hp => ⟨rfl, hp.anySink⟩
  | some code =>
      have hdestroy : Coupled (SameDeeds S) Eq (call (destroy host.env))
          (call (destroy host.env)) :=
        sinkAlike_call (sinkAlike_session rfl rfl alike).destroy_coupled
      intro p p' hp
      obtain ⟨-, hp⟩ := hdestroy p p' hp
      have hsame := hp.anySink
      exact ⟨rfl, ⟨hsame.machine.client, hsame.machine.trace, hsame.machine.world,
        hsame.machine.ticks, trivial⟩, hsame.deeds⟩

/-- **The sink does not show.**  Where the file can be opened, the buffer of the `FileSink` is
allocated and the disk keeps everything, two runs of the program that agree on `--auto` differ in
nothing but their sink and the console: they make the same calls on COM and the devices with the
same answers, launch the same `sqlcmd`, leave the same world and the same fields of the client, its
metrics included, and return the same exit code. -/
theorem runMain_sinkChoice (world : ω) (injected : FaultInjector) (fuel : Nat)
    (args args' : List String) (hstores : host.Stores)
    (hmode : (Options.parse {} args).autoMode = (Options.parse {} args').autoMode) :
    let run := runMain host world injected fuel args
    let run' := runMain host world injected fuel args'
    run.1 = run'.1 ∧ run.2.machine.trace = run'.2.machine.trace ∧
      deeds run.2.actions = deeds run'.2.actions ∧
      run.2.machine.outside.world = run'.2.machine.outside.world ∧
      run.2.machine.client = run'.2.machine.client := by
  intro run run'
  have hstart : SameDeeds BothIntact (host.newProcess world injected (Options.parse {} args))
      (host.newProcess world injected (Options.parse {} args')) :=
    ⟨⟨rfl, rfl, rfl, rfl, hstores.newSink _, hstores.newSink _⟩, rfl⟩
  obtain ⟨hcode, hsame⟩ := sinkAlike_main hstores.alike hmode _ _ hstart
  exact ⟨hcode, hsame.machine.trace, hsame.deeds, hsame.machine.world, hsame.machine.client⟩

/-- A session that breaks down after one byte, with either sink. -/
theorem runMain_sinkChoice_broken :
    let run := runMain (goodHost brokenScript) (Server.start []) {} 2 ["--auto"]
    let run' := runMain (goodHost brokenScript) (Server.start []) {} 2 ["--sink", "file", "--auto"]
    run.1 = run'.1 ∧ run.2.machine.trace = run'.2.machine.trace ∧
      deeds run.2.actions = deeds run'.2.actions ∧
      run.2.machine.outside.world = run'.2.machine.outside.world ∧
      run.2.machine.client = run'.2.machine.client :=
  runMain_sinkChoice (Server.start []) {} 2 ["--auto"] ["--sink", "file", "--auto"]
    ⟨rfl, rfl, fun _ => ⟨rfl, Nat.le_refl _⟩⟩ rfl

end Program

end Vdi
