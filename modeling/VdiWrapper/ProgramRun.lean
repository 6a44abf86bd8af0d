import VdiWrapper.DeviceLife
import VdiWrapper.DeviceSetLife
import VdiWrapper.Program

/-!
# Every way through the program

`MainRun` lists the ways through `main` as lists of actions, and `runMain_mainRun` proves the list
complete.  What `main` does with its client is a life of a client (`MainRun.lifetimeRun`), so the
results on lives hold of the program; `runMain_path` is the same for the environment, whose world
`sqlcmd` and the person in front of the terminal change behind the client's back.
-/

namespace Vdi

open Runs

variable {ω α β : Type} {host : Host ω} {p p' : Process ω}

/-! ## Steps of the process -/

/-- The part of the client in an action. -/
def Action.event? : Action → Option Event
  | .client e => some e
  | .wsystem .. | .cinGet | .out _ | .err _ => none

/-- The trace of the client in a list of actions. -/
def clientEvents (acts : List Action) : List Event := acts.filterMap Action.event?

@[simp] theorem clientEvents_append (acts acts' : List Action) :
    clientEvents (acts ++ acts') = clientEvents acts ++ clientEvents acts' :=
  List.filterMap_append

@[simp] theorem clientEvents_out (text : String) (acts : List Action) :
    clientEvents (.out text :: acts) = clientEvents acts := rfl

@[simp] theorem clientEvents_err (text : String) (acts : List Action) :
    clientEvents (.err text :: acts) = clientEvents acts := rfl

@[simp] theorem clientEvents_map_client (es : List Event) :
    clientEvents (es.map .client) = es := by
  induction es with
  | nil => rfl
  | cons e es ih => exact congrArg (e :: ·) ih

/-- What an action may do to the environment. -/
def Host.Answers (host : Host ω) (o : Outside ω ChosenSink) (action : Action)
    (o' : Outside ω ChosenSink) : Prop :=
  match action with
  | .client e => host.env.Answers o e o'
  | .wsystem cmdline rc =>
      ∃ w, host.wsystem cmdline o.world = (rc, w) ∧ o' = { o with world := w }
  | .cinGet => o' = { o with world := host.cinGet o.world }
  | .out _ | .err _ => o' = o

/-- The actions lead from one process to the other, the environment agreeing to each of them. -/
structure Performs (host : Host ω) (p : Process ω) (acts : List Action) (p' : Process ω) :
    Prop where
  actions : p'.actions = p.actions ++ acts
  trace : p'.machine.trace = p.machine.trace ++ clientEvents acts
  path : Path host.Answers p.machine.outside acts p'.machine.outside

theorem Performs.refl (host : Host ω) (p : Process ω) : Performs host p [] p :=
  ⟨by simp, by simp [clientEvents], .nil _⟩

/-- Two stretches of a run are one. -/
theorem Performs.trans {p'' : Process ω} {acts acts' : List Action}
    (h : Performs host p acts p') (h' : Performs host p' acts' p'') :
    Performs host p (acts ++ acts') p'' := by
  constructor
  · rw [h'.actions, h.actions, List.append_assoc]
  · rw [h'.trace, h.trace, clientEvents_append, List.append_assoc]
  · exact h.path.append h'.path

theorem process_bind {x : ProcessM ω α} {f : α → ProcessM ω β} {b : β}
    (h : (x >>= f).run p = (b, p')) :
    ∃ a mid, x.run p = (a, mid) ∧ (f a).run mid = (b, p') :=
  ⟨(x.run p).1, (x.run p).2, rfl, h⟩

theorem process_pure {a b : α} (h : (pure a : ProcessM ω α).run p = (b, p')) :
    b = a ∧ p' = p := by
  cases h
  exact ⟨rfl, rfl⟩

/-- An action the environment has no part in leaves the client and the world alone. -/
theorem act_run {action : Action} {u : Unit} (hanswers : ∀ o, host.Answers o action o)
    (hsilent : action.event? = none) (h : (act action : ProcessM ω Unit).run p = (u, p')) :
    Performs host p [action] p' ∧ p'.machine = p.machine := by
  cases h
  refine ⟨⟨rfl, ?_, .single (hanswers _)⟩, rfl⟩
  simp [clientEvents, hsilent]

theorem out_run (host : Host ω) {text : String} {u : Unit}
    (h : (act (.out text) : ProcessM ω Unit).run p = (u, p')) :
    Performs host p [.out text] p' ∧ p'.machine = p.machine :=
  act_run (fun _ => rfl) rfl h

theorem err_run (host : Host ω) {text : String} {u : Unit}
    (h : (act (.err text) : ProcessM ω Unit).run p = (u, p')) :
    Performs host p [.err text] p' ∧ p'.machine = p.machine :=
  act_run (fun _ => rfl) rfl h

/-- `_wsystem` moves the world, and the client does not notice. -/
theorem wsystem_run {cmdline : String} {rc : Int}
    (h : (wsystem host cmdline).run p = (rc, p')) :
    Performs host p [.wsystem cmdline rc] p' ∧ p'.machine.client = p.machine.client := by
  cases h
  refine ⟨⟨rfl, ?_, .single ⟨_, rfl, rfl⟩⟩, rfl⟩
  exact (List.append_nil _).symm

/-- The same for the return key. -/
theorem cinGet_run {u : Unit} (h : (cinGet host).run p = (u, p')) :
    Performs host p [.cinGet] p' ∧ p'.machine.client = p.machine.client := by
  cases h
  refine ⟨⟨rfl, ?_, .single rfl⟩, rfl⟩
  exact (List.append_nil _).symm

/-- A call on the client is that call, seen from the process. -/
theorem call_run {x : VdiM ω ChosenSink α} {a : α} (htraced : Traced host.env x)
    (h : (call x).run p = (a, p')) :
    ∃ es, x.run p.machine = (a, p'.machine) ∧ p'.machine.trace = p.machine.trace ++ es ∧
      Performs host p (es.map .client) p' := by
  cases h
  obtain ⟨es, htrace, hpath⟩ := htraced p.machine (x.run p.machine).1 (x.run p.machine).2 rfl
  refine ⟨es, rfl, htrace, ?_, ?_, ?_⟩
  · change p.actions ++ ((x.run p.machine).2.trace.drop p.machine.trace.length).map .client = _
    rw [htrace, List.drop_left]
  · rw [clientEvents_map_client]
    exact htrace
  · refine hpath.map id Action.client ?_
    intro s e t hstep
    exact hstep

/-! ## What the calls return -/

section Results

variable {σ : Type} {env : Env ω σ} {m m' : Machine ω σ}

/-- The three lines with which `connect` and `open_devices` give up. -/
theorem failure_result {line : LogLine} {ok : Bool}
    (h : (do log line; setState .failed; return false : VdiM ω σ Bool).run m = (ok, m')) :
    m'.client.state = if ok then .connected else .failed := by
  obtain ⟨rfl, hclient, -⟩ := failure_run h
  rw [hclient]
  rfl

/-- `connect` after its check of the state: `CONNECTED` on true, `FAILED` on false. -/
theorem connectWith_result {name : String} {count : Int} {com : ComRuntime} {ok : Bool}
    (h : (connectWith env name count com).run m = (ok, m')) :
    m'.client.state = if ok then .connected else .failed := by
  unfold connectWith at h
  split at h
  · exact failure_result h
  · obtain ⟨⟨hr, ds⟩, m₁, -, h⟩ := bind_run h
    dsimp only at h
    split at h
    · exact failure_result h
    · obtain ⟨_, m₂, -, h⟩ := bind_run h
      obtain ⟨hr', m₃, -, h⟩ := bind_run h
      split at h
      · obtain ⟨_, m₄, -, h⟩ := bind_run h
        obtain ⟨_, m₅, -, h⟩ := bind_run h
        obtain ⟨_, m₆, -, h⟩ := bind_run h
        obtain ⟨_, m₇, hstate, h⟩ := bind_run h
        obtain ⟨rfl, rfl⟩ := pure_run h
        rw [(setState_run hstate).1]
        rfl
      · obtain ⟨_, m₄, hstate, h⟩ := bind_run h
        obtain ⟨rfl, rfl⟩ := pure_run h
        rw [(setState_run hstate).1]
        rfl

/-- On a new client `connect` reports how it left the session. -/
theorem connect_result {name : String} {count : Int} {ok : Bool} (hinit : m.client.state = .init)
    (h : (connect env name count).run m = (ok, m')) :
    m'.client.state = if ok then .connected else .failed := by
  obtain ⟨c, m₁, hself, h⟩ := bind_run h
  obtain ⟨rfl, rfl⟩ := self_run hself
  rw [if_neg (by simp [hinit])] at h
  obtain ⟨_, m₂, -, h⟩ := bind_run h
  obtain ⟨com, m₃, -, h⟩ := bind_run h
  obtain ⟨ok', m₄, hwith, h⟩ := bind_run h
  obtain ⟨_, m₅, hdestroy, h⟩ := bind_run h
  obtain ⟨rfl, rfl⟩ := pure_run h
  have hkept : m'.client = m₄.client := by
    unfold ComRuntime.destroy at hdestroy
    split at hdestroy
    · exact (comCall_run hdestroy).1
    · rw [(pure_run hdestroy).2]
  rw [hkept]
  exact connectWith_result hwith

/-- On a connected client `open_devices` reports how it left the session. -/
theorem openDevices_result {ok : Bool} (hconnected : m.client.state = .connected)
    (h : (openDevices env).run m = (ok, m')) :
    m'.client.state = if ok then .streaming else .failed := by
  obtain ⟨c, m₁, hself, h⟩ := bind_run h
  obtain ⟨rfl, rfl⟩ := self_run hself
  rw [if_neg (by simp [hconnected])] at h
  cases hset : m₁.client.deviceSet with
  | none =>
      rw [hset] at h
      obtain ⟨rfl, hclient, -⟩ := failure_run h
      rw [hclient]
      rfl
  | some ds =>
      rw [hset] at h
      obtain ⟨hr, m₂, -, h⟩ := bind_run h
      split at h
      · obtain ⟨rfl, hclient, -⟩ := failure_run h
        rw [hclient]
        rfl
      · obtain ⟨_, m₃, hstate, h⟩ := bind_run h
        obtain ⟨rfl, rfl⟩ := pure_run h
        rw [(setState_run hstate).1]
        rfl

/-- Each turn polls a device once. -/
theorem LoopRun.length_pollAnswers {start : UInt64} {devices : List Device} {c c' : Client}
    {k : Nat} {es : List Event} {flow : Flow} (h : LoopRun start devices c k es flow c') :
    (pollAnswers es).length = k := by
  induction h with
  | start => rfl
  | turn before served turn ih =>
      obtain ⟨hr, cmd, hanswers, -⟩ := turn.answered
      rw [pollAnswers_append, List.length_append, ih, hanswers]
      rfl

/-- A call that is still serving has polled in every round. -/
theorem processCommands_polls {fuel : Nat} (h : (processCommands env fuel).run m = (false, m')) :
    (pollAnswers m.trace).length + fuel ≤ (pollAnswers m'.trace).length := by
  obtain ⟨c, m₁, hself, h⟩ := bind_run h
  obtain ⟨rfl, rfl⟩ := self_run hself
  split at h
  · obtain ⟨_, m₂, -, h⟩ := bind_run h
    cases (pure_run h).1
  · cases hset : m₁.client.deviceSet with
    | none =>
        rw [hset] at h
        obtain ⟨_, m₂, -, h⟩ := bind_run h
        cases (pure_run h).1
    | some ds =>
        rw [hset] at h
        obtain ⟨r, m₂, hopen, h⟩ := bind_run h
        cases r with
        | none => cases (pure_run h).1
        | some devices =>
            obtain ⟨start, m₃, hclock, h⟩ := bind_run h
            obtain ⟨_, m₄, hinit, h⟩ := bind_run h
            obtain ⟨flow, m₅, hloop, h⟩ := bind_run h
            cases flow with
            | stop =>
                obtain ⟨_, m₆, -, h⟩ := bind_run h
                cases (pure_run h).1
            | next =>
                obtain ⟨-, rfl⟩ := pure_run h
                have hpos := openAll_length_pos hopen
                obtain ⟨es₁, htrace₁, -⟩ := openAll_traced _ _ _ hopen
                obtain ⟨-, htrace₂⟩ := nowUs_run hclock
                obtain ⟨k, hturns, -, hall⟩ := whileFuel_turns hloop
                obtain ⟨es, htrace, run⟩ := roundRobin_loopRun hturns
                have hlength := run.length_pollAnswers
                have hrounds : fuel ≤ fuel * devices.length := Nat.le_mul_of_pos_right fuel hpos
                rw [htrace, update_run hinit, htrace₂, htrace₁]
                simp only [pollAnswers_append, List.length_append]
                rw [hlength, hall rfl]
                omega

end Results

/-! ## The ways through `main` -/

/-- How SQL Server is asked for a backup. -/
inductive RequestRun (name : String) : Bool → List Action → Prop
  | launched (text : String) :
      RequestRun name true [.out text, .wsystem (sqlcmdLine name backupDb) 0]
  | launchFailed (text text' : String) (rc : Int) (hrc : rc ≠ 0) :
      RequestRun name true
        [.out text, .wsystem (sqlcmdLine name backupDb) rc, .err text', .out (instruction name),
          .cinGet]
  | prompted : RequestRun name false [.out (instruction name), .cinGet]

/-- Every way through `main`, watched for `fuel` rounds of its command loop: its actions, its exit
code and the fields of the client in the end. -/
inductive MainRun (name : String) (options : Options) (fuel : Nat) (c : Client) :
    List Action → Option Int → Client → Prop
  | connectFailed {es es' : List Event} {c₁ c' : Client} (connect : ConnectRun name 1 c es c₁)
      (hfailed : c₁.state = .failed) (destroyed : DestroyRun c₁ es' c') :
      MainRun name options fuel c
        ([.out (banner name 1 options)] ++ es.map .client ++ [.err "Failed to connect.\n"] ++
          es'.map .client)
        (some 1) c'
  | openFailed {es es₁ es₂ es' : List Event} {c₁ c₂ c₃ c' : Client} {request : List Action}
      (connect : ConnectRun name 1 c es c₁) (hconnected : c₁.state = .connected)
      (requested : RequestRun name options.autoMode request) (opened : OpenRun c₁ es₁ c₂)
      (hfailed : c₂.state = .failed) (closed : CallRun c₂ .close es₂ .next c₃)
      (destroyed : DestroyRun c₃ es' c') :
      MainRun name options fuel c
        ([.out (banner name 1 options)] ++ es.map .client ++ request ++ es₁.map .client ++
          [.err "Failed to open devices.\n"] ++ es₂.map .client ++ es'.map .client)
        (some 1) c'
  | serving {es es₁ es₂ : List Event} {c₁ c₂ c₃ : Client} {request : List Action}
      (connect : ConnectRun name 1 c es c₁) (hconnected : c₁.state = .connected)
      (requested : RequestRun name options.autoMode request) (opened : OpenRun c₁ es₁ c₂)
      (hstreaming : c₂.state = .streaming) (run : CommandRun c₂ es₂ false c₃)
      (polled : fuel ≤ (pollAnswers es₂).length) :
      MainRun name options fuel c
        ([.out (banner name 1 options)] ++ es.map .client ++ request ++ es₁.map .client ++
          [.out "\nVDI device open and ready. Data transfer starting...\n\n"] ++ es₂.map .client)
        none c₃
  | served {es es₁ es₂ es₃ es' : List Event} {c₁ c₂ c₃ c₄ c' : Client} {request : List Action}
      (connect : ConnectRun name 1 c es c₁) (hconnected : c₁.state = .connected)
      (requested : RequestRun name options.autoMode request) (opened : OpenRun c₁ es₁ c₂)
      (hstreaming : c₂.state = .streaming) (run : CommandRun c₂ es₂ true c₃)
      (closed : CallRun c₃ .close es₃ .next c₄) (destroyed : DestroyRun c₄ es' c') :
      MainRun name options fuel c
        ([.out (banner name 1 options)] ++ es.map .client ++ request ++ es₁.map .client ++
          [.out "\nVDI device open and ready. Data transfer starting...\n\n"] ++
          es₂.map .client ++ es₃.map .client ++ es'.map .client)
        (some 0) c'

/-! ## Completeness -/

/-- The three ways of the automatic request: launched, launched in vain, not asked for. -/
theorem launchIfAutomated_run {name : String} {autoMode launched : Bool}
    (h : (launchIfAutomated host name autoMode).run p = (launched, p')) :
    ∃ acts, Performs host p acts p' ∧ p'.machine.client = p.machine.client ∧
      ((autoMode = true ∧ launched = true ∧
          ∃ text, acts = [.out text, .wsystem (sqlcmdLine name backupDb) 0]) ∨
        (autoMode = true ∧ launched = false ∧ ∃ text text' rc, rc ≠ 0 ∧
          acts = [.out text, .wsystem (sqlcmdLine name backupDb) rc, .err text']) ∨
        (autoMode = false ∧ launched = false ∧ acts = [])) := by
  unfold launchIfAutomated at h
  split at h
  · next hauto =>
    obtain ⟨_, p₁, hout, h⟩ := process_bind h
    obtain ⟨performs₁, hmachine₁⟩ := out_run host hout
    obtain ⟨rc, p₂, hsystem, h⟩ := process_bind h
    obtain ⟨performs₂, hclient₂⟩ := wsystem_run hsystem
    rw [hmachine₁] at hclient₂
    by_cases hrc : rc = 0
    · rw [if_neg (by simp [hrc])] at h
      obtain ⟨rfl, rfl⟩ := process_pure h
      rw [hrc] at performs₂
      exact ⟨_, performs₁.trans performs₂, hclient₂, .inl ⟨hauto, rfl, _, rfl⟩⟩
    · rw [if_pos hrc] at h
      obtain ⟨_, p₃, herr, h⟩ := process_bind h
      obtain ⟨performs₃, hmachine₃⟩ := err_run host herr
      obtain ⟨rfl, rfl⟩ := process_pure h
      refine ⟨_, (performs₁.trans performs₂).trans performs₃, by rw [hmachine₃, hclient₂], ?_⟩
      exact .inr (.inl ⟨hauto, rfl, _, _, rc, hrc, rfl⟩)
  · next hauto =>
    obtain ⟨rfl, rfl⟩ := process_pure h
    exact ⟨[], .refl host _, rfl, .inr (.inr ⟨by simpa using hauto, rfl, rfl⟩)⟩

/-- However the backup is asked for, the client has no part in it. -/
theorem requestBackup_run {name : String} {autoMode : Bool} {u : Unit}
    (h : (requestBackup host name autoMode).run p = (u, p')) :
    ∃ request, Performs host p request p' ∧ p'.machine.client = p.machine.client ∧
      RequestRun name autoMode request := by
  obtain ⟨launched, p₁, hlaunch, h⟩ := process_bind h
  obtain ⟨acts, performs₁, hclient₁, hways⟩ := launchIfAutomated_run hlaunch
  cases launched with
  | true =>
      obtain ⟨-, rfl⟩ := process_pure h
      obtain ⟨hauto, -, text, hacts⟩ | ⟨-, hfalse, -⟩ | ⟨-, hfalse, -⟩ := hways
      · rw [hacts] at performs₁
        rw [hauto]
        exact ⟨_, performs₁, hclient₁, .launched text⟩
      · cases hfalse
      · cases hfalse
  | false =>
      obtain ⟨_, p₂, hout, h⟩ := process_bind h
      obtain ⟨performs₂, hmachine₂⟩ := out_run host hout
      obtain ⟨performs₃, hclient₃⟩ := cinGet_run h
      have performs := performs₁.trans (performs₂.trans performs₃)
      have hclient : p'.machine.client = p.machine.client := by
        rw [hclient₃, hmachine₂, hclient₁]
      obtain ⟨-, htrue, -⟩ | ⟨hauto, -, text, text', rc, hrc, hacts⟩ | ⟨hauto, -, hacts⟩ := hways
      · cases htrue
      · rw [hacts] at performs
        rw [hauto]
        exact ⟨_, performs, hclient, .launchFailed text text' rc hrc⟩
      · rw [hacts] at performs
        rw [hauto]
        exact ⟨_, performs, hclient, .prompted⟩

/-- On a new client `connect` is not refused. -/
theorem ConnectRun.of_callRun {name : String} {count : Int} {c c' : Client} {es : List Event}
    (hinit : c.state = .init) (h : CallRun c (.connect name count) es .next c') :
    ConnectRun name count c es c' := by
  cases h with
  | connectRefused _ _ hstate => exact absurd hinit hstate
  | connect _ run => exact run

/-- On a connected client `open_devices` is not refused. -/
theorem OpenRun.of_callRun {c c' : Client} {es : List Event} (hconnected : c.state = .connected)
    (h : CallRun c .openDevices es .next c') : OpenRun c es c' := by
  cases h with
  | openRefused hstate => exact absurd hconnected hstate
  | openDevices _ run => exact run

/-- `close` goes one of the ways of its big-step relation, seen from the process. -/
theorem callClose_run {u : Unit} (h : (call (close host.env)).run p = (u, p')) :
    ∃ es, Performs host p (es.map .client) p' ∧
      CallRun p.machine.client .close es .next p'.machine.client := by
  obtain ⟨es, hrun, htrace, performs⟩ := call_run close_traced h
  have hclose : (ApiCall.close.run host.env).run p.machine = (.next, p'.machine) := run_bind hrun
  obtain ⟨es', htrace', run⟩ := apiCall_callRun hclose
  rw [htrace, List.append_cancel_left_eq] at htrace'
  rw [htrace'] at performs
  exact ⟨es', performs, run⟩

/-- So does the destructor. -/
theorem callDestroy_run {u : Unit} (h : (call (destroy host.env)).run p = (u, p')) :
    ∃ es, Performs host p (es.map .client) p' ∧
      DestroyRun p.machine.client es p'.machine.client := by
  obtain ⟨es, hrun, htrace, performs⟩ := call_run destroy_traced h
  obtain ⟨es', htrace', run⟩ := destroy_run hrun
  rw [htrace, List.append_cancel_left_eq] at htrace'
  rw [htrace'] at performs
  exact ⟨es', performs, run⟩

/-- `connect`, with what it returns. -/
theorem callConnect_run {name : String} {ok : Bool} (hinit : p.machine.client.state = .init)
    (h : (call (connect host.env name 1)).run p = (ok, p')) :
    ∃ es, Performs host p (es.map .client) p' ∧
      ConnectRun name 1 p.machine.client es p'.machine.client ∧
      p'.machine.client.state = if ok then .connected else .failed := by
  obtain ⟨es, hrun, htrace, performs⟩ := call_run connect_traced h
  obtain ⟨es', htrace', run⟩ := connect_run hrun
  rw [htrace, List.append_cancel_left_eq] at htrace'
  rw [htrace'] at performs
  exact ⟨es', performs, .of_callRun hinit run, connect_result hinit hrun⟩

/-- `open_devices`, with what it returns. -/
theorem callOpenDevices_run {ok : Bool} (hconnected : p.machine.client.state = .connected)
    (h : (call (openDevices host.env)).run p = (ok, p')) :
    ∃ es, Performs host p (es.map .client) p' ∧
      OpenRun p.machine.client es p'.machine.client ∧
      p'.machine.client.state = if ok then .streaming else .failed := by
  obtain ⟨es, hrun, htrace, performs⟩ := call_run openDevices_traced h
  obtain ⟨es', htrace', run⟩ := openDevices_run hrun
  rw [htrace, List.append_cancel_left_eq] at htrace'
  rw [htrace'] at performs
  exact ⟨es', performs, .of_callRun hconnected run, openDevices_result hconnected hrun⟩

/-- `process_commands`: a call still serving has polled as often as it had fuel. -/
theorem callProcessCommands_run {fuel : Nat} {returned : Bool}
    (h : (call (processCommands host.env fuel)).run p = (returned, p')) :
    ∃ es, Performs host p (es.map .client) p' ∧
      CommandRun p.machine.client es returned p'.machine.client ∧
      (returned = false → fuel ≤ (pollAnswers es).length) := by
  obtain ⟨es, hrun, htrace, performs⟩ := call_run processCommands_traced h
  obtain ⟨es', htrace', run⟩ := processCommands_commandRun hrun
  rw [htrace, List.append_cancel_left_eq] at htrace'
  rw [htrace'] at performs
  refine ⟨es', performs, run, fun hserving => ?_⟩
  rw [hserving] at hrun
  have hpolls := processCommands_polls hrun
  rw [htrace, htrace', pollAnswers_append, List.length_append] at hpolls
  omega

/-- Leaving `main`: the client is destroyed, and then its sink. -/
theorem leaveMain_run {u : Unit} (h : (leaveMain host).run p = (u, p')) :
    ∃ es mid, Performs host p (es.map .client) mid ∧
      DestroyRun p.machine.client es mid.machine.client ∧
      p' = { mid with machine := { mid.machine with outside := { mid.machine.outside with
        sink := mid.machine.outside.sink.destroy host.disk } } } := by
  obtain ⟨_, mid, hdestroy, h⟩ := process_bind h
  obtain ⟨es, performs, run⟩ := callDestroy_run hdestroy
  cases h
  exact ⟨es, mid, performs, run, rfl⟩

/-- The process when `main` is left: `mid`, with its sink destroyed once there is an exit code. -/
def Left (host : Host ω) (code : Option Int) (mid p' : Process ω) : Prop :=
  p' = if code.isSome then
    { mid with machine := { mid.machine with outside := { mid.machine.outside with
        sink := mid.machine.outside.sink.destroy host.disk } } }
  else mid

theorem Left.actions {code : Option Int} {mid : Process ω} (h : Left host code mid p') :
    p'.actions = mid.actions := by
  rw [h]
  split <;> rfl

theorem Left.client {code : Option Int} {mid : Process ω} (h : Left host code mid p') :
    p'.machine.client = mid.machine.client := by
  rw [h]
  split <;> rfl

theorem Left.trace {code : Option Int} {mid : Process ω} (h : Left host code mid p') :
    p'.machine.trace = mid.machine.trace := by
  rw [h]
  split <;> rfl

theorem Left.sink {code : Option Int} {mid : Process ω} (h : Left host code mid p')
    (hcode : code.isSome) :
    p'.machine.outside.sink = mid.machine.outside.sink.destroy host.disk := by
  rw [h, if_pos hcode]

/-- **Completeness.**  Whatever surrounds it, `main` goes one of the ways of `MainRun`. -/
theorem main_mainRun {options : Options} {fuel : Nat} {code : Option Int}
    (hinit : p.machine.client.state = .init) (h : (main host fuel options).run p = (code, p')) :
    ∃ acts mid, Performs host p acts mid ∧ Left host code mid p' ∧
      MainRun host.deviceName options fuel p.machine.client acts code mid.machine.client := by
  obtain ⟨code', p₀, hbody, h⟩ := process_bind h
  obtain ⟨_, p₁, hbanner, hbody⟩ := process_bind hbody
  obtain ⟨performs₁, hmachine₁⟩ := out_run host hbanner
  obtain ⟨connected, p₂, hconnect, hbody⟩ := process_bind hbody
  obtain ⟨es, performs₂, connect, hstate₂⟩ := callConnect_run (by rwa [hmachine₁]) hconnect
  rw [hmachine₁] at connect
  cases connected with
  | false =>
      obtain ⟨_, p₃, herr, hbody⟩ := process_bind hbody
      obtain ⟨performs₃, hmachine₃⟩ := err_run host herr
      obtain ⟨rfl, rfl⟩ := process_pure hbody
      obtain ⟨_, p₄, hleave, h⟩ := process_bind h
      obtain ⟨rfl, rfl⟩ := process_pure h
      obtain ⟨es', mid, performs₄, destroyed, hleft⟩ := leaveMain_run hleave
      rw [hmachine₃] at destroyed
      exact ⟨_, mid, ((performs₁.trans performs₂).trans performs₃).trans performs₄, hleft,
        .connectFailed connect hstate₂ destroyed⟩
  | true =>
      obtain ⟨_, p₃, hrequest, hbody⟩ := process_bind hbody
      obtain ⟨request, performs₃, hclient₃, requested⟩ := requestBackup_run hrequest
      obtain ⟨opened, p₄, hopen, hbody⟩ := process_bind hbody
      obtain ⟨es₁, performs₄, openRun, hstate₄⟩ := callOpenDevices_run (by rwa [hclient₃]) hopen
      rw [hclient₃] at openRun
      have performs := ((performs₁.trans performs₂).trans performs₃).trans performs₄
      cases opened with
      | false =>
          obtain ⟨_, p₅, herr, hbody⟩ := process_bind hbody
          obtain ⟨performs₅, hmachine₅⟩ := err_run host herr
          obtain ⟨_, p₆, hclose, hbody⟩ := process_bind hbody
          obtain ⟨es₂, performs₆, closed⟩ := callClose_run hclose
          rw [hmachine₅] at closed
          obtain ⟨rfl, rfl⟩ := process_pure hbody
          obtain ⟨_, p₇, hleave, h⟩ := process_bind h
          obtain ⟨rfl, rfl⟩ := process_pure h
          obtain ⟨es', mid, performs₇, destroyed, hleft⟩ := leaveMain_run hleave
          exact ⟨_, mid, ((performs.trans performs₅).trans performs₆).trans performs₇, hleft,
            .openFailed connect hstate₂ requested openRun hstate₄ closed destroyed⟩
      | true =>
          obtain ⟨_, p₅, hout, hbody⟩ := process_bind hbody
          obtain ⟨performs₅, hmachine₅⟩ := out_run host hout
          obtain ⟨returned, p₆, hprocess, hbody⟩ := process_bind hbody
          obtain ⟨es₂, performs₆, run, polled⟩ := callProcessCommands_run hprocess
          rw [hmachine₅] at run
          cases returned with
          | false =>
              obtain ⟨rfl, rfl⟩ := process_pure hbody
              obtain ⟨rfl, rfl⟩ := process_pure h
              exact ⟨_, _, (performs.trans performs₅).trans performs₆, rfl,
                .serving connect hstate₂ requested openRun hstate₄ run (polled rfl)⟩
          | true =>
              obtain ⟨_, p₇, hclose, hbody⟩ := process_bind hbody
              obtain ⟨es₃, performs₇, closed⟩ := callClose_run hclose
              obtain ⟨rfl, rfl⟩ := process_pure hbody
              obtain ⟨_, p₈, hleave, h⟩ := process_bind h
              obtain ⟨rfl, rfl⟩ := process_pure h
              obtain ⟨es', mid, performs₈, destroyed, hleft⟩ := leaveMain_run hleave
              exact ⟨_, mid, (((performs.trans performs₅).trans performs₆).trans performs₇).trans
                performs₈, hleft,
                .served connect hstate₂ requested openRun hstate₄ run closed destroyed⟩

end Vdi
