import VdiWrapper.ProcessCommands

/-!
# Executing client code

Two views of a run of client code, both used by every later module.

* **Inversion.**  `bind_run` cuts a run at a `do` line, and each primitive has a `_run` lemma that
  says what it did to the fields and to the trace.  Walking through a function with them replaces
  unfolding it.
* **Soundness of the trace.**  `Env.Answers` is the transition relation of the environment, one
  event at a time, and `Traced` says that a piece of code extends the trace by a path of it.
  `processCommands_traced` and its neighbours prove it for the whole client: no event records an
  answer the environment did not give.
-/

namespace Vdi

open Runs

variable {ω σ α β : Type} {env : Env ω σ} {m m' : Machine ω σ}

/-! ## Inversion -/

/-- A run of two steps passes through the machine between them. -/
theorem bind_run {x : VdiM ω σ α} {f : α → VdiM ω σ β} {b : β}
    (h : (x >>= f).run m = (b, m')) :
    ∃ a mid, x.run m = (a, mid) ∧ (f a).run mid = (b, m') :=
  ⟨(x.run m).1, (x.run m).2, rfl, h⟩

/-- Running forward: the first step is known. -/
theorem run_bind {x : VdiM ω σ α} {f : α → VdiM ω σ β} {a : α}
    (h : x.run m = (a, m')) : (x >>= f).run m = (f a).run m' := by
  rw [StateT.run_bind, h]
  rfl

theorem run_self_bind {f : Client → VdiM ω σ β} :
    (self >>= f).run m = (f m.client).run m := rfl

/-- Returning a value touches nothing. -/
theorem pure_run {a b : α} (h : (pure a : VdiM ω σ α).run m = (b, m')) : b = a ∧ m' = m := by
  cases h
  exact ⟨rfl, rfl⟩

/-- Reading the fields touches nothing. -/
theorem self_run {c : Client} (h : (self : VdiM ω σ Client).run m = (c, m')) :
    c = m.client ∧ m' = m := by
  cases h
  exact ⟨rfl, rfl⟩

/-- An assignment to a field leaves no event: the trace and the outside world stay as they are. -/
theorem update_run {f : Client → Client} {u : Unit}
    (h : (update f : VdiM ω σ Unit).run m = (u, m')) : m' = { m with client := f m.client } := by
  cases h
  rfl

/-- An event is appended to the trace, and nothing else happens. -/
theorem emit_run {e : Event} {u : Unit} (h : (emit e : VdiM ω σ Unit).run m = (u, m')) :
    m' = { m with trace := m.trace ++ [e] } := by
  cases h
  rfl

theorem log_run {line : LogLine} {u : Unit} (h : (log line : VdiM ω σ Unit).run m = (u, m')) :
    m' = { m with trace := m.trace ++ [.log line] } :=
  emit_run h

/-- The only assignment that the trace records, with the state it leaves. -/
theorem setState_run {state : SessionState} {u : Unit}
    (h : (setState state : VdiM ω σ Unit).run m = (u, m')) :
    m'.client = { m.client with state := state } ∧
      m'.trace = m.trace ++ [.transition m.client.state state] := by
  cases h
  exact ⟨rfl, rfl⟩

/-- A call leaves the fields alone and appends its event. -/
theorem comCall_run {answer : ω → α × ω} {event : α → Event} {a : α}
    (h : (comCall answer event : VdiM ω σ α).run m = (a, m')) :
    m'.client = m.client ∧ m'.trace = m.trace ++ [event a] := by
  cases h
  exact ⟨rfl, rfl⟩

/-- So does a call on the sink. -/
theorem sinkCall_run {answer : σ → α × σ} {event : α → Event} {a : α}
    (h : (sinkCall answer event : VdiM ω σ α).run m = (a, m')) :
    m'.client = m.client ∧ m'.trace = m.trace ++ [event a] := by
  cases h
  exact ⟨rfl, rfl⟩

/-- And so does a reading of the clock. -/
theorem nowUs_run {t : UInt64} (h : (nowUs env).run m = (t, m')) :
    m'.client = m.client ∧ m'.trace = m.trace ++ [.nowUs t] := by
  cases h
  exact ⟨rfl, rfl⟩

/-! ## Soundness of the trace -/

/-- The environment in state `o` answers the call recorded in `e` as recorded and is then in
state `o'`. -/
def Env.Answers (env : Env ω σ) (o : Outside ω σ) (e : Event) (o' : Outside ω σ) : Prop :=
  match e with
  | .coInitializeEx hr =>
      ∃ w, env.com.coInitializeEx o.world = (hr, w) ∧ o' = { o with world := w }
  | .coUninit => o' = { o with world := env.com.coUninit o.world }
  | .coCreateInstance hr ds =>
      ∃ w, env.com.coCreateInstance o.world = ((hr, ds), w) ∧ o' = { o with world := w }
  | .createEx ds name config hr =>
      ∃ w, env.com.createEx ds name config o.world = (hr, w) ∧ o' = { o with world := w }
  | .getConfiguration ds timeout hr =>
      ∃ w, env.com.getConfiguration ds timeout o.world = (hr, w) ∧ o' = { o with world := w }
  | .openDevice ds name hr device =>
      ∃ w, env.com.openDevice ds name o.world = ((hr, device), w) ∧ o' = { o with world := w }
  | .setClose ds => o' = { o with world := env.com.setClose ds o.world }
  | .setRelease ds => o' = { o with world := env.com.setRelease ds o.world }
  | .getCommand device timeout hr cmd =>
      ∃ w, env.com.getCommand device timeout o.world = ((hr, cmd), w) ∧
        o' = { o with world := w }
  | .completeCommand device cmd code size position hr =>
      ∃ cmd' w, env.com.completeCommand device cmd code size position o.world = ((hr, cmd'), w) ∧
        o' = { o with world := w }
  | .deviceRelease device => o' = { o with world := env.com.deviceRelease device o.world }
  | .sinkIsOpen ok => ∃ s, env.sink.isOpen o.sink = (ok, s) ∧ o' = { o with sink := s }
  | .sinkWrite cmd ok =>
      ∃ s, env.sink.write o.sink cmd.payload = (ok, s) ∧ o' = { o with sink := s }
  | .sinkFlush => o' = { o with sink := env.sink.flush o.sink }
  | .nowUs t => t = env.clock o.ticks ∧ o' = { o with ticks := o.ticks + 1 }
  | .transition .. | .log _ | .report .. => o' = o

/-- `x` extends the trace, and only by events the environment answers. -/
def Traced (env : Env ω σ) (x : VdiM ω σ α) : Prop :=
  ∀ m a m', x.run m = (a, m') →
    ∃ es, m'.trace = m.trace ++ es ∧ Path env.Answers m.outside es m'.outside

theorem Traced.pure (a : α) : Traced env (Pure.pure a) := by
  intro m b m' h
  obtain ⟨-, rfl⟩ := pure_run h
  exact ⟨[], by simp, .nil _⟩

/-- Two traced pieces of code extend the trace one after the other. -/
theorem Traced.bind {x : VdiM ω σ α} {f : α → VdiM ω σ β} (hx : Traced env x)
    (hf : ∀ a, Traced env (f a)) : Traced env (x >>= f) := by
  intro m b m' h
  obtain ⟨a, mid, hrun, hrest⟩ := bind_run h
  obtain ⟨es, htrace, hpath⟩ := hx m a mid hrun
  obtain ⟨es', htrace', hpath'⟩ := hf a mid b m' hrest
  exact ⟨es ++ es', by rw [htrace', htrace, List.append_assoc], hpath.append hpath'⟩

theorem Traced.ite {c : Prop} [Decidable c] {x y : VdiM ω σ α} (hx : Traced env x)
    (hy : Traced env y) : Traced env (if c then x else y) := by
  split
  · exact hx
  · exact hy

theorem Traced.self : Traced env (self : VdiM ω σ Client) := by
  intro m c m' h
  obtain ⟨-, rfl⟩ := self_run h
  exact ⟨[], by simp, .nil _⟩

/-- The fields of the client are none of the environment's business. -/
theorem Traced.update (f : Client → Client) : Traced env (update f : VdiM ω σ Unit) := by
  intro m u m' h
  rw [update_run h]
  exact ⟨[], by simp, .nil _⟩

theorem Traced.log (line : LogLine) : Traced env (log line : VdiM ω σ Unit) := by
  intro m u m' h
  rw [log_run h]
  exact ⟨[.log line], rfl, .single rfl⟩

theorem Traced.emitReport (metrics : Metrics) (maxActiveBuffers : UInt64) :
    Traced env (emit (.report metrics maxActiveBuffers) : VdiM ω σ Unit) := by
  intro m u m' h
  rw [emit_run h]
  exact ⟨[.report metrics maxActiveBuffers], rfl, .single rfl⟩

/-- An assignment to `state_` is an event in which the environment has no part. -/
theorem Traced.setState (state : SessionState) :
    Traced env (setState state : VdiM ω σ Unit) := by
  intro m u m' h
  cases h
  exact ⟨[.transition m.client.state state], rfl, .single rfl⟩

/-- A call is traced when the environment answers its event as it answers the call. -/
theorem Traced.comCall {answer : ω → α × ω} {event : α → Event}
    (h : ∀ o : Outside ω σ, env.Answers o (event (answer o.world).1)
      { o with world := (answer o.world).2 }) :
    Traced env (comCall answer event : VdiM ω σ α) := by
  intro m a m' hrun
  cases hrun
  exact ⟨[event (answer m.outside.world).1], rfl, .single (h m.outside)⟩

/-- The same for a call on the sink. -/
theorem Traced.sinkCall {answer : σ → α × σ} {event : α → Event}
    (h : ∀ o : Outside ω σ, env.Answers o (event (answer o.sink).1)
      { o with sink := (answer o.sink).2 }) :
    Traced env (sinkCall answer event : VdiM ω σ α) := by
  intro m a m' hrun
  cases hrun
  exact ⟨[event (answer m.outside.sink).1], rfl, .single (h m.outside)⟩

/-- A reading is the value of the clock at the next tick. -/
theorem Traced.nowUs : Traced env (nowUs env) := by
  intro m t m' h
  cases h
  exact ⟨[.nowUs (env.clock m.outside.ticks)], rfl, .single ⟨rfl, rfl⟩⟩

theorem coInitializeEx_traced : Traced env (coInitializeEx env) :=
  .comCall fun _ => ⟨_, rfl, rfl⟩

theorem coUninit_traced : Traced env (coUninit env) := .comCall fun _ => rfl

theorem coCreateInstance_traced : Traced env (coCreateInstance env) :=
  .comCall fun _ => ⟨_, rfl, rfl⟩

theorem createEx_traced {ds : DeviceSet} {name : String} {config : VDConfig} :
    Traced env (createEx env ds name config) :=
  .comCall fun _ => ⟨_, rfl, rfl⟩

theorem getConfiguration_traced {ds : DeviceSet} {timeout : UInt32} :
    Traced env (getConfiguration env ds timeout) :=
  .comCall fun _ => ⟨_, rfl, rfl⟩

theorem openDevice_traced {ds : DeviceSet} {name : String} : Traced env (openDevice env ds name) :=
  .comCall fun _ => ⟨_, rfl, rfl⟩

theorem setClose_traced {ds : DeviceSet} : Traced env (setClose env ds) := .comCall fun _ => rfl

theorem setRelease_traced {ds : DeviceSet} : Traced env (setRelease env ds) :=
  .comCall fun _ => rfl

theorem getCommand_traced {device : Device} {timeout : UInt32} :
    Traced env (getCommand env device timeout) :=
  .comCall fun _ => ⟨_, rfl, rfl⟩

/-- `CompleteCommand` may hand the structure back changed: the environment says how. -/
theorem completeCommand_traced {device : Device} {cmd : VdcCommand} {code size : UInt32}
    {position : UInt64} : Traced env (completeCommand env device cmd code size position) :=
  .comCall fun _ => ⟨_, _, rfl, rfl⟩

theorem deviceRelease_traced {device : Device} : Traced env (deviceRelease env device) :=
  .comCall fun _ => rfl

theorem sinkIsOpen_traced : Traced env (sinkIsOpen env) := .sinkCall fun _ => ⟨_, rfl, rfl⟩

theorem sinkWrite_traced {cmd : VdcCommand} : Traced env (sinkWrite env cmd) :=
  .sinkCall fun _ => ⟨_, rfl, rfl⟩

theorem sinkFlush_traced : Traced env (sinkFlush env) := .sinkCall fun _ => rfl

/-! ## Every function of the client is traced -/

theorem comRuntimeNew_traced : Traced env (ComRuntime.new env) :=
  .bind coInitializeEx_traced fun _ => .ite (.pure _) (.pure _)

theorem comRuntimeDestroy_traced {com : ComRuntime} : Traced env (com.destroy env) :=
  .ite coUninit_traced (.pure _)

/-- Every way out of `connect` is traced, those that fail included. -/
theorem connectWith_traced {name : String} {count : Int} {com : ComRuntime} :
    Traced env (connectWith env name count com) := by
  refine .ite (.bind (.log _) fun _ => .bind (.setState _) fun _ => .pure _) ?_
  refine .bind coCreateInstance_traced fun r => .ite ?_ ?_
  · exact .bind (.log _) fun _ => .bind (.setState _) fun _ => .pure _
  · refine .bind (.update _) fun _ => .bind createEx_traced fun hr => .ite ?_ ?_
    · exact .bind (.log _) fun _ => .bind setRelease_traced fun _ => .bind (.update _) fun _ =>
        .bind (.setState _) fun _ => .pure _
    · exact .bind (.setState _) fun _ => .pure _

theorem connect_traced {name : String} {count : Int} : Traced env (connect env name count) := by
  refine .bind .self fun c => .ite (.bind (.log _) fun _ => .pure _) ?_
  exact .bind (.update _) fun _ => .bind comRuntimeNew_traced fun _ =>
    .bind connectWith_traced fun _ => .bind comRuntimeDestroy_traced fun _ => .pure _

theorem openDevices_traced : Traced env (openDevices env) := by
  refine .bind .self fun c => .ite (.bind (.log _) fun _ => .pure _) ?_
  cases c.deviceSet with
  | none => exact .bind (.log _) fun _ => .bind (.setState _) fun _ => .pure _
  | some ds =>
      refine .bind getConfiguration_traced fun hr => .ite ?_ ?_
      · exact .bind (.log _) fun _ => .bind (.setState _) fun _ => .pure _
      · exact .bind (.setState _) fun _ => .pure _

/-- The set is closed and released, and then forgotten. -/
theorem closeDeviceSet_traced {deviceSet : Option DeviceSet} :
    Traced env (closeDeviceSet env deviceSet) := by
  cases deviceSet with
  | none => exact .pure _
  | some ds => exact .bind setClose_traced fun _ => .bind setRelease_traced fun _ => .update _

theorem close_traced : Traced env (close env) := by
  refine .bind .self fun c => .ite (.pure _) ?_
  exact .bind (.ite sinkFlush_traced (.pure _)) fun _ => .bind closeDeviceSet_traced fun _ =>
    .bind (.update _) fun _ => .setState _

theorem destroy_traced : Traced env (destroy env) :=
  .bind .self fun _ => .ite (.bind (.log _) fun _ => close_traced) (.pure _)

theorem checkStall_traced {t : UInt64} : Traced env (checkStall t : VdiM ω σ Unit) := by
  refine .bind .self fun c => .ite (.update _) (.ite (.pure _) (.ite ?_ (.update _)))
  exact .bind (.log _) fun _ => .update _

/-- Each of the four ways of a failed `GetCommand`. -/
theorem getCommandFailed_traced {hr : HResult} {t : UInt64} :
    Traced env (getCommandFailed env hr t) := by
  have hsignal : Traced env (do setState .flushing; sinkFlush env; return Flow.stop) :=
    .bind (.setState _) fun _ => .bind sinkFlush_traced fun _ => .pure _
  refine .ite hsignal (.ite hsignal (.ite ?_ ?_))
  · exact .bind .self fun _ => .bind (.log _) fun _ => .bind checkStall_traced fun _ => .pure _
  · exact .bind (.log _) fun _ => .bind (.setState _) fun _ => .pure _

/-- The write stage, with the three ways it fails. -/
theorem sinkStage_traced {code : UInt32} {cmd : VdcCommand} :
    Traced env (sinkStage env code cmd) := by
  have hfail : ∀ line, Traced env
      (do log line; setState .failed; return none : VdiM ω σ (Option UInt64)) :=
    fun line => .bind (.log line) fun _ => .bind (.setState _) fun _ => .pure _
  refine .ite (.bind (.update _) fun _ => .ite (hfail _) ?_) (.pure _)
  refine .bind sinkIsOpen_traced fun _ => .ite (hfail _) ?_
  refine .bind .nowUs fun _ => .bind sinkWrite_traced fun _ => .ite (hfail _) ?_
  exact .bind .nowUs fun _ => .bind (.update _) fun _ => .pure _

/-- The completion, with the fault injection hook after it. -/
theorem completeStage_traced {device : Device} {cmd : VdcCommand} {times : StageTimes} :
    Traced env (completeStage env device cmd times) := by
  refine .bind .nowUs fun _ => .bind completeCommand_traced fun r => .bind .nowUs fun _ =>
    .ite ?_ ?_
  · exact .bind (.log _) fun _ => .bind (.setState _) fun _ => .pure _
  · refine .bind .self fun c => .bind (.update _) fun _ => .ite ?_ ?_
    · exact .bind (.log _) fun _ => .bind (.setState _) fun _ => .pure _
    · exact .bind (.update _) fun _ => .pure _

/-- A command is traced whatever `dispatch_command` makes of it. -/
theorem handleCommand_traced {start gcStart gcUs : UInt64} {device : Device}
    {cmd : VdcCommand} : Traced env (handleCommand env start gcStart gcUs device cmd) := by
  unfold handleCommand
  generalize dispatchCommand (some cmd) = dispatched
  obtain ⟨code, result⟩ := dispatched
  refine .bind .nowUs fun _ => .bind .nowUs fun _ => ?_
  cases result with
  | failed => exact .bind (.log _) fun _ => .bind (.setState _) fun _ => .pure _
  | closeRequest => exact .pure _
  | «continue» =>
      refine .bind sinkStage_traced fun sinkUs => ?_
      cases sinkUs with
      | none => exact .pure _
      | some sinkUs => exact completeStage_traced

/-- One turn of the command loop. -/
theorem loopBody_traced {start : UInt64} {device : Device} :
    Traced env (loopBody env start device) := by
  refine .bind .nowUs fun _ => .bind .self fun _ => .bind getCommand_traced fun r =>
    .bind .nowUs fun _ => .bind (.update _) fun _ => .ite getCommandFailed_traced ?_
  cases r.2 with
  | none => exact .bind (.log _) fun _ => .pure _
  | some cmd => exact handleCommand_traced

/-- The devices are opened one after the other, by induction on how many are left. -/
theorem openAll_traced {ds : DeviceSet} :
    ∀ {n : Nat} {devices : List Device}, Traced env (openAll env ds n devices) := by
  intro n
  induction n with
  | zero => exact .pure _
  | succ n ih =>
      refine .bind .self fun _ => .bind openDevice_traced fun r => .ite ?_ ih
      exact .bind (.log _) fun _ => .bind (.setState _) fun _ => .pure _

/-- And released in the same order. -/
theorem releaseAll_traced : ∀ {devices : List Device}, Traced env (releaseAll env devices)
  | [] => .pure _
  | _ :: _ => .bind deviceRelease_traced fun _ => releaseAll_traced

theorem finishCommands_traced {devices : List Device} :
    Traced env (finishCommands env devices) := by
  refine .bind releaseAll_traced fun _ => .bind .self fun _ => ?_
  exact .bind (.ite close_traced (.pure _)) fun _ => .bind .self fun _ => .emitReport _ _

/-- Turns of the loop are traced because one turn is. -/
theorem roundRobin_traced {start : UInt64} {devices : List Device} {k : Nat} {flow : Flow}
    (h : RoundRobin devices (loopBody env start) m k flow m') :
    ∃ es, m'.trace = m.trace ++ es ∧ Path env.Answers m.outside es m'.outside := by
  induction h with
  | start => exact ⟨[], by simp, .nil _⟩
  | turn before served step ih =>
      obtain ⟨es, htrace, hpath⟩ := ih
      obtain ⟨es', htrace', hpath'⟩ := loopBody_traced _ _ _ step
      exact ⟨es ++ es', by rw [htrace', htrace, List.append_assoc], hpath.append hpath'⟩

/-- The command loop, however many rounds of it are watched. -/
theorem whileFuel_traced {start : UInt64} {devices : List Device} {fuel : Nat} :
    Traced env (fun m => whileFuel (forEach (loopBody env start) devices) fuel m) := by
  intro m flow m' h
  obtain ⟨k, hrun⟩ := whileFuel_roundRobin h
  exact roundRobin_traced hrun

/-- **The trace is sound.** No event of a call of `process_commands` records an answer the
environment did not give. -/
theorem processCommands_traced {fuel : Nat} : Traced env (processCommands env fuel) := by
  refine .bind .self fun c => .ite (.bind (.log _) fun _ => .pure _) ?_
  cases c.deviceSet with
  | none => exact .bind (.log _) fun _ => .pure _
  | some ds =>
      refine .bind openAll_traced fun devices => ?_
      cases devices with
      | none => exact .pure _
      | some devices =>
          refine .bind .nowUs fun _ => .bind (.update _) fun _ =>
            .bind whileFuel_traced fun flow => ?_
          cases flow with
          | next => exact .pure _
          | stop => exact .bind finishCommands_traced fun _ => .pure _

end Vdi
