import VdiWrapper.Shutdown
import VdiWrapper.TimingRecords

/-!
# Where an armed fault injector cuts the run

`set_fail_after_n_chunks(n)` makes the hook after the `n`-th successful `CompleteCommand` fail the
session.  Next to the run of the same client with an unarmed injector, the armed run is `Abreast`
up to there: same events, same fields, one completion counted for each one made.  The turn of the
`n`-th completion ends in `Fired`: the unarmed run records the chunk and goes on, the armed one
does not record it and stops.
-/

namespace Vdi

open Runs

variable {ω σ α : Type} {env : Env ω σ}

/-- Clients that differ at most in their fault injectors. -/
def SameButInjector (c d : Client) : Prop := d = { c with faultInjector := d.faultInjector }

theorem SameButInjector.sameControl {c d : Client} (h : SameButInjector c d) :
    SameControl c d where
  state := (congrArg Client.state h).symm
  deviceSet := (congrArg Client.deviceSet h).symm
  deviceName := (congrArg Client.deviceName h).symm
  deviceCount := (congrArg Client.deviceCount h).symm
  devicesClosed := (congrArg Client.devicesClosed h).symm
  commandTimeoutMs := (congrArg Client.commandTimeoutMs h).symm
  lastStallWarnUs := (congrArg Client.lastStallWarnUs h).symm
  lastBytesTotal := (congrArg Client.lastBytesTotal h).symm
  totalBytes := (congrArg (fun c => c.metrics.totalBytes) h).symm

/-- An injector of a test build that was given `n` and has counted `done` completions. -/
def FaultInjector.Armed (injector : FaultInjector) (n : UInt64) (done : Nat) : Prop :=
  injector.enabled = true ∧ injector.failAfterNChunks = n ∧ injector.chunkCounter.toNat = done

/-- The hook counts, and fires at the `n`-th completion. -/
theorem FaultInjector.Armed.onChunkCompleted {injector : FaultInjector} {n : UInt64} {done : Nat}
    (h : injector.Armed n done) (hlt : done < n.toNat) :
    ∃ injector', injector'.Armed n (done + 1) ∧
      injector.onChunkCompleted = (decide (n.toNat ≤ done + 1), injector') := by
  obtain ⟨henabled, hn, hdone⟩ := h
  have hnlt := n.toNat_lt
  have hpos : 0 < injector.failAfterNChunks := by
    rw [hn, UInt64.lt_iff_toNat_lt]
    exact Nat.zero_lt_of_lt hlt
  have hcounter : (injector.chunkCounter + 1).toNat = done + 1 := by
    rw [UInt64.toNat_add, hdone, UInt64.toNat_one]
    exact Nat.mod_eq_of_lt (by omega)
  refine ⟨{ injector with chunkCounter := injector.chunkCounter + 1 },
    ⟨henabled, hn, hcounter⟩, ?_⟩
  unfold FaultInjector.onChunkCompleted
  rw [henabled, if_pos rfl, if_pos hpos, hn]
  simp only [UInt64.le_iff_toNat_le, hcounter]

theorem FaultInjector.Armed.setFailAfterNChunks {injector : FaultInjector}
    (henabled : injector.enabled = true) (n : UInt64) :
    (injector.setFailAfterNChunks n).Armed n 0 := by
  unfold FaultInjector.setFailAfterNChunks
  rw [if_pos henabled]
  exact ⟨henabled, rfl, rfl⟩

theorem FaultInjector.Armed.chunkCount {injector : FaultInjector} {n : UInt64} {done : Nat}
    (h : injector.Armed n done) (hdone : done = n.toNat) : injector.chunkCount = n := by
  obtain ⟨henabled, -, hcounter⟩ := h
  unfold FaultInjector.chunkCount
  rw [if_pos henabled]
  apply UInt64.toNat_inj.mp
  rw [hcounter, hdone]

/-- `set_fail_after_n_chunks(n)`, called on the injector of the client. -/
def Client.failAfter (c : Client) (n : UInt64) : Client :=
  { c with faultInjector := c.faultInjector.setFailAfterNChunks n }

/-- The unarmed machine `m` and the armed machine `m'` before the `n`-th completion; the records
follow the `earlier` ones. -/
structure Abreast (earlier : List ChunkTiming) (n : UInt64) (m m' : Machine ω σ) : Prop where
  outside : m'.outside = m.outside
  trace : m'.trace = m.trace
  client : SameButInjector m.client m'.client
  unarmed : m.client.faultInjector.Idle
  armed : m'.client.faultInjector.Armed n (completedCommands m.trace).length
  early : (completedCommands m.trace).length < n.toNat
  records : ∃ later, m.client.metrics.timings = earlier ++ later ∧
    later.length = (completedCommands m.trace).length

namespace Abreast

variable {earlier : List ChunkTiming} {n : UInt64} {m m' : Machine ω σ}

/-- The same event in both runs. -/
theorem event (h : Abreast earlier n m m') (outside : Outside ω σ) {e : Event}
    (he : e.completedCommand = none) :
    Abreast earlier n { m with outside := outside, trace := m.trace ++ [e] }
      { m' with outside := outside, trace := m'.trace ++ [e] } := by
  have hsame : completedCommands (m.trace ++ [e]) = completedCommands m.trace := by
    have hnone : NoneCompleted [e] := by simpa [NoneCompleted]
    rw [completedCommands_append, hnone.completedCommands, List.append_nil]
  have htrace : m'.trace ++ [e] = m.trace ++ [e] := congrArg (· ++ [e]) h.trace
  constructor
  case armed => rw [hsame]; exact h.armed
  case early => rw [hsame]; exact h.early
  case records => rw [hsame]; exact h.records
  · rfl
  · exact htrace
  · exact h.client
  · exact h.unarmed

/-- The same assignment in both runs. -/
theorem assign (h : Abreast earlier n m m') {f : Client → Client}
    (hinjector : ∀ c, (f c).faultInjector = c.faultInjector)
    (htimings : ∀ c, (f c).metrics.timings = c.metrics.timings)
    (hf : ∀ c injector,
      f { c with faultInjector := injector } = { f c with faultInjector := injector }) :
    Abreast earlier n { m with client := f m.client } { m' with client := f m'.client } := by
  have hsame : f m'.client = { f m.client with faultInjector := (f m'.client).faultInjector } := by
    rw [hinjector, ← hf, ← h.client]
  exact { h with
    client := hsame
    unarmed := by rw [hinjector]; exact h.unarmed
    armed := by rw [hinjector]; exact h.armed
    records := by rw [htimings]; exact h.records }

end Abreast

/-- The runs after the turn of the `n`-th completion: `m` has recorded it, `m'` has stopped. -/
structure Fired (earlier : List ChunkTiming) (n : UInt64) (m m' : Machine ω σ) : Prop where
  trace : m'.trace = m.trace ++ failure (.faultInjectorTriggered n) m.client
  client : SameButInjector { m.client with
    state := .failed
    metrics := { m.client.metrics with timings := m.client.metrics.timings.dropLast } } m'.client
  unarmed : m.client.faultInjector.Idle
  completed : ∃ before device cmd hr time, failed hr = false ∧
    m.trace = before ++
      [.completeCommand device cmd errorSuccess cmd.size cmd.position hr, .nowUs time]
  count : (completedCommands m.trace).length = n.toNat
  records : ∃ later, m.client.metrics.timings = earlier ++ later ∧ later.length = n.toNat

section Primitives

variable {earlier : List ChunkTiming} {n : UInt64}

theorem comCall_abreast {answer : ω → α × ω} {event : α → Event}
    (h : ∀ a, (event a).completedCommand = none) :
    Coupled (Abreast (σ := σ) earlier n) Eq (comCall answer event) (comCall answer event) := by
  intro m m' hm
  obtain ⟨client', outside', trace'⟩ := m'
  obtain rfl : outside' = m.outside := hm.outside
  exact ⟨rfl, hm.event _ (h _)⟩

theorem sinkCall_abreast {answer : σ → α × σ} {event : α → Event}
    (h : ∀ a, (event a).completedCommand = none) :
    Coupled (Abreast (ω := ω) earlier n) Eq (sinkCall answer event) (sinkCall answer event) := by
  intro m m' hm
  obtain ⟨client', outside', trace'⟩ := m'
  obtain rfl : outside' = m.outside := hm.outside
  exact ⟨rfl, hm.event _ (h _)⟩

theorem nowUs_abreast : Coupled (Abreast earlier n) Eq (nowUs env) (nowUs env) := by
  intro m m' hm
  obtain ⟨client', outside', trace'⟩ := m'
  obtain rfl : outside' = m.outside := hm.outside
  exact ⟨rfl, hm.event _ rfl⟩

theorem emit_abreast {e : Event} (h : e.completedCommand = none) :
    Coupled (Abreast (ω := ω) (σ := σ) earlier n) Eq (emit e) (emit e) := by
  intro m m' hm
  obtain ⟨client', outside', trace'⟩ := m'
  obtain rfl : outside' = m.outside := hm.outside
  exact ⟨rfl, hm.event _ h⟩

theorem setState_abreast {state : SessionState} :
    Coupled (Abreast (ω := ω) (σ := σ) earlier n) Eq (setState state) (setState state) := by
  intro m m' hm
  obtain ⟨client', outside', trace'⟩ := m'
  obtain rfl : outside' = m.outside := hm.outside
  have hstate : client'.state = m.client.state := hm.client.sameControl.state.symm
  have hevent := hm.event m.outside (e := .transition m.client.state state) rfl
  refine ⟨rfl, ?_⟩
  unfold setState
  simp only [StateT.run, hstate]
  exact hevent.assign (f := fun c => { c with state := state }) (fun _ => rfl) (fun _ => rfl)
    fun _ _ => rfl

/-- Booking a chunk does not look at the injector. -/
theorem recordWrite_setInjector (cmd : VdcCommand) (c : Client) (injector : FaultInjector) :
    recordWrite cmd { c with faultInjector := injector } =
      { recordWrite cmd c with faultInjector := injector } := by
  unfold recordWrite simulateBufferPool
  cases hacquire : c.bufferPool.acquire with
  | mk buffer pool => cases buffer <;> simp only

theorem update_abreast {f : Client → Client} (hf : Bookkeeping f) :
    Coupled (Abreast (ω := ω) (σ := σ) earlier n) Eq (update f) (update f) := by
  intro m m' hm
  refine ⟨rfl, hm.assign (fun c => (hf.kept c).2) (fun c => (hf.kept c).1) ?_⟩
  intro c injector
  cases hf with
  | booked cmd => exact recordWrite_setInjector cmd c injector
  | _ => rfl

theorem abreast_primitives : Primitives (Abreast earlier n) SameButInjector env env where
  control _ _ h := h.sameControl
  self := fun _ _ hm => ⟨hm.client, hm⟩
  update _ hf := update_abreast hf
  log line hline := by
    apply emit_abreast
    cases line with
    | faultInjectorTriggered => exact hline.elim
    | _ => rfl
  setState _ := setState_abreast
  report c d h := by
    have hmetrics : d.metrics = c.metrics := (congrArg Client.metrics h :)
    have hactive : d.maxActiveBuffers = c.maxActiveBuffers :=
      (congrArg Client.maxActiveBuffers h :)
    rw [hmetrics, hactive]
    exact emit_abreast rfl
  nowUs := nowUs_abreast
  openDevice _ _ := comCall_abreast fun _ => rfl
  setClose _ := comCall_abreast fun _ => rfl
  setRelease _ := comCall_abreast fun _ => rfl
  getCommand _ _ := comCall_abreast fun _ => rfl
  deviceRelease _ := comCall_abreast fun _ => rfl
  sinkIsOpen := sinkCall_abreast fun _ => rfl
  sinkWrite _ := sinkCall_abreast fun _ => rfl
  sinkFlush := sinkCall_abreast fun _ => rfl

end Primitives

/-! ## Completion -/

section Completion

variable {earlier : List ChunkTiming} {n : UInt64} {m m' : Machine ω σ}

/-- Abreast until the events `es`, which both runs have just appended. -/
def AbreastUntil (earlier : List ChunkTiming) (n : UInt64) (es : List Event)
    (m m' : Machine ω σ) : Prop :=
  ∃ before, m.trace = before ++ es ∧ m'.trace = before ++ es ∧
    Abreast earlier n { m with trace := before } { m' with trace := before }

/-- Logging the same error and failing. -/
theorem AbreastUntil.abreast {es : List Event} (h : AbreastUntil earlier n es m m')
    (hquiet : NoneCompleted es) : Abreast earlier n m m' := by
  obtain ⟨before, htrace, htrace', habreast⟩ := h
  have hsame : completedCommands m.trace = completedCommands before := by
    rw [htrace, completedCommands_append, hquiet.completedCommands, List.append_nil]
  constructor
  case armed => rw [hsame]; exact habreast.armed
  case early => rw [hsame]; exact habreast.early
  case records => rw [hsame]; exact habreast.records
  · exact habreast.outside
  · rw [htrace, htrace']
  · exact habreast.client
  · exact habreast.unarmed

/-- One more completion, recorded in both runs. -/
theorem AbreastUntil.recorded {es : List Event} {timing : ChunkTiming} {injector : FaultInjector}
    (h : AbreastUntil earlier n es m m') (hone : (completedCommands es).length = 1)
    (harmed : injector.Armed n (completedCommands m.trace).length)
    (hearly : (completedCommands m.trace).length < n.toNat) :
    Abreast earlier n
      { m with client :=
        { m.client with metrics := m.client.metrics.recordChunkTiming timing } }
      { m' with client :=
        { m'.client with
          faultInjector := injector, metrics := m'.client.metrics.recordChunkTiming timing } } := by
  obtain ⟨before, htrace, htrace', habreast⟩ := h
  have hmetrics : m'.client.metrics = m.client.metrics :=
    (congrArg Client.metrics habreast.client :)
  constructor
  case armed => exact harmed
  case early => exact hearly
  case records =>
    obtain ⟨later, hlater, hlength⟩ := habreast.records
    refine ⟨later ++ [timing], ?_, ?_⟩
    · rw [← List.append_assoc, ← hlater]
      rfl
    · change _ = (completedCommands m.trace).length
      rw [htrace, completedCommands_append, List.length_append, List.length_append, hone, hlength]
      rfl
  · exact habreast.outside
  · rw [htrace, htrace']
  · unfold SameButInjector
    rw [hmetrics]
    rw [show m'.client = _ from habreast.client]
  · exact habreast.unarmed

/-- The `n`-th completion, recorded by the unarmed run alone. -/
theorem AbreastUntil.fired {device : Device} {cmd : VdcCommand} {hr : HResult} {time : UInt64}
    {timing : ChunkTiming} {injector : FaultInjector} (hok : failed hr = false)
    (h : AbreastUntil earlier n
      [.completeCommand device cmd errorSuccess cmd.size cmd.position hr, .nowUs time] m m')
    (hlast : (completedCommands m.trace).length = n.toNat) :
    Fired earlier n
      { m with client :=
        { m.client with metrics := m.client.metrics.recordChunkTiming timing } }
      { m' with
        client := { m'.client with faultInjector := injector, state := .failed }
        trace := m'.trace ++ [.log (.faultInjectorTriggered n)] ++
          [.transition m'.client.state .failed] } := by
  obtain ⟨before, htrace, htrace', habreast⟩ := h
  obtain ⟨later, hlater, hlength⟩ := habreast.records
  have hcount : (completedCommands m.trace).length = (completedCommands before).length + 1 := by
    rw [htrace, completedCommands_append, List.length_append]
    simp [completedCommands, Event.completedCommand, hok]
  have hstate : m'.client.state = m.client.state := (congrArg Client.state habreast.client :)
  constructor
  case client =>
    unfold SameButInjector Metrics.recordChunkTiming
    rw [List.dropLast_concat, show m'.client = _ from habreast.client]
  case completed => exact ⟨before, device, cmd, hr, time, hok, htrace⟩
  case count => exact hlast
  case records =>
    refine ⟨later ++ [timing], ?_, ?_⟩
    · rw [← List.append_assoc, ← hlater]
      rfl
    · rw [List.length_append, ← hlast, hcount, hlength]
      rfl
  · rw [htrace', htrace, hstate, List.append_assoc (before ++ _)]
    rfl
  · exact habreast.unarmed

/-- The hook after a completion: unarmed it does nothing, armed it counts up to `n`. -/
theorem AbreastUntil.onChunkCompleted {es : List Event} (h : AbreastUntil earlier n es m m')
    (hone : (completedCommands es).length = 1) :
    m.client.faultInjector.onChunkCompleted = (false, m.client.faultInjector) ∧
      (completedCommands m.trace).length ≤ n.toNat ∧
      ∃ injector : FaultInjector, injector.Armed n (completedCommands m.trace).length ∧
        m'.client.faultInjector.onChunkCompleted =
          (decide (n.toNat ≤ (completedCommands m.trace).length), injector) := by
  obtain ⟨before, htrace, -, habreast⟩ := h
  have hearly : (completedCommands before).length < n.toNat := habreast.early
  have hcount : (completedCommands m.trace).length = (completedCommands before).length + 1 := by
    rw [htrace, completedCommands_append, List.length_append, hone]
  rw [hcount]
  exact ⟨habreast.unarmed, hearly, habreast.armed.onChunkCompleted hearly⟩

theorem completeCommand_abreastUntil {device : Device} {cmd : VdcCommand} :
    Related (Abreast earlier n)
      (fun answer answer' m m' => answer = answer' ∧ AbreastUntil earlier n
        [.completeCommand device cmd errorSuccess cmd.size cmd.position answer.1] m m')
      (completeCommand env device cmd errorSuccess cmd.size cmd.position)
      (completeCommand env device cmd errorSuccess cmd.size cmd.position) := by
  intro m m' hm
  obtain ⟨client', outside', trace'⟩ := m'
  obtain rfl : outside' = m.outside := hm.outside
  obtain rfl : trace' = m.trace := hm.trace
  exact ⟨rfl, m.trace, rfl, rfl, { hm with outside := rfl }⟩

theorem nowUs_abreastUntil {es : List Event} :
    Related (AbreastUntil earlier n es)
      (fun time time' m m' => time = time' ∧ AbreastUntil earlier n (es ++ [.nowUs time]) m m')
      (nowUs env) (nowUs env) := by
  intro m m' hm
  obtain ⟨before, htrace, htrace', habreast⟩ := hm
  obtain ⟨client', outside', trace'⟩ := m'
  obtain rfl : outside' = m.outside := habreast.outside
  refine ⟨rfl, before, ?_, ?_, { habreast with outside := rfl }⟩
  · exact (congrArg (· ++ _) htrace).trans (List.append_assoc ..)
  · exact (congrArg (· ++ _) htrace').trans (List.append_assoc ..)

/-- The stage of the `n`-th completion is where the runs part. -/
theorem completeStage_cut {device : Device} {cmd : VdcCommand} {times : StageTimes} :
    Related (Abreast earlier n) (CutShort (Abreast earlier n) (Fired earlier n))
      (completeStage env device cmd times) (completeStage env device cmd times) := by
  refine nowUs_abreast.bindRelated fun ccStart _ h => ?_
  subst h
  refine completeCommand_abreastUntil.bind fun answer _ => .assume fun h => ?_
  subst h
  obtain ⟨hr, cmd'⟩ := answer
  refine nowUs_abreastUntil.bind fun ccEnd _ => .assume fun h => ?_
  subst h
  by_cases hfailed : failed hr = true
  · simp only [hfailed, if_true]
    intro m m' hm
    have hquiet : NoneCompleted
        [.completeCommand device cmd errorSuccess cmd.size cmd.position hr, .nowUs ccEnd] := by
      simp [NoneCompleted, Event.completedCommand, hfailed]
    have prims : Primitives (Abreast earlier n) SameButInjector env env := abreast_primitives
    have hfailure : Coupled (Abreast earlier n) Eq
        (do log (.completeCommandFailed hr); setState .failed; return Flow.stop)
        (do log (.completeCommandFailed hr); setState .failed; return Flow.stop) :=
      prims.failure_coupled (by trivial)
    obtain ⟨hflow, hR⟩ := hfailure m m' (hm.abreast hquiet)
    exact .inl ⟨hflow, hR⟩
  · have hok : failed hr = false := by simpa using hfailed
    simp only [hok, Bool.false_eq_true, if_false]
    intro m m' hm
    have hone : (completedCommands
        [.completeCommand device cmd errorSuccess cmd.size cmd.position hr, .nowUs ccEnd]).length =
        1 := by
      simp [completedCommands, Event.completedCommand, hok]
    obtain ⟨hidle, hle, injector, harmed, hfires⟩ := hm.onChunkCompleted hone
    simp only [run_self_bind, hidle, hfires]
    by_cases hlast : n.toNat ≤ (completedCommands m.trace).length
    · simp only [hlast, decide_true, if_true, Bool.false_eq_true, if_false]
      have hexact : (completedCommands m.trace).length = n.toNat := Nat.le_antisymm hle hlast
      rw [harmed.chunkCount hexact]
      exact .inr ⟨rfl, rfl, hm.fired hok hexact⟩
    · simp only [hlast, decide_false, Bool.false_eq_true, if_false]
      exact .inl ⟨rfl, hm.recorded hone harmed (by omega)⟩

/-- A turn of the loop in both runs. -/
theorem loopBody_cut {start : UInt64} (device : Device) :
    Related (Abreast earlier n) (CutShort (Abreast earlier n) (Fired earlier n))
      (loopBody env start device) (loopBody env start device) :=
  abreast_primitives.loopBody_related (fun _ _ _ hm => .inl ⟨rfl, hm⟩)
    fun _ _ => completeStage_cut

end Completion

/-! ## The loop -/

/-- The unarmed run in `m'`, later than in `m`. -/
structure Later (m m' : Machine ω σ) : Prop where
  unarmed : m'.client.faultInjector.Idle
  trace : m.trace <+: m'.trace
  timings : m.client.metrics.timings <+: m'.client.metrics.timings

theorem Later.loopBody {start : UInt64} {m u : Machine ω σ} (h : Later m u) (device : Device) :
    Later m ((loopBody env start device).run u).2 := by
  obtain ⟨es, htrace, turn⟩ := loopBody_iteration
    (Prod.eta ((Vdi.loopBody env start device).run u)).symm
  have hkept := turn.recordsKept h.unarmed
  obtain ⟨-, later, -, htimings, -⟩ := hkept.records
  constructor
  · exact hkept.idle
  · rw [htrace]
    exact h.trace.trans (List.prefix_append _ _)
  · rw [htimings]
    exact h.timings.trans (List.prefix_append _ _)

theorem Later.finishCommands {devices : List Device} {m u : Machine ω σ} (h : Later m u) :
    Later m ((finishCommands env devices).run u).2 := by
  obtain ⟨hclient, htrace⟩ := finishCommands_run
    (Prod.eta ((Vdi.finishCommands env devices).run u)).symm
  have hkept : u.client.finished.metrics = u.client.metrics ∧
      u.client.finished.faultInjector = u.client.faultInjector := by
    unfold Client.finished
    split <;> exact ⟨rfl, rfl⟩
  constructor
  · rw [hclient, hkept.2]
    exact h.unarmed
  · rw [htrace]
    exact h.trace.trans (List.prefix_append _ _)
  · rw [hclient, hkept.1]
    exact h.timings

/-- The call begun in `m` over `devices` is in `cut` after some turn of its loop. -/
inductive Passes (env : Env ω σ) (fuel : Nat) (m : Machine ω σ) (devices : List Device) :
    Machine ω σ → Prop
  | afterTurn {ds : DeviceSet} {opened begun cut : Machine ω σ} {start : UInt64} {k : Nat}
      (hstate : m.client.state = .streaming) (hset : m.client.deviceSet = some ds)
      (opens : (openAll env ds (devCount m.client.deviceCount) []).run m =
        (some devices, opened))
      (begins : (nowUs env).run opened = (start, begun))
      (turns : RoundRobin devices (loopBody env start)
        { begun with client := begun.client.streamingSince start } k .next cut)
      (hle : k ≤ fuel * devices.length) : Passes env fuel m devices cut

section Call

variable {earlier : List ChunkTiming} {n : UInt64} {m m' : Machine ω σ}

/-- The loop was watched until it stopped. -/
theorem serveDevices_stop {fuel : Nat} {devices : List Device} {start : UInt64}
    {begun ended : Machine ω σ} (hclock : (nowUs env).run m = (start, begun))
    (hloop : whileFuel (forEach (loopBody env start) devices) fuel
      { begun with client := begun.client.streamingSince start } = (.stop, ended)) :
    (serveDevices env fuel devices).run m = (true, ((finishCommands env devices).run ended).2) := by
  have hsince : (update (Client.streamingSince start)).run begun =
      ((), { begun with client := begun.client.streamingSince start }) := rfl
  exact (run_bind hclock).trans ((run_bind hsince).trans (run_bind hloop))

/-- The loop is still running. -/
theorem serveDevices_next {fuel : Nat} {devices : List Device} {start : UInt64}
    {begun ended : Machine ω σ} (hclock : (nowUs env).run m = (start, begun))
    (hloop : whileFuel (forEach (loopBody env start) devices) fuel
      { begun with client := begun.client.streamingSince start } = (.next, ended)) :
    (serveDevices env fuel devices).run m = (false, ended) := by
  have hsince : (update (Client.streamingSince start)).run begun =
      ((), { begun with client := begun.client.streamingSince start }) := rfl
  exact (run_bind hclock).trans ((run_bind hsince).trans (run_bind hloop))

/-- The loop of the armed run goes along with the unarmed one to its end, or stops in it. -/
theorem serveDevices_cut (env : Env ω σ) (fuel : Nat) (devices : List Device)
    (hm : Abreast earlier n m m') :
    (((serveDevices env fuel devices).run m').1 = ((serveDevices env fuel devices).run m).1 ∧
        Abreast earlier n ((serveDevices env fuel devices).run m).2
          ((serveDevices env fuel devices).run m').2) ∨
      ∃ start begun cut stopped k, (nowUs env).run m = (start, begun) ∧
        RoundRobin devices (loopBody env start)
          { begun with client := begun.client.streamingSince start } k .next cut ∧
        k ≤ fuel * devices.length ∧ Fired earlier n cut stopped ∧
        (serveDevices env fuel devices).run m' =
          (true, ((finishCommands env devices).run stopped).2) ∧
        Later cut ((serveDevices env fuel devices).run m).2 := by
  obtain ⟨start, begun, hclock⟩ : ∃ start begun, (nowUs env).run m = (start, begun) :=
    ⟨_, _, rfl⟩
  obtain ⟨start', begun', hclock'⟩ : ∃ start begun, (nowUs env).run m' = (start, begun) :=
    ⟨_, _, rfl⟩
  have hclocks : Coupled (Abreast earlier n) Eq (nowUs env) (nowUs env) := nowUs_abreast
  obtain ⟨hstart, hbegun⟩ := hclocks m m' hm
  rw [hclock, hclock'] at hstart hbegun
  obtain rfl : start = start' := hstart
  have hsince : Abreast earlier n { begun with client := begun.client.streamingSince start }
      { begun' with client := begun'.client.streamingSince start } :=
    (update_abreast (.started start) begun begun' hbegun).2
  obtain ⟨flow, ended, hloop⟩ : ∃ flow ended,
      whileFuel (forEach (loopBody env start) devices) fuel
        { begun with client := begun.client.streamingSince start } = (flow, ended) := ⟨_, _, rfl⟩
  rcases whileFuel_cut loopBody_cut hsince hloop with
    ⟨ended', hloop', hended⟩ | ⟨j, k, cut, stopped, hle, hfuel, hcut, hturns, hloop', hfired⟩
  · left
    cases flow with
    | next =>
        rw [serveDevices_next hclock hloop, serveDevices_next hclock' hloop']
        exact ⟨rfl, hended⟩
    | stop =>
        rw [serveDevices_stop hclock hloop, serveDevices_stop hclock' hloop']
        exact ⟨rfl, (abreast_primitives.finishCommands_coupled ended ended' hended).2⟩
  · right
    have hended : Later cut ended :=
      hcut.onward hturns hle ⟨hfired.unarmed, List.prefix_refl _, List.prefix_refl _⟩
        fun device u hu => hu.loopBody device
    refine ⟨start, begun, cut, stopped, j, hclock, hcut, hle.trans hfuel, hfired,
      serveDevices_stop hclock' hloop', ?_⟩
    cases flow with
    | next =>
        rw [serveDevices_next hclock hloop]
        exact hended
    | stop =>
        rw [serveDevices_stop hclock hloop]
        exact hended.finishCommands

/-- The armed call goes along with the unarmed one, or stops in its loop. -/
theorem processCommands_cut (env : Env ω σ) (fuel : Nat) (hm : Abreast earlier n m m') :
    (((processCommands env fuel).run m').1 = ((processCommands env fuel).run m).1 ∧
        Abreast earlier n ((processCommands env fuel).run m).2
          ((processCommands env fuel).run m').2) ∨
      ∃ devices cut stopped, Passes env fuel m devices cut ∧ Fired earlier n cut stopped ∧
        (processCommands env fuel).run m' =
          (true, ((finishCommands env devices).run stopped).2) ∧
        Later cut ((processCommands env fuel).run m).2 := by
  have prims : Primitives (Abreast earlier n) SameButInjector env env := abreast_primitives
  have hsame := hm.client.sameControl
  have hleave : ∀ line : LogLine, line.Uninjected →
      Coupled (Abreast (ω := ω) (σ := σ) earlier n) Eq (do log line; return true)
        (do log line; return true) :=
    fun line hline => (prims.log line hline).andThen (.pure rfl)
  unfold processCommands
  simp only [run_self_bind]
  rw [← hsame.state, ← hsame.deviceSet, ← hsame.deviceCount]
  by_cases hstate : m.client.state = .streaming
  · simp only [hstate, ne_eq, not_true_eq_false, if_false]
    cases hset : m.client.deviceSet with
    | none =>
        obtain ⟨hreturned, hended⟩ := hleave .noDeviceSet trivial m m' hm
        exact .inl ⟨hreturned.symm, hended⟩
    | some ds =>
        obtain ⟨devices, opened, hopen⟩ : ∃ devices opened,
            (openAll env ds (devCount m.client.deviceCount) []).run m = (devices, opened) :=
          ⟨_, _, rfl⟩
        obtain ⟨devices', opened', hopen'⟩ : ∃ devices opened,
            (openAll env ds (devCount m.client.deviceCount) []).run m' = (devices, opened) :=
          ⟨_, _, rfl⟩
        have hopenings : Coupled (Abreast earlier n) Eq
            (openAll env ds (devCount m.client.deviceCount) [])
            (openAll env ds (devCount m.client.deviceCount) []) :=
          prims.openAll_coupled
        obtain ⟨hdevices, hopened⟩ := hopenings m m' hm
        rw [hopen, hopen'] at hdevices hopened
        obtain rfl : devices = devices' := hdevices
        dsimp only
        rw [run_bind hopen, run_bind hopen']
        cases devices with
        | none => exact .inl ⟨rfl, hopened⟩
        | some devices =>
            rcases serveDevices_cut env fuel devices hopened with
              hserved | ⟨start, begun, cut, stopped, k, hclock, hcut, hle, hfired, hrest⟩
            · exact .inl hserved
            · exact .inr ⟨devices, cut, stopped,
                .afterTurn hstate hset hopen hclock hcut hle, hfired, hrest⟩
  · simp only [hstate, ne_eq, not_false_eq_true, if_true]
    obtain ⟨hreturned, hended⟩ :=
      hleave (.wrongState "process_commands" m.client.state) trivial m m' hm
    exact .inl ⟨hreturned.symm, hended⟩

end Call

/-! ## The two runs -/

/-- The runs are the same, the injector itself apart. -/
structure SameRun (run run' : Bool × Machine ω σ) : Prop where
  returned : run'.1 = run.1
  trace : run'.2.trace = run.2.trace
  outside : run'.2.outside = run.2.outside
  state : run'.2.client.state = run.2.client.state
  metrics : run'.2.client.metrics = run.2.client.metrics
  client : SameButInjector run.2.client run'.2.client

/-- The armed run `run'` ends with the `n`-th successful completion `e` of the unarmed run `run`,
which was in `cut` after that turn. -/
structure CutAt (env : Env ω σ) (fuel : Nat) (client : Client) (outside : Outside ω σ)
    (n : UInt64) (run run' : Bool × Machine ω σ) (devices : List Device) (cut : Machine ω σ)
    (before : List Event) (e : Event) (time : UInt64) : Prop where
  passes : Passes env fuel { client, outside } devices cut
  onward : cut.trace <+: run.2.trace
  completes : e.completedCommand.isSome = true
  nth : (completedCommands (before ++ [e])).length = n.toNat
  upTo : cut.trace = before ++ [e, .nowUs time]
  trace : run'.2.trace = cut.trace ++ failure (.faultInjectorTriggered n) cut.client ++
    devices.map .deviceRelease ++
    [.report run'.2.client.metrics run'.2.client.maxActiveBuffers]
  calls : callsOf run'.2.trace = callsOf (before ++ [e]) ++ devices.map .deviceRelease
  returned : run'.1 = true
  failed : run'.2.client.state = .failed
  unflushed : .sinkFlush ∉ run'.2.trace
  records : ∃ records, run.2.client.metrics.timings = client.metrics.timings ++ records ∧
    records.length = (completedCommands run.2.trace).length ∧
    run'.2.client.metrics.timings = client.metrics.timings ++ records.take (n.toNat - 1)
  totalBytes : run'.2.client.metrics.totalBytes = cut.client.metrics.totalBytes
  chunkCount : run'.2.client.metrics.chunkCount = cut.client.metrics.chunkCount

/-- Before a turn of the loop stops, nothing is flushed. -/
theorem Passes.unflushed {fuel : Nat} {m cut : Machine ω σ} {devices : List Device}
    (h : Passes env fuel m devices cut) (hm : .sinkFlush ∉ m.trace) : .sinkFlush ∉ cut.trace := by
  cases h with
  | @afterTurn ds opened begun _ start k hstate hset opens begins turns hle =>
      obtain ⟨calls, -, ⟨-, -, -, hopened⟩ | ⟨hnone, -⟩⟩ := openAll_run opens
      · obtain ⟨-, hbegun⟩ := nowUs_run begins
        obtain ⟨es, hcut, run⟩ := roundRobin_loopRun turns
        have hopening : .sinkFlush ∉ opening ds m.client.deviceName calls := by
          intro hmem
          obtain ⟨call, -, hcall⟩ := List.mem_map.mp hmem
          cases hcall
        rw [hcut, hbegun, hopened]
        simp [hm, hopening, run.no_flush]
      · cases hnone

/-- A call records as many chunks as it completes. -/
theorem runCommands_records (env : Env ω σ) (fuel : Nat) (client : Client)
    (hidle : client.faultInjector.Idle) (outside : Outside ω σ) :
    ∃ records, (runCommands env fuel client outside).2.client.metrics.timings =
        client.metrics.timings ++ records ∧
      records.length =
        (completedCommands (runCommands env fuel client outside).2.trace).length := by
  obtain ⟨start, -, hkept⟩ :=
    (runCommands_commandRun env fuel client outside).recordsKept hidle
  obtain ⟨clocks, records, hrecorded, htimings, hunsized⟩ := hkept.records
  refine ⟨records, htimings, ?_⟩
  calc records.length = (records.map ChunkTiming.unsized).length := (List.length_map _).symm
    _ = clocks.length := by rw [hunsized, List.length_map]
    _ = (completedCommands (commandTrace env fuel client outside)).length := by
        rw [hrecorded.commands, List.length_map]

/-- What the failed call still does: it lets the devices go. -/
theorem Fired.finishes {earlier : List ChunkTiming} {n : UInt64} {cut stopped : Machine ω σ}
    (hfired : Fired earlier n cut stopped) (env : Env ω σ) (devices : List Device) :
    ((finishCommands env devices).run stopped).2.client = stopped.client ∧
      ((finishCommands env devices).run stopped).2.trace =
        cut.trace ++ failure (.faultInjectorTriggered n) cut.client ++
          devices.map .deviceRelease ++
          [.report stopped.client.metrics stopped.client.maxActiveBuffers] := by
  obtain ⟨hclient, htrace⟩ := finishCommands_run
    (Prod.eta ((finishCommands env devices).run stopped)).symm
  have hstate : stopped.client.state = .failed := (congrArg Client.state hfired.client :)
  have hfinished : stopped.client.finished = stopped.client := by
    unfold Client.finished
    simp [hstate]
  have hfinishing : finishing devices stopped.client = devices.map .deviceRelease ++
      [.report stopped.client.metrics stopped.client.maxActiveBuffers] := by
    unfold finishing
    simp [hstate]
  constructor
  · rw [hclient, hfinished]
  · rw [htrace, hfired.trace, hfinishing]
    simp

/-- The armed run keeps all but the last of the records that the unarmed run has in `cut`. -/
theorem Fired.timings {earlier records : List ChunkTiming} {n : UInt64}
    {cut stopped : Machine ω σ} (hfired : Fired earlier n cut stopped)
    (hlater : cut.client.metrics.timings <+: earlier ++ records) :
    stopped.client.metrics.timings = earlier ++ records.take (n.toNat - 1) := by
  obtain ⟨before, device, cmd, hr, time, hok, hcut⟩ := hfired.completed
  obtain ⟨later, hrecorded, hlength⟩ := hfired.records
  have hmetrics : stopped.client.metrics =
      { cut.client.metrics with timings := cut.client.metrics.timings.dropLast } :=
    (congrArg Client.metrics hfired.client :)
  have hprefix : later <+: records := by
    rw [hrecorded] at hlater
    exact (List.prefix_append_right_inj _).mp hlater
  have hpos : 0 < n.toNat := by
    rw [← hfired.count, hcut, completedCommands_append, List.length_append]
    simp [completedCommands, Event.completedCommand, hok]
  have hnonempty : later ≠ [] := List.ne_nil_of_length_pos (hlength ▸ hpos)
  have hfirst : later.dropLast = records.take (n.toNat - 1) := by
    rw [List.dropLast_eq_take, List.prefix_iff_eq_take.mp hprefix, hlength, List.length_take,
      List.take_take]
    congr 1
    have hle : n.toNat ≤ records.length := hlength ▸ hprefix.length_le
    omega
  rw [hmetrics, hrecorded, ← hfirst]
  exact List.dropLast_append_of_ne_nil hnonempty

/-- From the turn of the `n`-th completion to the end of both runs. -/
theorem Fired.cutAt {fuel : Nat} {client : Client} {outside : Outside ω σ} {n : UInt64}
    {run' : Bool × Machine ω σ} {devices : List Device} {cut stopped : Machine ω σ}
    (hfired : Fired client.metrics.timings n cut stopped) (hidle : client.faultInjector.Idle)
    (hpasses : Passes env fuel { client, outside } devices cut)
    (hlater : Later cut (runCommands env fuel client outside).2)
    (hrun' : run' = (true, ((finishCommands env devices).run stopped).2)) :
    ∃ before e time,
      CutAt env fuel client outside n (runCommands env fuel client outside) run' devices cut
        before e time := by
  obtain ⟨before, device, cmd, hr, time, hok, hcut⟩ := hfired.completed
  obtain ⟨hclient, htrace⟩ := hfired.finishes env devices
  have hclient' : run'.2.client = stopped.client := by rw [hrun', hclient]
  have htrace' : run'.2.trace = cut.trace ++ failure (.faultInjectorTriggered n) cut.client ++
      devices.map .deviceRelease ++
      [.report run'.2.client.metrics run'.2.client.maxActiveBuffers] := by
    rw [hclient', hrun', htrace]
  refine ⟨before, .completeCommand device cmd errorSuccess cmd.size cmd.position hr, time, ?_⟩
  constructor
  case passes => exact hpasses
  case onward => exact hlater.trace
  case completes => simp [Event.completedCommand, hok]
  case nth =>
    rw [← hfired.count, hcut]
    simp [completedCommands, Event.completedCommand, hok]
  case upTo => exact hcut
  case trace => exact htrace'
  case calls =>
    have hreleases : callsOf (devices.map Event.deviceRelease) =
        devices.map Event.deviceRelease := by
      apply List.filter_eq_self.mpr
      intro e he
      obtain ⟨device, -, rfl⟩ := List.mem_map.mp he
      rfl
    have hlast : callsOf [.completeCommand device cmd errorSuccess cmd.size cmd.position hr,
        .nowUs time] =
        callsOf [.completeCommand device cmd errorSuccess cmd.size cmd.position hr] := rfl
    rw [htrace', hcut]
    simp only [callsOf_append, hreleases, hlast]
    simp [callsOf, failure, Event.isCall]
  case returned => rw [hrun']
  case failed =>
    rw [hclient']
    exact (congrArg Client.state hfired.client :)
  case unflushed =>
    have hbefore := hpasses.unflushed (by simp)
    rw [htrace']
    simp [hbefore, failure]
  case records =>
    obtain ⟨records, htimings, hcount⟩ := runCommands_records env fuel client hidle outside
    refine ⟨records, htimings, hcount, ?_⟩
    rw [hclient']
    exact hfired.timings (htimings ▸ hlater.timings)
  case totalBytes =>
    rw [hclient']
    exact (congrArg (fun c => c.metrics.totalBytes) hfired.client :)
  case chunkCount =>
    rw [hclient']
    exact (congrArg (fun c => c.metrics.chunkCount) hfired.client :)

/-- **Fault injection cuts the run exactly at `n`.**  If the unarmed run makes fewer than `n`
successful completions, arming the injector changes nothing.  Otherwise the armed run is the unarmed
one up to and including the `n`-th successful completion; then it releases the devices and returns
in `FAILED`, with the first `n - 1` timing records and the totals of the unarmed run at that
point. -/
theorem processCommands_faultCut (env : Env ω σ) (fuel : Nat) (client : Client)
    (henabled : client.faultInjector.enabled = true)
    (hunarmed : client.faultInjector.failAfterNChunks = 0) (n : UInt64) (hn : 1 ≤ n)
    (outside : Outside ω σ) :
    let run := runCommands env fuel client outside
    let run' := runCommands env fuel (client.failAfter n) outside
    ((completedCommands run.2.trace).length < n.toNat → SameRun run run') ∧
      (n.toNat ≤ (completedCommands run.2.trace).length → ∃ devices cut before e time,
        CutAt env fuel client outside n run run' devices cut before e time) := by
  intro run run'
  have hidle : client.faultInjector.Idle := by
    unfold FaultInjector.Idle FaultInjector.onChunkCompleted
    simp [hunarmed]
  have hpos : 1 ≤ n.toNat := UInt64.le_iff_toNat_le.mp hn
  have hstart : Abreast client.metrics.timings n { client, outside, trace := [] }
      { client := client.failAfter n, outside, trace := [] } :=
    { outside := rfl
      trace := rfl
      client := rfl
      unarmed := hidle
      armed := .setFailAfterNChunks henabled n
      early := hpos
      records := ⟨[], (List.append_nil _).symm, rfl⟩ }
  rcases processCommands_cut env fuel hstart with
    ⟨hreturned, hended⟩ | ⟨devices, cut, stopped, hpasses, hfired, hrun', hlater⟩
  · have hearly : (completedCommands run.2.trace).length < n.toNat := hended.early
    constructor
    · intro _
      exact
        { returned := hreturned
          trace := hended.trace
          outside := hended.outside
          state := hended.client.sameControl.state.symm
          metrics := (congrArg Client.metrics hended.client :)
          client := hended.client }
    · intro hlate
      omega
  · constructor
    · intro hearly
      have hcount : n.toNat ≤ (completedCommands run.2.trace).length := by
        rw [← hfired.count]
        exact (hlater.trace.filterMap _).length_le
      omega
    · intro _
      obtain ⟨before, e, time, hcut⟩ := hfired.cutAt hidle hpasses hlater hrun'
      exact ⟨devices, cut, before, e, time, hcut⟩

/-- A streaming client of a test build. -/
def testClient : Client := { streamingClient with faultInjector := { enabled := true } }

/-- Three bytes to store. -/
def threeBytes : Outside Server Unit :=
  scriptedStart [[deliver (oneByte 7), deliver (oneByte 8), deliver (oneByte 9)]] ()

/-- Armed with two, the session fails at the second byte, and only the first one is recorded. -/
theorem faultCut_secondByte :
    ∃ devices cut before e time, CutAt (scriptedEnv nullSink) 4 testClient threeBytes 2
      (runCommands (scriptedEnv nullSink) 4 testClient threeBytes)
      (runCommands (scriptedEnv nullSink) 4 (testClient.failAfter 2) threeBytes) devices cut before
      e time := by
  have hcount : (2 : UInt64).toNat ≤ (completedCommands (runCommands (scriptedEnv nullSink) 4
      testClient threeBytes).2.trace).length := by
    decide +kernel
  exact (processCommands_faultCut (scriptedEnv nullSink) 4 testClient rfl rfl 2 (by decide)
    threeBytes).2 hcount

end Vdi
