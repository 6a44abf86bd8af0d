import VdiWrapper.ProcessCommands
import VdiWrapper.Lib.Coupling

/-!
# Coupling `process_commands` with itself

Two runs of the same client code, in two environments or from two clients, are coupled line by line
in the same way whatever the relation between them is.  `Primitives` lists what a relation has to
say of the primitives; from that the stages before completion, the `OpenDevice` loop, `close` and
what follows the loop are coupled, and `loopBody_related` leaves open how completion relates the
runs.  A relation that keeps completion coupled as well couples the whole call
(`processCommands_coupled`).
-/

namespace Vdi

open Runs

variable {ω σ ω' σ' α : Type}

/-- Agreement in the fields by which the code decides. -/
structure SameControl (c d : Client) : Prop where
  state : c.state = d.state
  deviceSet : c.deviceSet = d.deviceSet
  deviceName : c.deviceName = d.deviceName
  deviceCount : c.deviceCount = d.deviceCount
  devicesClosed : c.devicesClosed = d.devicesClosed
  commandTimeoutMs : c.commandTimeoutMs = d.commandTimeoutMs
  lastStallWarnUs : c.lastStallWarnUs = d.lastStallWarnUs
  lastBytesTotal : c.lastBytesTotal = d.lastBytesTotal
  totalBytes : c.metrics.totalBytes = d.metrics.totalBytes

/-- The assignments `process_commands` makes outside completion. -/
inductive Bookkeeping : (Client → Client) → Prop
  | fetched (now : UInt64) : Bookkeeping fun c => { c with lastCommandUs := now }
  | warned (now : UInt64) : Bookkeeping fun c => { c with lastStallWarnUs := now }
  | progressed (bytes now : UInt64) :
      Bookkeeping fun c => { c with lastBytesTotal := bytes, lastStallWarnUs := now }
  | booked (cmd : VdcCommand) : Bookkeeping (recordWrite cmd)
  | written : Bookkeeping fun c => { c with lastBytesTotal := c.metrics.totalBytes }
  | started (now : UInt64) :
      Bookkeeping fun c =>
        { c with lastCommandUs := now, lastBytesTotal := 0, lastStallWarnUs := now }
  | setGone : Bookkeeping fun c => { c with deviceSet := none }
  | closed : Bookkeeping fun c => { c with devicesClosed := true }

/-- A line logged outside the fault injection hook. -/
def LogLine.Uninjected : LogLine → Prop
  | .faultInjectorTriggered _ => False
  | .wrongState .. | .comInitializationFailed | .coCreateInstanceFailed _ | .createExFailed _
  | .noDeviceSet | .getConfigurationFailed _ | .openDeviceFailed _ | .getCommandTimedOut _
  | .getCommandFailed _ | .nullCommand | .commandDispatchFailed | .invalidWriteCommand
  | .sinkNotOpen | .sinkWriteFailed | .completeCommandFailed _ | .possibleStall ..
  | .destroyedWithoutClose => True

/-- What a relation has to say of the primitives; `Agree` is what the two clients have in common
when the code looks at its fields. -/
structure Primitives (R : Machine ω σ → Machine ω' σ' → Prop) (Agree : Client → Client → Prop)
    (env : Env ω σ) (env' : Env ω' σ') : Prop where
  control : ∀ c d, Agree c d → SameControl c d
  self : Coupled R Agree self self
  update : ∀ f, Bookkeeping f → Coupled R Eq (update f) (update f)
  log : ∀ line : LogLine, line.Uninjected → Coupled R Eq (log line) (log line)
  setState : ∀ state, Coupled R Eq (setState state) (setState state)
  report : ∀ c d, Agree c d →
    Coupled R Eq (emit (.report c.metrics c.maxActiveBuffers))
      (emit (.report d.metrics d.maxActiveBuffers))
  nowUs : Coupled R Eq (nowUs env) (nowUs env')
  openDevice : ∀ ds name, Coupled R Eq (openDevice env ds name) (openDevice env' ds name)
  setClose : ∀ ds, Coupled R Eq (setClose env ds) (setClose env' ds)
  setRelease : ∀ ds, Coupled R Eq (setRelease env ds) (setRelease env' ds)
  getCommand : ∀ device timeout,
    Coupled R Eq (getCommand env device timeout) (getCommand env' device timeout)
  deviceRelease : ∀ device, Coupled R Eq (deviceRelease env device) (deviceRelease env' device)
  sinkIsOpen : Coupled R Eq (sinkIsOpen env) (sinkIsOpen env')
  sinkWrite : ∀ cmd, Coupled R Eq (sinkWrite env cmd) (sinkWrite env' cmd)
  sinkFlush : Coupled R Eq (sinkFlush env) (sinkFlush env')

namespace Primitives

variable {R : Machine ω σ → Machine ω' σ' → Prop} {Agree : Client → Client → Prop}
  {env : Env ω σ} {env' : Env ω' σ'}

theorem failure_coupled (prims : Primitives R Agree env env') {line : LogLine} {a : α}
    (hline : line.Uninjected) :
    Coupled R Eq (do Vdi.log line; Vdi.setState .failed; return a)
      (do Vdi.log line; Vdi.setState .failed; return a) :=
  (prims.log line hline).andThen ((prims.setState .failed).andThen (.pure rfl))

theorem checkStall_coupled (prims : Primitives R Agree env env') {now : UInt64} :
    Coupled R Eq (checkStall now) (checkStall now) := by
  apply prims.self.bind
  intro c d hcd
  have hsame := prims.control c d hcd
  rw [hsame.lastStallWarnUs, hsame.lastBytesTotal, hsame.totalBytes, hsame.state]
  refine .ite .rfl (fun _ => prims.update _ (.warned now)) fun _ => ?_
  refine .ite .rfl (fun _ => .pure rfl) fun _ => ?_
  refine .ite .rfl (fun _ => ?_) fun _ => prims.update _ (.progressed _ now)
  exact (prims.log _ (by trivial)).andThen (prims.update _ (.warned now))

theorem getCommandFailed_coupled (prims : Primitives R Agree env env') {hr : HResult}
    {now : UInt64} :
    Coupled R Eq (getCommandFailed env hr now) (getCommandFailed env' hr now) := by
  have hsignal : Coupled R Eq
      (do Vdi.setState .flushing; Vdi.sinkFlush env; return Flow.stop)
      (do Vdi.setState .flushing; Vdi.sinkFlush env'; return Flow.stop) :=
    (prims.setState .flushing).andThen (prims.sinkFlush.andThen (.pure rfl))
  refine .ite .rfl (fun _ => hsignal) fun _ => .ite .rfl (fun _ => hsignal) fun _ =>
    .ite .rfl (fun _ => ?_) fun _ => prims.failure_coupled (by trivial)
  apply prims.self.bind
  intro c d hcd
  rw [(prims.control c d hcd).commandTimeoutMs]
  exact (prims.log _ (by trivial)).andThen (prims.checkStall_coupled.andThen (.pure rfl))

theorem writeChunk_coupled (prims : Primitives R Agree env env') {cmd : VdcCommand} :
    Coupled R Eq (writeChunk env cmd) (writeChunk env' cmd) := by
  apply (prims.update _ (.booked cmd)).andThen
  refine .ite .rfl (fun _ => prims.failure_coupled (by trivial)) fun _ => ?_
  apply prims.sinkIsOpen.bindEq
  intro isOpen
  refine .ite .rfl (fun _ => prims.failure_coupled (by trivial)) fun _ => ?_
  apply prims.nowUs.bindEq
  intro sinkStart
  apply (prims.sinkWrite cmd).bindEq
  intro ok
  refine .ite .rfl (fun _ => prims.failure_coupled (by trivial)) fun _ => ?_
  apply prims.nowUs.bindEq
  intro sinkEnd
  exact (prims.update _ .written).andThen (.pure rfl)

/-- Code that stays coupled ends with equal results in related machines. -/
theorem related_of_coupled {Q : α → α → Machine ω σ → Machine ω' σ' → Prop} {x : VdiM ω σ α}
    {y : VdiM ω' σ' α} (hQ : ∀ a s t, R s t → Q a a s t) (h : Coupled R Eq x y) :
    Related R Q x y := by
  intro s t hR
  obtain ⟨hresult, hR'⟩ := h s t hR
  rw [hresult]
  exact hQ _ _ _ hR'

section Body

variable {Q : Flow → Flow → Machine ω σ → Machine ω' σ' → Prop} {device : Device}

/-- Stages 2 to 4, for any relation `Q` that completion establishes and that the machines satisfy
as long as they are related. -/
theorem handleCommand_related (prims : Primitives R Agree env env')
    (hQ : ∀ flow s t, R s t → Q flow flow s t)
    (hcomplete : ∀ cmd times,
      Related R Q (completeStage env device cmd times) (completeStage env' device cmd times))
    {start gcStart gcUs : UInt64} {cmd : VdcCommand} :
    Related R Q (handleCommand env start gcStart gcUs device cmd)
      (handleCommand env' start gcStart gcUs device cmd) := by
  unfold handleCommand
  generalize dispatchCommand (some cmd) = dispatched
  obtain ⟨code, result⟩ := dispatched
  refine prims.nowUs.bindRelated fun dispatchStart _ h => ?_
  subst h
  refine prims.nowUs.bindRelated fun dispatchEnd _ h => ?_
  subst h
  cases result with
  | failed => exact related_of_coupled hQ (prims.failure_coupled (by trivial))
  | closeRequest => exact related_of_coupled hQ (.pure rfl)
  | «continue» =>
      have hsink : Coupled R Eq (sinkStage env code cmd) (sinkStage env' code cmd) :=
        .ite .rfl (fun _ => prims.writeChunk_coupled) fun _ => .pure rfl
      refine hsink.bindRelated fun sinkUs _ h => ?_
      subst h
      cases sinkUs with
      | none => exact related_of_coupled hQ (.pure rfl)
      | some sinkUs => exact hcomplete cmd _

theorem loopBody_related (prims : Primitives R Agree env env')
    (hQ : ∀ flow s t, R s t → Q flow flow s t)
    (hcomplete : ∀ cmd times,
      Related R Q (completeStage env device cmd times) (completeStage env' device cmd times))
    {start : UInt64} : Related R Q (loopBody env start device) (loopBody env' start device) := by
  refine prims.nowUs.bindRelated fun gcStart _ h => ?_
  subst h
  refine prims.self.bindRelated fun c d hcd => ?_
  rw [(prims.control c d hcd).commandTimeoutMs]
  refine (prims.getCommand device _).bindRelated fun answer _ h => ?_
  subst h
  obtain ⟨hr, cmd⟩ := answer
  refine prims.nowUs.bindRelated fun gcEnd _ h => ?_
  subst h
  refine (prims.update _ (.fetched gcEnd)).bindRelated fun _ _ _ => ?_
  by_cases hfailed : failed hr = true
  · simp only [hfailed, if_true]
    exact related_of_coupled hQ prims.getCommandFailed_coupled
  · simp only [hfailed]
    cases cmd with
    | none =>
        exact related_of_coupled hQ ((prims.log _ (by trivial)).andThen (.pure rfl))
    | some cmd => exact prims.handleCommand_related hQ hcomplete

end Body

theorem openAll_coupled (prims : Primitives R Agree env env') {ds : DeviceSet} {k : Nat}
    {devices : List Device} :
    Coupled R Eq (openAll env ds k devices) (openAll env' ds k devices) := by
  induction k generalizing devices with
  | zero => exact .pure rfl
  | succ k ih =>
      apply prims.self.bind
      intro c d hcd
      rw [(prims.control c d hcd).deviceName]
      apply (prims.openDevice ds _).bindEq
      intro answer
      obtain ⟨hr, device⟩ := answer
      exact .ite .rfl (fun _ => prims.failure_coupled (by trivial)) fun _ => ih

theorem releaseAll_coupled (prims : Primitives R Agree env env') {devices : List Device} :
    Coupled R Eq (releaseAll env devices) (releaseAll env' devices) := by
  induction devices with
  | nil => exact .pure rfl
  | cons device devices ih => exact (prims.deviceRelease device).andThen ih

theorem close_coupled (prims : Primitives R Agree env env') :
    Coupled R Eq (close env) (close env') := by
  apply prims.self.bind
  intro c d hcd
  have hsame := prims.control c d hcd
  rw [hsame.devicesClosed, hsame.state, hsame.deviceSet]
  have hflush : Coupled R Eq (flushBeforeClose env d.state) (flushBeforeClose env' d.state) :=
    .ite .rfl (fun _ => prims.sinkFlush) fun _ => .pure rfl
  have hdevices : Coupled R Eq (closeDeviceSet env d.deviceSet)
      (closeDeviceSet env' d.deviceSet) := by
    cases d.deviceSet with
    | none => exact .pure rfl
    | some ds =>
        exact (prims.setClose ds).andThen
          ((prims.setRelease ds).andThen (prims.update _ .setGone))
  refine .ite .rfl (fun _ => .pure rfl) fun _ => hflush.andThen (hdevices.andThen ?_)
  exact (prims.update _ .closed).andThen (prims.setState .closed)

theorem finishCommands_coupled (prims : Primitives R Agree env env') {devices : List Device} :
    Coupled R Eq (finishCommands env devices) (finishCommands env' devices) := by
  refine prims.releaseAll_coupled.andThen (prims.self.bind ?_)
  intro c d hcd
  rw [(prims.control c d hcd).state]
  have hclose : Coupled R Eq (closeFlushed env d.state) (closeFlushed env' d.state) :=
    .ite .rfl (fun _ => prims.close_coupled) fun _ => .pure rfl
  refine hclose.andThen (prims.self.bind ?_)
  intro c d hcd
  exact prims.report c d hcd

/-- The checks and the `OpenDevice` loop at the head of the call, for any way the rest of the call
relates the runs. -/
theorem processCommands_related (prims : Primitives R Agree env env')
    {Q : Bool → Bool → Machine ω σ → Machine ω' σ' → Prop} {fuel : Nat}
    (hQ : ∀ returned s t, R s t → Q returned returned s t)
    (hserve : ∀ devices,
      Related R Q (serveDevices env fuel devices) (serveDevices env' fuel devices)) :
    Related R Q (processCommands env fuel) (processCommands env' fuel) := by
  refine prims.self.bindRelated fun c d hcd => ?_
  have hsame := prims.control c d hcd
  rw [hsame.state, hsame.deviceSet, hsame.deviceCount]
  by_cases hstate : d.state ≠ .streaming
  · rw [if_pos hstate, if_pos hstate]
    exact related_of_coupled hQ ((prims.log _ (by trivial)).andThen (.pure rfl))
  · rw [if_neg hstate, if_neg hstate]
    cases d.deviceSet with
    | none => exact related_of_coupled hQ ((prims.log _ (by trivial)).andThen (.pure rfl))
    | some ds =>
        refine prims.openAll_coupled.bindRelated fun devices _ h => ?_
        subst h
        cases devices with
        | none => exact related_of_coupled hQ (.pure rfl)
        | some devices => exact hserve devices

section Whole

variable (hcomplete : ∀ device cmd times,
  Coupled R Eq (completeStage env device cmd times) (completeStage env' device cmd times))

include hcomplete

theorem serveDevices_coupled (prims : Primitives R Agree env env') {fuel : Nat}
    {devices : List Device} :
    Coupled R Eq (serveDevices env fuel devices) (serveDevices env' fuel devices) := by
  apply prims.nowUs.bindEq
  intro start
  apply (prims.update _ (.started start)).andThen
  have hloop : Coupled R Eq
      (fun m => whileFuel (forEach (loopBody env start) devices) fuel m)
      (fun m => whileFuel (forEach (loopBody env' start) devices) fuel m) := by
    refine Coupled.whileFuel (.forEach fun device _ => ?_) fuel
    apply Coupled.related_iff.mpr
    exact prims.loopBody_related (fun _ _ _ hR => ⟨rfl, hR⟩)
      fun cmd times => Coupled.related_iff.mp (hcomplete device cmd times)
  apply hloop.bindEq
  intro flow
  cases flow with
  | next => exact .pure rfl
  | stop => exact prims.finishCommands_coupled.andThen (.pure rfl)

/-- **Coupled calls.**  What relates the primitives and completion relates the whole call. -/
theorem processCommands_coupled (prims : Primitives R Agree env env') {fuel : Nat} :
    Coupled R Eq (processCommands env fuel) (processCommands env' fuel) := by
  apply Coupled.related_iff.mpr
  exact prims.processCommands_related (fun _ _ _ hR => ⟨rfl, hR⟩)
    fun _ => Coupled.related_iff.mp (serveDevices_coupled hcomplete prims)

end Whole

end Primitives

/-! ## A run coupled with itself -/

/-- Two copies of a machine with the invariant `I`. -/
def Keeping (I : Machine ω σ → Prop) (m m' : Machine ω σ) : Prop := m = m' ∧ I m

section Keeping

variable {I : Machine ω σ → Prop} {env : Env ω σ}

theorem coupled_keeping {x : VdiM ω σ α} (h : ∀ m, I m → I (x.run m).2) :
    Coupled (Keeping I) Eq x x := by
  intro m m' hm
  obtain ⟨rfl, hI⟩ := hm
  exact ⟨rfl, rfl, h m hI⟩

/-- An event of a primitive, completion and its hook apart. -/
def Event.Uncompleted : Event → Prop
  | .completeCommand .. => False
  | .log line => line.Uninjected
  | .coInitializeEx _ | .coUninit | .coCreateInstance .. | .createEx .. | .getConfiguration ..
  | .openDevice .. | .setClose _ | .setRelease _ | .getCommand .. | .deviceRelease _
  | .sinkIsOpen _ | .sinkWrite .. | .sinkFlush | .nowUs _ | .transition .. | .report .. => True

/-- An invariant of the fields and the trace that survives every event but a completion and every
assignment outside it is kept by the primitives. -/
theorem keeping_primitives
    (hevent : ∀ m outside (e : Event), e.Uncompleted → I m →
      I { m with outside := outside, trace := m.trace ++ [e] })
    (hupdate : ∀ m f, Bookkeeping f → I m → I { m with client := f m.client })
    (hstate : ∀ m state, I m → I { m with client := { m.client with state := state } }) :
    Primitives (Keeping I) Eq env env where
  control c d h := by
    subst h
    exact ⟨rfl, rfl, rfl, rfl, rfl, rfl, rfl, rfl, rfl⟩
  self := coupled_keeping fun _ h => h
  update f hf := coupled_keeping fun m h => hupdate m f hf h
  log line hline := coupled_keeping fun m h => hevent m m.outside (.log line) hline h
  setState state := coupled_keeping fun m h =>
    hstate _ state (hevent m m.outside (.transition m.client.state state) trivial h)
  report c d h := by
    subst h
    exact coupled_keeping fun m h =>
      hevent m m.outside (.report c.metrics c.maxActiveBuffers) trivial h
  nowUs := coupled_keeping fun m h => hevent m _ (.nowUs _) trivial h
  openDevice ds name := coupled_keeping fun m h => hevent m _ (.openDevice ds name _ _) trivial h
  setClose ds := coupled_keeping fun m h => hevent m _ (.setClose ds) trivial h
  setRelease ds := coupled_keeping fun m h => hevent m _ (.setRelease ds) trivial h
  getCommand device timeout := coupled_keeping fun m h =>
    hevent m _ (.getCommand device timeout _ _) trivial h
  deviceRelease device := coupled_keeping fun m h => hevent m _ (.deviceRelease device) trivial h
  sinkIsOpen := coupled_keeping fun m h => hevent m _ (.sinkIsOpen _) trivial h
  sinkWrite cmd := coupled_keeping fun m h => hevent m _ (.sinkWrite cmd _) trivial h
  sinkFlush := coupled_keeping fun m h => hevent m _ .sinkFlush trivial h

/-- **Invariants of a call.** -/
theorem processCommands_keeping (prims : Primitives (Keeping I) Eq env env)
    (hcomplete : ∀ device cmd times m, I m → I ((completeStage env device cmd times).run m).2)
    {fuel : Nat} {m : Machine ω σ} (h : I m) : I ((processCommands env fuel).run m).2 :=
  (prims.processCommands_coupled
    (fun device cmd times => coupled_keeping (hcomplete device cmd times)) m m ⟨rfl, h⟩).2.2

end Keeping

end Vdi
