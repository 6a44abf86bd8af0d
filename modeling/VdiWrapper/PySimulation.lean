import VdiWrapper.Lib.Coupling
import VdiWrapper.PyClient
import VdiWrapper.Scripted

/-!
# The Python client simulates the C++ client

Both clients serve one device that follows a finite script.  Coupled round by round, they make the
same calls on the device and keep the same books: each 64-bit counter of the C++ client is the
unbounded counter of the Python client modulo `2 ^ 64`.

They differ where the script cannot tell: the C++ client validates a chunk and asks the sink, the
Python client does not; a failing `CompleteCommand` stops only the C++ client, and a timeout only
the Python client.
-/

namespace Vdi

open Runs

variable {α : Type}

/-! ## Scripts -/

/-- What the server does with its one device: the answers to `GetCommand` in turn, its answer after
those, and the results of `CompleteCommand` in turn. -/
structure Script where
  device : Device
  answers : List Answer
  ending : HResult
  completions : Nat → HResult

/-- What is left of the answers, and how many commands have been completed. -/
structure ScriptState where
  answers : List Answer
  completed : Nat

def Script.start (script : Script) : ScriptState := { answers := script.answers, completed := 0 }

/-- A server that follows the script; everything else succeeds. -/
def Script.com (script : Script) : Com ScriptState where
  coInitializeEx := fun w => (sOk, w)
  coUninit := fun w => w
  coCreateInstance := fun w => ((sOk, 0), w)
  createEx := fun _ _ _ w => (sOk, w)
  getConfiguration := fun _ _ w => (sOk, w)
  openDevice := fun _ _ w => ((sOk, script.device), w)
  setClose := fun _ w => w
  setRelease := fun _ w => w
  getCommand := fun _ _ w =>
    match w.answers with
    | [] => ((script.ending, none), w)
    | answer :: rest => (answer, { w with answers := rest })
  completeCommand := fun _ cmd _ _ _ w =>
    ((script.completions w.completed, cmd), { w with completed := w.completed + 1 })
  deviceRelease := fun _ w => w

/-- `GetCommand` succeeds with nothing, with a command that is sane if it is a `VDC_Write`, or
fails other than by a timeout. -/
def Answer.Admissible (answer : Answer) : Prop :=
  if failed answer.1 then answer.1 ≠ vdETimeout
  else ∀ cmd, answer.2 = some cmd → cmd.commandCode = vdcWrite → cmd.Sane

structure Script.Admissible (script : Script) : Prop where
  answers : ∀ answer ∈ script.answers, answer.Admissible
  ending : failed script.ending = true ∧ script.ending ≠ vdETimeout
  completions : ∀ k, failed (script.completions k) = false

/-- The calls of a trace on a device. -/
def Event.deviceCall : Event → Option DeviceCall
  | .getCommand device _ hr cmd => some (.getCommand device hr cmd)
  | .completeCommand device cmd code size position hr =>
      some (.completeCommand device cmd code size position hr)
  | .coInitializeEx _ | .coUninit | .coCreateInstance .. | .createEx .. | .getConfiguration ..
  | .openDevice .. | .setClose _ | .setRelease _ | .deviceRelease _ | .sinkIsOpen _
  | .sinkWrite .. | .sinkFlush | .nowUs _ | .transition .. | .log _ | .report .. => none

def deviceCallsOf (es : List Event) : List DeviceCall := es.filterMap Event.deviceCall

theorem deviceCallsOf_snoc (es : List Event) (e : Event) :
    deviceCallsOf (es ++ [e]) = deviceCallsOf es ++ e.deviceCall.toList := by
  unfold deviceCallsOf
  rw [List.filterMap_append]
  cases h : e.deviceCall <;> simp [h]

/-! ## The books -/

/-- The counters of the two clients, and their pools. -/
structure Books (c : Client) (py : PyVdiClient) : Prop where
  totalBytes : c.metrics.totalBytes = UInt64.ofNat py.metrics.totalBytes
  chunkCount : c.metrics.chunkCount = UInt64.ofNat py.metrics.chunkCount
  minChunkSize : c.metrics.minChunkSize.toNat = py.metrics.minChunkSize
  maxChunkSize : c.metrics.maxChunkSize.toNat = py.metrics.maxChunkSize
  sumChunkSizes : c.metrics.sumChunkSizes = UInt64.ofNat py.metrics.sumChunkSizes
  acquires : c.metrics.bufferAcquireCount = UInt64.ofNat py.metrics.bufferAcquireCount
  releases : c.metrics.bufferReleaseCount = UInt64.ofNat py.metrics.bufferReleaseCount
  hits : c.metrics.bufferPoolHits = UInt64.ofNat py.metrics.bufferPoolHits
  misses : c.metrics.bufferPoolMisses = UInt64.ofNat py.metrics.bufferPoolMisses
  pool : c.bufferPool.freeBuffers = py.poolAvailable

/-- What the Python counters amount to: a chunk has at least one byte and always finds a buffer. -/
structure PyVdiClient.Balanced (py : PyVdiClient) : Prop where
  chunks : py.metrics.chunkCount ≤ py.metrics.totalBytes
  sum : py.metrics.sumChunkSizes = py.metrics.totalBytes
  acquires : py.metrics.bufferAcquireCount = py.metrics.chunkCount
  releases : py.metrics.bufferReleaseCount = py.metrics.chunkCount
  hits : py.metrics.bufferPoolHits = py.metrics.chunkCount
  misses : py.metrics.bufferPoolMisses = 0
  stocked : py.poolAvailable ≠ []
  slots : ∀ idx ∈ py.poolAvailable, idx < pyPoolSize

theorem PyVdiClient.poolRelease_of_slot (py : PyVdiClient) {idx : Nat} (h : idx < pyPoolSize) :
    py.poolRelease idx = { py with poolAvailable := py.poolAvailable ++ [idx] } := by
  have hfind : (List.range pyPoolSize).find? (· == idx) = some idx := by
    rw [List.find?_range_eq_some]
    exact ⟨by simp, by simpa using h, fun j hj => by simpa using Nat.ne_of_lt hj⟩
  unfold poolRelease
  rw [hfind]

/-- Where a buffer is free, the pool hands it out and takes it back at the end of the queue. -/
theorem PyVdiClient.processWrite_stocked (py : PyVdiClient) (cmd : VdcCommand) {idx : Nat}
    {rest : List Nat} (havailable : py.poolAvailable = idx :: rest) (hslot : idx < pyPoolSize) :
    py.processWrite cmd =
      { py with
        metrics := ((((py.metrics.recordChunkSize cmd.size.toNat).addBytes
          cmd.size.toNat).recordBufferAcquire true).recordBufferRelease)
        poolAvailable := rest ++ [idx] } := by
  unfold processWrite simulateBufferPool poolAcquire
  simp only [havailable, poolRelease_of_slot _ hslot]

theorem recordWrite_stocked (c : Client) (cmd : VdcCommand) {idx : Nat} {rest : List Nat}
    (havailable : c.bufferPool.freeBuffers = idx :: rest) :
    (recordWrite cmd c).metrics =
        (((c.metrics.recordChunkSize cmd.size.toUInt64).addBytes
          cmd.size.toUInt64).recordBufferAcquire true).recordBufferRelease ∧
      (recordWrite cmd c).bufferPool.freeBuffers = rest ++ [idx] ∧
      (recordWrite cmd c).faultInjector = c.faultInjector := by
  unfold recordWrite simulateBufferPool BufferPool.acquire
  simp only [havailable]
  exact ⟨trivial, rfl, trivial⟩

/-- A write enters both books alike. -/
theorem Books.recordWrite {c : Client} {py : PyVdiClient} (h : Books c py)
    (hbalanced : py.Balanced) (cmd : VdcCommand) :
    Books (recordWrite cmd c) (py.processWrite cmd) := by
  obtain ⟨idx, rest, havailable⟩ := List.exists_cons_of_ne_nil hbalanced.stocked
  have hslot : idx < pyPoolSize :=
    hbalanced.slots idx (by rw [havailable]; exact List.mem_cons_self)
  obtain ⟨hmetrics, hpool, -⟩ :=
    recordWrite_stocked c cmd (h.pool.trans havailable)
  rw [py.processWrite_stocked cmd havailable hslot]
  have hsize {a : UInt64} {n : Nat} (ha : a = UInt64.ofNat n) :
      a + cmd.size.toUInt64 = UInt64.ofNat (n + cmd.size.toNat) := by
    rw [ha, UInt64.ofNat_add, UInt64.ofNat_uInt32ToNat]
  have hone {a : UInt64} {n : Nat} (ha : a = UInt64.ofNat n) : a + 1 = UInt64.ofNat (n + 1) := by
    rw [ha, UInt64.ofNat_add]
    rfl
  constructor
  · rw [hmetrics]
    exact hsize h.totalBytes
  · rw [hmetrics]
    exact hone h.chunkCount
  · rw [hmetrics]
    change (if cmd.size.toUInt64 < c.metrics.minChunkSize then cmd.size.toUInt64
      else c.metrics.minChunkSize).toNat = if cmd.size.toNat < py.metrics.minChunkSize
        then cmd.size.toNat else py.metrics.minChunkSize
    rw [apply_ite UInt64.toNat, UInt32.toNat_toUInt64, ← h.minChunkSize]
    simp only [UInt64.lt_iff_toNat_lt, UInt32.toNat_toUInt64]
  · rw [hmetrics]
    change (if c.metrics.maxChunkSize < cmd.size.toUInt64 then cmd.size.toUInt64
      else c.metrics.maxChunkSize).toNat = if py.metrics.maxChunkSize < cmd.size.toNat
        then cmd.size.toNat else py.metrics.maxChunkSize
    rw [apply_ite UInt64.toNat, UInt32.toNat_toUInt64, ← h.maxChunkSize]
    simp only [UInt64.lt_iff_toNat_lt, UInt32.toNat_toUInt64]
  · rw [hmetrics]
    exact hsize h.sumChunkSizes
  · rw [hmetrics]
    exact hone h.acquires
  · rw [hmetrics]
    exact hone h.releases
  · rw [hmetrics]
    exact hone h.hits
  · rw [hmetrics]
    exact h.misses
  · exact hpool

theorem PyVdiClient.Balanced.processWrite {py : PyVdiClient} (h : py.Balanced) {cmd : VdcCommand}
    (hsane : cmd.Sane) : (py.processWrite cmd).Balanced := by
  obtain ⟨idx, rest, havailable⟩ := List.exists_cons_of_ne_nil h.stocked
  have hslot : idx < pyPoolSize := h.slots idx (by rw [havailable]; exact List.mem_cons_self)
  rw [py.processWrite_stocked cmd havailable hslot]
  have hpos := hsane.pos
  have hchunks := h.chunks
  constructor
  · change py.metrics.chunkCount + 1 ≤ py.metrics.totalBytes + cmd.size.toNat
    omega
  · exact congrArg (· + cmd.size.toNat) h.sum
  · exact congrArg (· + 1) h.acquires
  · exact congrArg (· + 1) h.releases
  · exact congrArg (· + 1) h.hits
  · exact h.misses
  · simp
  · intro j hj
    apply h.slots
    rw [havailable]
    simpa [or_comm] using hj

/-! ## The coupling -/

/-- The two clients between two rounds of their loops. -/
structure Twin (m : Machine ScriptState Unit) (p : PyMachine ScriptState) : Prop where
  world : m.outside.world = p.world
  calls : deviceCallsOf m.trace = p.calls
  books : Books m.client p.client
  balanced : p.client.Balanced
  idle : m.client.faultInjector.Idle
  admissible : ∀ answer ∈ p.world.answers, answer.Admissible

/-- An event of the C++ client alone adds no call on the device. -/
theorem Twin.calls_snoc {m : Machine ScriptState Unit} {p : PyMachine ScriptState}
    (twin : Twin m p) {e : Event} (h : e.deviceCall = none) :
    deviceCallsOf (m.trace ++ [e]) = p.calls := by
  rw [deviceCallsOf_snoc, h, twin.calls]
  exact List.append_nil _

/-- `x` in the C++ client does what `y` does in the Python client. -/
abbrev TwinOf {β : Type} (Q : α → β → Prop) (x : VdiM ScriptState Unit α)
    (y : PyM ScriptState β) : Prop :=
  Coupled Twin Q x y

/-- `x` is a line of the C++ client alone. -/
abbrev Alone (x : VdiM ScriptState Unit α) : Prop := Silent Twin x

theorem emit_alone {e : Event} (h : e.deviceCall = none) : Alone (emit e) :=
  fun _ _ twin => { twin with calls := twin.calls_snoc h }

theorem log_alone {line : LogLine} : Alone (log line) := emit_alone rfl

theorem nowUs_alone {env : Env ScriptState Unit} : Alone (nowUs env) :=
  fun _ _ twin => { twin with calls := twin.calls_snoc rfl }

theorem self_alone : Alone (self : VdiM ScriptState Unit Client) := fun _ _ twin => twin

theorem update_alone {f : Client → Client} (hbooks : ∀ c py, Books c py → Books (f c) py)
    (hidle : ∀ c, c.faultInjector.Idle → (f c).faultInjector.Idle) : Alone (update f) :=
  fun _ _ twin => { twin with books := hbooks _ _ twin.books, idle := hidle _ twin.idle }

theorem setState_alone {state : SessionState} : Alone (setState state) :=
  fun _ _ twin => { twin with calls := twin.calls_snoc rfl, books := { twin.books with } }

section Functions

variable {script : Script} {clock : Nat → UInt64}

/-- The script and a `NullSink`. -/
abbrev scriptEnv (script : Script) (clock : Nat → UInt64) : Env ScriptState Unit :=
  { com := script.com, sink := nullSink, clock }

/-- A call that leaves the script alone. -/
theorem comCall_alone {e : Event} (h : e.deviceCall = none) :
    Alone (comCall (fun w => ((), w)) fun _ => e) :=
  fun _ _ twin => { twin with calls := twin.calls_snoc h }

/-- The `NullSink` is open and takes everything. -/
theorem sinkCall_alone {a : α} {event : α → Event} (h : (event a).deviceCall = none)
    (m : Machine ScriptState Unit) (p : PyMachine ScriptState) (twin : Twin m p) :
    let answered := (sinkCall (fun s => (a, s)) event).run m
    answered.1 = a ∧ Twin answered.2 p :=
  ⟨rfl, { twin with calls := twin.calls_snoc h }⟩

theorem Script.Admissible.getCommand (h : script.Admissible) {w : ScriptState}
    (hw : ∀ answer ∈ w.answers, answer.Admissible) (device : Device) (timeout : UInt32) :
    Answer.Admissible (script.com.getCommand device timeout w).1 ∧
      ∀ answer ∈ (script.com.getCommand device timeout w).2.answers, answer.Admissible := by
  obtain ⟨answers, completed⟩ := w
  cases answers with
  | nil =>
      refine ⟨?_, hw⟩
      change if failed script.ending then script.ending ≠ vdETimeout else _
      rw [if_pos h.ending.1]
      exact h.ending.2
  | cons answer rest =>
      exact ⟨hw answer List.mem_cons_self, fun a ha => hw a (List.mem_cons_of_mem _ ha)⟩

theorem getCommand_twin (h : script.Admissible) {device : Device} {timeout : UInt32} :
    TwinOf (fun a b => a = b ∧ Answer.Admissible a)
      (getCommand (scriptEnv script clock) device timeout) (Py.getCmd script.com device) := by
  intro m p twin
  obtain ⟨c, ⟨world, sink, ticks⟩, es⟩ := m
  obtain rfl : world = p.world := twin.world
  obtain ⟨hanswer, hrest⟩ := h.getCommand twin.admissible device infinite
  refine ⟨⟨rfl, hanswer⟩, { twin with world := rfl, calls := ?_, admissible := hrest }⟩
  exact (deviceCallsOf_snoc ..).trans (congrArg (· ++ _) twin.calls)

theorem completeCommand_twin (h : script.Admissible) {device : Device} {cmd : VdcCommand} :
    TwinOf (fun a b => a = b ∧ failed a.1 = false)
      (completeCommand (scriptEnv script clock) device cmd errorSuccess cmd.size cmd.position)
      (Py.deviceCall (script.com.completeCommand device cmd errorSuccess cmd.size cmd.position)
        fun r => .completeCommand device cmd errorSuccess cmd.size cmd.position r.1) := by
  intro m p twin
  obtain ⟨c, ⟨world, sink, ticks⟩, es⟩ := m
  obtain rfl : world = p.world := twin.world
  refine ⟨⟨rfl, h.completions _⟩, { twin with world := rfl, calls := ?_ }⟩
  exact (deviceCallsOf_snoc ..).trans (congrArg (· ++ _) twin.calls)

theorem completeStage_twin (h : script.Admissible) {device : Device} {cmd : VdcCommand}
    {times : StageTimes} :
    TwinOf Eq (completeStage (scriptEnv script clock) device cmd times)
      (Py.completeCmd script.com device cmd) := by
  refine .skip nowUs_alone fun _ => (completeCommand_twin h).bind ?_
  intro answer answer' h
  obtain ⟨hr, cmd'⟩ := answer
  obtain ⟨rfl, hok⟩ := h
  refine .skip nowUs_alone fun _ => ?_
  simp only [show failed hr = false from hok, Bool.false_eq_true, if_false]
  refine .skipWith (p := fun c => c.faultInjector.Idle)
    (fun m p twin => ⟨twin.idle, twin⟩) fun c hidle => ?_
  rw [show c.faultInjector.onChunkCompleted = (false, c.faultInjector) from hidle]
  refine .skip (update_alone (fun _ _ books => { books with }) fun _ _ => hidle) fun _ => ?_
  simp only [Bool.false_eq_true, if_false]
  exact .skip (update_alone (fun _ _ books => { books with }) fun _ hidle => hidle) fun _ =>
    .pure rfl

/-- A sane chunk is written, and entered in both books. -/
theorem writeChunk_twin {cmd : VdcCommand} (hsane : cmd.Sane) :
    TwinOf (fun r _ => r.isSome) (writeChunk (scriptEnv script clock) cmd)
      (Py.update (·.processWrite cmd)) := by
  rw [← bind_pure (Py.update _)]
  have hwrite : TwinOf Eq (update (recordWrite cmd)) (Py.update (·.processWrite cmd)) := by
    intro m p twin
    have hidle : (recordWrite cmd m.client).faultInjector.Idle := by
      obtain ⟨idx, rest, havailable⟩ := List.exists_cons_of_ne_nil twin.balanced.stocked
      obtain ⟨-, -, hinjector⟩ :=
        recordWrite_stocked m.client cmd (twin.books.pool.trans havailable)
      rw [hinjector]
      exact twin.idle
    exact ⟨rfl, { twin with
      books := twin.books.recordWrite twin.balanced cmd
      balanced := twin.balanced.processWrite hsane
      idle := hidle }⟩
  have hvalid : validateWriteCommand (some cmd) = true := validateWriteCommand_eq_true_iff.mpr hsane
  apply hwrite.bind
  intro _ _ _
  simp only [hvalid, Bool.not_true, Bool.false_eq_true, if_false]
  refine .skipWith (p := (· = true)) (sinkCall_alone rfl) fun ok hok => ?_
  subst hok
  simp only [Bool.not_true, Bool.false_eq_true, if_false]
  refine .skip nowUs_alone fun _ => ?_
  refine .skipWith (p := (· = true)) (sinkCall_alone rfl) fun ok hok => ?_
  subst hok
  simp only [Bool.not_true, Bool.false_eq_true, if_false]
  refine .skip nowUs_alone fun _ => ?_
  refine .skip (update_alone (fun _ _ books => { books with }) fun _ hidle => hidle) fun _ => ?_
  exact .pure rfl

section Dispatch

variable {start gcStart gcUs : UInt64} {device : Device} {cmd : VdcCommand}

theorem handleCommand_write_twin (h : script.Admissible) (hcode : cmd.commandCode = vdcWrite)
    (hsane : cmd.Sane) :
    TwinOf Eq (handleCommand (scriptEnv script clock) start gcStart gcUs device cmd)
      (do
        Py.update (·.processWrite cmd)
        Py.completeCmd script.com device cmd) := by
  have hdispatch : dispatchCommand (some cmd) = (vdcWrite, .continue) := by
    rw [dispatchCommand_some, hcode]
    rfl
  unfold handleCommand
  simp only [hdispatch]
  refine .skip nowUs_alone fun _ => .skip nowUs_alone fun _ => ?_
  apply (writeChunk_twin hsane).bind
  intro sinkUs _ hsome
  obtain ⟨us, rfl⟩ := Option.isSome_iff_exists.mp hsome
  exact completeStage_twin h

theorem handleCommand_close_twin (hcode : cmd.commandCode = vdcClose) :
    TwinOf Eq (handleCommand (scriptEnv script clock) start gcStart gcUs device cmd)
      (pure .stop) := by
  have hdispatch : dispatchCommand (some cmd) = (vdcClose, .closeRequest) := by
    rw [dispatchCommand_some, hcode]
    rfl
  unfold handleCommand
  simp only [hdispatch]
  exact .skip nowUs_alone fun _ => .skip nowUs_alone fun _ => .pure rfl

/-- Every other code is completed by both, known or not. -/
theorem handleCommand_other_twin (h : script.Admissible) (hwrite : cmd.commandCode ≠ vdcWrite)
    (hclose : cmd.commandCode ≠ vdcClose) :
    TwinOf Eq (handleCommand (scriptEnv script clock) start gcStart gcUs device cmd)
      (Py.completeCmd script.com device cmd) := by
  have hdispatch : dispatchCommand (some cmd) = (cmd.commandCode, .continue) := by
    rw [dispatchCommand_some, if_neg hclose]
  unfold handleCommand sinkStage
  simp only [hdispatch, if_neg hwrite]
  exact .skip nowUs_alone fun _ => .skip nowUs_alone fun _ => completeStage_twin h

end Dispatch

/-- A failure that is no timeout leaves both loops. -/
theorem getCommandFailed_twin {hr : HResult} (h : hr ≠ vdETimeout) {now : UInt64} :
    TwinOf Eq (getCommandFailed (scriptEnv script clock) hr now) (pure .stop) := by
  have hflush : Alone (sinkFlush (scriptEnv script clock)) :=
    fun m p twin => (sinkCall_alone rfl m p twin).2
  have hsignal : TwinOf Eq
      (do
        setState .flushing
        sinkFlush (scriptEnv script clock)
        return Flow.stop) (pure .stop) :=
    .skip setState_alone fun _ => .skip hflush fun _ => .pure rfl
  unfold getCommandFailed
  by_cases hclose : hr = vdEClose
  · rw [if_pos hclose]
    exact hsignal
  by_cases heof : hr = vdEEof
  · rw [if_neg hclose, if_pos heof]
    exact hsignal
  rw [if_neg hclose, if_neg heof, if_neg h]
  exact .skip log_alone fun _ => .skip setState_alone fun _ => .pure rfl

theorem loopBody_twin (h : script.Admissible) {start : UInt64} {device : Device} :
    TwinOf Eq (loopBody (scriptEnv script clock) start device)
      (Py.loopBody script.com device) := by
  refine .skip nowUs_alone fun gcStart => .skip self_alone fun c => (getCommand_twin h).bind ?_
  intro answer answer' hanswer
  obtain ⟨hr, cmd⟩ := answer
  obtain ⟨rfl, hadmissible⟩ := hanswer
  refine .skip nowUs_alone fun gcEnd => ?_
  refine .skip (update_alone (fun _ _ books => { books with }) fun _ hidle => hidle) fun _ => ?_
  simp only [pyFailed_longOfHResult]
  unfold Answer.Admissible at hadmissible
  by_cases hfailed : failed hr = true
  · rw [if_pos hfailed] at hadmissible
    simp only [if_pos hfailed]
    exact getCommandFailed_twin hadmissible
  · rw [if_neg hfailed] at hadmissible
    simp only [if_neg hfailed]
    cases cmd with
    | none => exact .skip log_alone fun _ => .pure rfl
    | some cmd =>
        change TwinOf Eq _ (if _ then _ else _)
        by_cases hwrite : cmd.commandCode = vdcWrite
        · rw [if_pos hwrite]
          exact handleCommand_write_twin h hwrite (hadmissible cmd rfl hwrite)
        rw [if_neg hwrite]
        by_cases hflush : cmd.commandCode = vdcFlush
        · rw [if_pos hflush]
          apply handleCommand_other_twin h hwrite
          rw [hflush]
          decide
        rw [if_neg hflush]
        by_cases hclose : cmd.commandCode = vdcClose
        · rw [if_pos hclose]
          exact handleCommand_close_twin hclose
        · rw [if_neg hclose]
          exact handleCommand_other_twin h hwrite hclose

/-- What follows the C++ loops says nothing to the device. -/
theorem finishCommands_alone {devices : List Device} :
    Alone (finishCommands (scriptEnv script clock) devices) := by
  have hrelease : Alone (releaseAll (scriptEnv script clock) devices) := by
    induction devices with
    | nil => exact .pure _
    | cons device devices ih => exact .bind (comCall_alone rfl) fun _ => ih
  have hflush : Alone (sinkFlush (scriptEnv script clock)) :=
    fun m p twin => (sinkCall_alone rfl m p twin).2
  have hdevices (deviceSet : Option DeviceSet) :
      Alone (closeDeviceSet (scriptEnv script clock) deviceSet) := by
    cases deviceSet with
    | none => exact .pure _
    | some ds =>
        exact .bind (comCall_alone rfl) fun _ => .bind (comCall_alone rfl) fun _ =>
          update_alone (fun _ _ books => { books with }) fun _ hidle => hidle
  have hclose : Alone (close (scriptEnv script clock)) := by
    refine .bind self_alone fun c => .ite (.pure _) ?_
    refine .bind (.ite hflush (.pure _)) fun _ => .bind (hdevices _) fun _ => ?_
    exact .bind (update_alone (fun _ _ books => { books with }) fun _ hidle => hidle) fun _ =>
      setState_alone
  refine .bind hrelease fun _ => .bind self_alone fun c => ?_
  exact .bind (.ite hclose (.pure _)) fun _ => .bind self_alone fun _ => emit_alone rfl

theorem serveDevices_twin (h : script.Admissible) {device : Device} {fuel : Nat} :
    TwinOf (fun returned flow => returned = decide (flow = .stop))
      (serveDevices (scriptEnv script clock) fuel [device])
      (fun p => whileFuel (Py.loopBody script.com device) fuel p) := by
  refine .skip nowUs_alone fun start => ?_
  refine .skip (update_alone (fun _ _ books => { books with }) fun _ hidle => hidle) fun _ => ?_
  have hloop : TwinOf Eq
      (fun m => whileFuel (forEach (loopBody (scriptEnv script clock) start) [device]) fuel m)
      (fun p => whileFuel (Py.loopBody script.com device) fuel p) := by
    rw [forEach_singleton]
    exact Coupled.whileFuel (loopBody_twin h) fuel
  apply hloop.bindEq (g := pure)
  intro flow
  cases flow with
  | next => exact .pure rfl
  | stop => exact .skip finishCommands_alone fun _ => .pure rfl

variable (clock) in
/-- The C++ client opens its one device. -/
theorem openAll_alone (ds : DeviceSet) (m : Machine ScriptState Unit) (p : PyMachine ScriptState)
    (twin : Twin m p) :
    let opened := (openAll (scriptEnv script clock) ds 1 []).run m
    opened.1 = some [script.device] ∧ Twin opened.2 p :=
  ⟨rfl, { twin with calls := twin.calls_snoc rfl }⟩

end Functions

/-! ## The simulation -/

/-- A client ready to serve one device, with nothing in its books. -/
structure Client.Fresh (c : Client) : Prop where
  state : c.state = .streaming
  deviceSet : c.deviceSet.isSome
  oneDevice : devCount c.deviceCount = 1
  metrics : c.metrics = { loggingEnabled := c.metrics.loggingEnabled }
  bufferPool : c.bufferPool = BufferPool.new bufferSize bufferPoolSize
  faultInjector : c.faultInjector.Idle

/-- The Python client with its device opened. -/
def PyVdiClient.opened (device : Device) : PyVdiClient := { device := some device }

theorem PyVdiClient.opened_balanced (device : Device) :
    (PyVdiClient.opened device).Balanced where
  chunks := Nat.le_refl 0
  sum := rfl
  acquires := rfl
  releases := rfl
  hits := rfl
  misses := rfl
  stocked := show List.range pyPoolSize ≠ [] by decide
  slots := fun _ hidx => List.mem_range.mp hidx

theorem Client.Fresh.books {client : Client} (hclient : client.Fresh) (device : Device) :
    Books client (PyVdiClient.opened device) := by
  have hmetrics := hclient.metrics
  constructor
  · rw [hmetrics]; rfl
  · rw [hmetrics]; rfl
  · rw [hmetrics]; rfl
  · rw [hmetrics]; rfl
  · rw [hmetrics]; rfl
  · rw [hmetrics]; rfl
  · rw [hmetrics]; rfl
  · rw [hmetrics]; rfl
  · rw [hmetrics]; rfl
  · rw [hclient.bufferPool]; rfl

theorem Client.Fresh.twin {script : Script} (h : script.Admissible) {client : Client}
    (hclient : client.Fresh) :
    Twin { client, outside := { world := script.start, sink := () } }
      { client := PyVdiClient.opened script.device, world := script.start } where
  world := rfl
  calls := rfl
  books := hclient.books script.device
  balanced := PyVdiClient.opened_balanced script.device
  idle := hclient.faultInjector
  admissible := h.answers

/-- Each round of the Python loop uses up an answer. -/
theorem Py.loopBody_answers {script : Script} (h : script.Admissible) {device : Device}
    {p p' : PyMachine ScriptState} (hbody : Py.loopBody script.com device p = (.next, p')) :
    p'.world.answers.length < p.world.answers.length := by
  obtain ⟨client, ⟨answers, completed⟩, calls⟩ := p
  cases answers with
  | nil =>
      have hstop : pyFailed (longOfHResult script.ending) = true := by
        rw [pyFailed_longOfHResult]
        exact h.ending.1
      change (if pyFailed (longOfHResult script.ending) then pure Flow.stop else _ :
        PyM ScriptState Flow) _ = _ at hbody
      rw [if_pos hstop] at hbody
      cases hbody
  | cons answer rest =>
      obtain ⟨hr, cmd⟩ := answer
      have hrest : p'.world.answers = rest := by
        change (if pyFailed (longOfHResult hr) then pure Flow.stop else _ :
          PyM ScriptState Flow) _ = _ at hbody
        by_cases hfailed : pyFailed (longOfHResult hr) = true
        · rw [if_pos hfailed] at hbody
          cases hbody
        rw [if_neg hfailed] at hbody
        cases cmd with
        | none =>
            cases hbody
            rfl
        | some cmd =>
            change (if _ then _ else if _ then _ else if _ then _ else _ :
              PyM ScriptState Flow) _ = _ at hbody
            by_cases hwrite : cmd.commandCode = vdcWrite
            · rw [if_pos hwrite] at hbody
              cases hbody
              rfl
            rw [if_neg hwrite] at hbody
            by_cases hflush : cmd.commandCode = vdcFlush
            · rw [if_pos hflush] at hbody
              cases hbody
              rfl
            rw [if_neg hflush] at hbody
            by_cases hclose : cmd.commandCode = vdcClose
            · rw [if_pos hclose] at hbody
              cases hbody
            rw [if_neg hclose] at hbody
            cases hbody
            rfl
      rw [hrest]
      exact Nat.lt_succ_self rest.length

/-- The counters both clients report. -/
structure SameCounters (metrics : Metrics) (py : PyMetrics) : Prop where
  totalBytes : metrics.totalBytes.toNat = py.totalBytes
  chunkCount : metrics.chunkCount.toNat = py.chunkCount
  minChunkSize : metrics.minChunkSize.toNat = py.minChunkSize
  maxChunkSize : metrics.maxChunkSize.toNat = py.maxChunkSize
  sumChunkSizes : metrics.sumChunkSizes.toNat = py.sumChunkSizes
  acquires : metrics.bufferAcquireCount.toNat = py.bufferAcquireCount
  releases : metrics.bufferReleaseCount.toNat = py.bufferReleaseCount
  hits : metrics.bufferPoolHits.toNat = py.bufferPoolHits
  misses : metrics.bufferPoolMisses.toNat = py.bufferPoolMisses

/-- Below `2 ^ 64` bytes no counter has wrapped around. -/
theorem Books.sameCounters {c : Client} {py : PyVdiClient} (h : Books c py)
    (hbalanced : py.Balanced) (hbytes : py.metrics.totalBytes < 2 ^ 64) :
    SameCounters c.metrics py.metrics := by
  have hexact {a : UInt64} {n : Nat} (ha : a = UInt64.ofNat n) (hn : n ≤ py.metrics.totalBytes) :
      a.toNat = n := by
    rw [ha]
    exact UInt64.toNat_ofNat_of_lt' (Nat.lt_of_le_of_lt hn hbytes)
  have hchunks := hbalanced.chunks
  constructor
  · exact hexact h.totalBytes (Nat.le_refl _)
  · exact hexact h.chunkCount hchunks
  · exact h.minChunkSize
  · exact h.maxChunkSize
  · exact hexact h.sumChunkSizes (Nat.le_of_eq hbalanced.sum)
  · exact hexact h.acquires (hbalanced.acquires ▸ hchunks)
  · exact hexact h.releases (hbalanced.releases ▸ hchunks)
  · exact hexact h.hits (hbalanced.hits ▸ hchunks)
  · exact hexact h.misses (hbalanced.misses ▸ Nat.zero_le _)

/-- The Python run is its loop. -/
theorem runPyCommands_opened (com : Com ScriptState) (fuel : Nat) (device : Device)
    (world : ScriptState) :
    let looped := whileFuel (Py.loopBody com device) fuel
      { client := PyVdiClient.opened device, world }
    runPyCommands com fuel (PyVdiClient.opened device) world =
      (.ok (decide (looped.1 = .stop)), looped.2) := by
  intro looped
  have hlooped : whileFuel (Py.loopBody com device) fuel
      { client := PyVdiClient.opened device, world } = (looped.1, looped.2) := rfl
  unfold runPyCommands Py.processCommands
  simp only [StateT.run, PyVdiClient.opened] at hlooped ⊢
  rw [hlooped]
  cases looped.1 with
  | next => rfl
  | stop => rfl

/-- The C++ run opens its device and serves it. -/
theorem runCommands_twin {script : Script} (hscript : script.Admissible) {client : Client}
    (hclient : client.Fresh) (clock : Nat → UInt64) (fuel : Nat) :
    let cpp := runCommands (scriptEnv script clock) fuel client
      { world := script.start, sink := () }
    let looped := whileFuel (Py.loopBody script.com script.device) fuel
      { client := PyVdiClient.opened script.device, world := script.start }
    cpp.1 = decide (looped.1 = .stop) ∧ Twin cpp.2 looped.2 := by
  obtain ⟨ds, hset⟩ := Option.isSome_iff_exists.mp hclient.deviceSet
  unfold runCommands processCommands
  rw [run_self_bind]
  simp only [hclient.state, hset, hclient.oneDevice, ne_eq, not_true_eq_false, if_false]
  obtain ⟨hopened, twin⟩ := openAll_alone clock ds _ _ (hclient.twin hscript)
  rw [run_bind (Prod.ext hopened rfl)]
  exact serveDevices_twin hscript _ _ twin

/-- **The Python client simulates the C++ client.**  For every admissible script and every number
of rounds the two clients have made the same calls on the device, one has returned if the other
has, which they have after the script, and below `2 ^ 64` bytes their counters are equal. -/
theorem processCommands_simulated {script : Script} (hscript : script.Admissible)
    {client : Client} (hclient : client.Fresh) (clock : Nat → UInt64) (fuel : Nat) :
    let cpp := runCommands (scriptEnv script clock) fuel client
      { world := script.start, sink := () }
    let py := runPyCommands script.com fuel (PyVdiClient.opened script.device) script.start
    deviceCallsOf cpp.2.trace = py.2.calls ∧ py.1 = .ok cpp.1 ∧
      (script.answers.length < fuel → cpp.1 = true) ∧
      (py.2.client.metrics.totalBytes < 2 ^ 64 →
        SameCounters cpp.2.client.metrics py.2.client.metrics) := by
  intro cpp py
  obtain ⟨hreturned, twin⟩ := runCommands_twin hscript hclient clock fuel
  have hpy : py = _ := runPyCommands_opened script.com fuel script.device script.start
  rw [hpy]
  refine ⟨twin.calls, ?_, fun hfuel => ?_, twin.books.sameCounters twin.balanced⟩
  · exact congrArg Except.ok hreturned.symm
  · rw [hreturned, whileFuel_terminates (fun p => p.world.answers.length)
      (fun _ _ hbody => Py.loopBody_answers hscript hbody) hfuel]
    rfl

/-- A null command, a byte, a read and the close signal. -/
def shortScript : Script where
  device := 0
  answers := [(sOk, none), deliver (oneByte 7), deliver (bareCommand vdcRead)]
  ending := vdEClose
  completions := fun _ => sOk

theorem shortScript_admissible : shortScript.Admissible where
  answers := by
    intro answer hanswer
    have hnull : Answer.Admissible (sOk, none) := fun _ hcmd => by cases hcmd
    have hbyte : (deliver (oneByte 7)).Admissible := by
      intro cmd hcmd _
      cases hcmd
      exact ⟨rfl, by decide, by decide⟩
    have hread : (deliver (bareCommand vdcRead)).Admissible := by
      intro cmd hcmd hcode
      cases hcmd
      exact absurd hcode (by decide)
    simp only [shortScript, List.mem_cons, List.not_mem_nil, or_false] at hanswer
    rcases hanswer with rfl | rfl | rfl
    · exact hnull
    · exact hbyte
    · exact hread
  ending := by decide
  completions := fun _ => show failed sOk = false by decide

theorem streamingClient_fresh : streamingClient.Fresh where
  state := by decide +kernel
  deviceSet := by decide +kernel
  oneDevice := by decide +kernel
  metrics := by decide +kernel
  bufferPool := by decide +kernel
  faultInjector := by
    unfold FaultInjector.Idle
    decide +kernel

theorem simulated_shortScript :
    deviceCallsOf (runCommands (scriptEnv shortScript UInt64.ofNat) 4 streamingClient
        { world := shortScript.start, sink := () }).2.trace =
      (runPyCommands shortScript.com 4 (PyVdiClient.opened shortScript.device)
        shortScript.start).2.calls ∧
    SameCounters (runCommands (scriptEnv shortScript UInt64.ofNat) 4 streamingClient
        { world := shortScript.start, sink := () }).2.client.metrics
      (runPyCommands shortScript.com 4 (PyVdiClient.opened shortScript.device)
        shortScript.start).2.client.metrics := by
  obtain ⟨hcalls, -, -, hcounters⟩ :=
    processCommands_simulated shortScript_admissible streamingClient_fresh UInt64.ofNat 4
  have hbytes : (runPyCommands shortScript.com 4 (PyVdiClient.opened shortScript.device)
      shortScript.start).2.client.metrics.totalBytes = 1 := by decide +kernel
  refine ⟨hcalls, hcounters ?_⟩
  rw [hbytes]
  norm_num

end Vdi
