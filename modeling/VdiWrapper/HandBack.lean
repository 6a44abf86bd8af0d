import VdiWrapper.BareLoop
import VdiWrapper.LoopCoupling

/-!
# Handing a command back

Once `CompleteCommand` has returned, the structure belongs to the server again and may hold
anything.  `Com.overwriting` is a server that makes use of this: what the `k`-th completed
structure holds afterwards is any function of `k` and of what it held.

Two runs against servers that differ in nothing else are coupled.  They make the same calls, but
the loop reads `cmd->size` once more after completion, for the `ChunkTiming`: each recorded size is
the one the server left there.  So the runs agree, and record the sizes delivered, exactly if no
size of a recorded command was overwritten.
-/

namespace Vdi

open Runs

variable {ω σ α : Type}

/-! ## A server that overwrites -/

/-- A call that completes nothing. -/
def keepCount (answer : ω → α × ω) (p : ω × Nat) : α × (ω × Nat) :=
  ((answer p.1).1, ((answer p.1).2, p.2))

/-- The server of `com`, counting completions; the `k`-th structure it gets back is overwritten by
`overwrite k`. -/
def Com.overwriting (com : Com ω) (overwrite : Nat → VdcCommand → VdcCommand) : Com (ω × Nat) where
  coInitializeEx := keepCount com.coInitializeEx
  coUninit := fun p => (com.coUninit p.1, p.2)
  coCreateInstance := keepCount com.coCreateInstance
  createEx := fun ds name config => keepCount (com.createEx ds name config)
  getConfiguration := fun ds timeout => keepCount (com.getConfiguration ds timeout)
  openDevice := fun ds name => keepCount (com.openDevice ds name)
  setClose := fun ds p => (com.setClose ds p.1, p.2)
  setRelease := fun ds p => (com.setRelease ds p.1, p.2)
  getCommand := fun device timeout => keepCount (com.getCommand device timeout)
  completeCommand := fun device cmd code size position p =>
    (((com.completeCommand device cmd code size position p.1).1.1, overwrite p.2 cmd),
      ((com.completeCommand device cmd code size position p.1).2, p.2 + 1))
  deviceRelease := fun device p => (com.deviceRelease device p.1, p.2)

/-! ## What is recorded -/

/-- The completions so far, and those that were recorded, each with its number. -/
structure Record where
  completions : Nat
  recorded : List (Nat × VdcCommand)

/-- A completion is recorded if it succeeds, unless the fault injector fires on it. -/
def Record.step (r : Record) : Event → Record
  | .completeCommand _ cmd _ _ _ hr =>
      ⟨r.completions + 1, if failed hr then r.recorded else r.recorded ++ [(r.completions, cmd)]⟩
  | .log line =>
      match line with
      | .faultInjectorTriggered _ => ⟨r.completions, r.recorded.dropLast⟩
      | _ => r
  | .coInitializeEx _ | .coUninit | .coCreateInstance .. | .createEx .. | .getConfiguration ..
  | .openDevice .. | .setClose _ | .setRelease _ | .getCommand .. | .deviceRelease _
  | .sinkIsOpen _ | .sinkWrite .. | .sinkFlush | .nowUs _ | .transition .. | .report .. => r

/-- The record of a trace. -/
def record (es : List Event) : Record := es.foldl Record.step ⟨0, []⟩

@[simp] theorem record_snoc (es : List Event) (e : Event) :
    record (es ++ [e]) = (record es).step e :=
  List.foldl_append

/-- An event that does not concern the record. -/
def Event.OffRecord (e : Event) : Prop := ∀ r, Record.step r e = r

/-! ## Machines that differ in recorded sizes -/

/-- A `ChunkTiming` without its size. -/
def ChunkTiming.unsized (timing : ChunkTiming) : ChunkTiming := { timing with size := 0 }

def Metrics.unsized (metrics : Metrics) : Metrics :=
  { metrics with timings := metrics.timings.map ChunkTiming.unsized }

def Client.unsized (c : Client) : Client := { c with metrics := c.metrics.unsized }

/-- An event without the sizes it reports. -/
def Event.unsized : Event → Event
  | .report metrics maxActiveBuffers => .report metrics.unsized maxActiveBuffers
  | e => e

/-- A machine without the recorded sizes. -/
def Machine.unsized (m : Machine ω σ) : Machine ω σ where
  client := m.client.unsized
  outside := m.outside
  trace := m.trace.map Event.unsized

/-- The sizes recorded after the `earlier` timings, and those about to be recorded, are those the
server left. -/
structure SizesLeft (overwrite : Nat → VdcCommand → VdcCommand) (earlier : List ChunkTiming)
    (pending : List UInt64) (m : Machine (ω × Nat) σ) : Prop where
  count : m.outside.world.2 = (record m.trace).completions
  timings : ∃ later, m.client.metrics.timings = earlier ++ later ∧
    later.map ChunkTiming.size ++ pending =
      (record m.trace).recorded.map fun p => (overwrite p.1 p.2).size.toUInt64

/-- A piece of client code that leaves the timings, the count of completions and the record
alone. -/
def LeavesRecord (x : VdiM (ω × Nat) σ α) : Prop :=
  ∀ m, (x.run m).2.client.metrics.timings = m.client.metrics.timings ∧
    (x.run m).2.outside.world.2 = m.outside.world.2 ∧ record (x.run m).2.trace = record m.trace

theorem LeavesRecord.sizesLeft {overwrite : Nat → VdcCommand → VdcCommand}
    {earlier : List ChunkTiming}
    {pending : List UInt64} {x : VdiM (ω × Nat) σ α} {m : Machine (ω × Nat) σ}
    (hx : LeavesRecord x) (h : SizesLeft overwrite earlier pending m) :
    SizesLeft overwrite earlier pending (x.run m).2 := by
  obtain ⟨htimings, hcount, hrecord⟩ := hx m
  constructor
  · rw [hcount, hrecord]
    exact h.count
  · rw [htimings, hrecord]
    exact h.timings

/-- Two machines that differ in nothing but what each server left in the recorded sizes. -/
structure AlikeUpToSizes (overwrite₁ overwrite₂ : Nat → VdcCommand → VdcCommand)
    (earlier : List ChunkTiming) (pending₁ pending₂ : List UInt64)
    (m₁ m₂ : Machine (ω × Nat) σ) : Prop where
  unsized : m₁.unsized = m₂.unsized
  left₁ : SizesLeft overwrite₁ earlier pending₁ m₁
  left₂ : SizesLeft overwrite₂ earlier pending₂ m₂

section Coupling

variable {overwrite₁ overwrite₂ : Nat → VdcCommand → VdcCommand} {earlier : List ChunkTiming}
  {pending₁ pending₂ : List UInt64}

/-- `x` against the first server is `y` against the second. -/
abbrev Alike {β : Type} (overwrite₁ overwrite₂ : Nat → VdcCommand → VdcCommand)
    (earlier : List ChunkTiming) (pending₁ pending₂ : List UInt64) (Q : α → β → Prop)
    (x : VdiM (ω × Nat) σ α) (y : VdiM (ω × Nat) σ β) : Prop :=
  Coupled (AlikeUpToSizes overwrite₁ overwrite₂ earlier pending₁ pending₂) Q x y

/-- `x` and `y` do the same to machines that differ in recorded sizes. -/
def SameUpToSizes {β : Type} (Q : α → β → Prop) (x : VdiM (ω × Nat) σ α)
    (y : VdiM (ω × Nat) σ β) : Prop :=
  ∀ c₁ c₂ outside es₁ es₂, c₁.unsized = c₂.unsized →
    es₁.map Event.unsized = es₂.map Event.unsized →
    Q (x.run ⟨c₁, outside, es₁⟩).1 (y.run ⟨c₂, outside, es₂⟩).1 ∧
      (x.run ⟨c₁, outside, es₁⟩).2.unsized = (y.run ⟨c₂, outside, es₂⟩).2.unsized

theorem SameUpToSizes.run {β : Type} {Q : α → β → Prop} {x : VdiM (ω × Nat) σ α}
    {y : VdiM (ω × Nat) σ β} (h : SameUpToSizes Q x y) {m₁ m₂ : Machine (ω × Nat) σ}
    (hunsized : m₁.unsized = m₂.unsized) :
    Q (x.run m₁).1 (y.run m₂).1 ∧ (x.run m₁).2.unsized = (y.run m₂).2.unsized := by
  obtain ⟨c₁, outside, es₁⟩ := m₁
  obtain ⟨c₂, _, es₂⟩ := m₂
  obtain ⟨hc, rfl, hes⟩ := Machine.mk.inj hunsized
  exact h c₁ c₂ outside es₁ es₂ hc hes

/-- A line that leaves the record alone against both servers. -/
theorem LeavesRecord.alike {β : Type} {Q : α → β → Prop} {x : VdiM (ω × Nat) σ α}
    {y : VdiM (ω × Nat) σ β} (hx : LeavesRecord x) (hy : LeavesRecord y)
    (h : SameUpToSizes Q x y) :
    Alike overwrite₁ overwrite₂ earlier pending₁ pending₂ Q x y := by
  intro m₁ m₂ halike
  obtain ⟨hQ, hunsized⟩ := h.run halike.unsized
  exact ⟨hQ, hunsized, hx.sizesLeft halike.left₁, hy.sizesLeft halike.left₂⟩

theorem comCall_leavesRecord {answer : ω → α × ω} {event : α → Event}
    (hoff : ∀ a, (event a).OffRecord) :
    LeavesRecord (comCall (keepCount answer) event : VdiM (ω × Nat) σ α) :=
  fun _ => ⟨rfl, rfl, (record_snoc ..).trans (hoff _ _)⟩

theorem comCall_alike {answer : ω → α × ω} {event : α → Event}
    (hoff : ∀ a, (event a).OffRecord) :
    Alike (σ := σ) overwrite₁ overwrite₂ earlier pending₁ pending₂ Eq
      (comCall (keepCount answer) event) (comCall (keepCount answer) event) := by
  apply (comCall_leavesRecord hoff).alike (comCall_leavesRecord hoff)
  intro c₁ c₂ outside es₁ es₂ hc hes
  refine ⟨rfl, ?_⟩
  unfold comCall Machine.unsized
  simp only [StateT.run, hc, List.map_append, hes]

/-- A call without an answer. -/
theorem comCall_unit_alike {f : ω → ω} {e : Event} (hoff : e.OffRecord) :
    Alike (σ := σ) overwrite₁ overwrite₂ earlier pending₁ pending₂ Eq
      (comCall (fun p => ((), (f p.1, p.2))) fun _ => e)
      (comCall (fun p => ((), (f p.1, p.2))) fun _ => e) := by
  have hcall : Alike (σ := σ) overwrite₁ overwrite₂ earlier pending₁ pending₂ Eq
      (comCall (keepCount fun w => ((), f w)) fun _ => e)
      (comCall (keepCount fun w => ((), f w)) fun _ => e) :=
    comCall_alike fun _ => hoff
  exact hcall

theorem sinkCall_alike {answer : σ → α × σ} {event : α → Event}
    (hoff : ∀ a, (event a).OffRecord) :
    Alike (ω := ω) overwrite₁ overwrite₂ earlier pending₁ pending₂ Eq (sinkCall answer event)
      (sinkCall answer event) := by
  have hleaves : LeavesRecord (sinkCall answer event : VdiM (ω × Nat) σ α) :=
    fun _ => ⟨rfl, rfl, (record_snoc ..).trans (hoff _ _)⟩
  apply hleaves.alike hleaves
  intro c₁ c₂ outside es₁ es₂ hc hes
  refine ⟨rfl, ?_⟩
  unfold sinkCall Machine.unsized
  simp only [StateT.run, hc, List.map_append, hes]

/-- Only the clock of the environment counts. -/
theorem nowUs_alike {env₁ env₂ : Env (ω × Nat) σ} (hclock : env₁.clock = env₂.clock) :
    Alike overwrite₁ overwrite₂ earlier pending₁ pending₂ Eq (nowUs env₁) (nowUs env₂) := by
  have hleaves (env : Env (ω × Nat) σ) : LeavesRecord (nowUs env) :=
    fun _ => ⟨rfl, rfl, record_snoc ..⟩
  apply (hleaves env₁).alike (hleaves env₂)
  intro c₁ c₂ outside es₁ es₂ hc hes
  unfold nowUs Machine.unsized
  simp only [StateT.run, hclock, hc, List.map_append, hes, and_self]

theorem self_alike :
    Alike (ω := ω) (σ := σ) overwrite₁ overwrite₂ earlier pending₁ pending₂
      (fun c d => c.unsized = d.unsized) self self := by
  have hleaves : LeavesRecord (self : VdiM (ω × Nat) σ Client) := fun _ => ⟨rfl, rfl, rfl⟩
  apply hleaves.alike hleaves
  intro c₁ c₂ outside es₁ es₂ hc hes
  refine ⟨hc, ?_⟩
  unfold self Machine.unsized
  simp only [StateT.run, hc, hes]

theorem update_alike {f : Client → Client}
    (htimings : ∀ c, (f c).metrics.timings = c.metrics.timings)
    (hf : ∀ c, (f c).unsized = f c.unsized) :
    Alike (ω := ω) (σ := σ) overwrite₁ overwrite₂ earlier pending₁ pending₂ Eq (update f)
      (update f) := by
  have hleaves : LeavesRecord (update f : VdiM (ω × Nat) σ Unit) :=
    fun _ => ⟨htimings _, rfl, rfl⟩
  apply hleaves.alike hleaves
  intro c₁ c₂ outside es₁ es₂ hc hes
  refine ⟨rfl, ?_⟩
  unfold update Machine.unsized
  simp only [StateT.run, hf, hc, hes]

theorem emit_sameUpToSizes {e₁ e₂ : Event} (he : e₁.unsized = e₂.unsized) :
    SameUpToSizes (ω := ω) (σ := σ) Eq (emit e₁) (emit e₂) := by
  intro c₁ c₂ outside es₁ es₂ hc hes
  refine ⟨rfl, ?_⟩
  unfold emit Machine.unsized
  simp only [StateT.run, hc, List.map_append, hes, List.map_cons, he]

theorem emit_alike {e₁ e₂ : Event} (he : e₁.unsized = e₂.unsized) (hoff₁ : e₁.OffRecord)
    (hoff₂ : e₂.OffRecord) :
    Alike (ω := ω) (σ := σ) overwrite₁ overwrite₂ earlier pending₁ pending₂ Eq (emit e₁)
      (emit e₂) := by
  have hleaves {e : Event} (hoff : e.OffRecord) : LeavesRecord (emit e : VdiM (ω × Nat) σ Unit) :=
    fun _ => ⟨rfl, rfl, (record_snoc ..).trans (hoff _)⟩
  exact (hleaves hoff₁).alike (hleaves hoff₂) (emit_sameUpToSizes he)

theorem log_alike {line : LogLine} (hoff : (Event.log line).OffRecord) :
    Alike (ω := ω) (σ := σ) overwrite₁ overwrite₂ earlier pending₁ pending₂ Eq (log line)
      (log line) :=
  emit_alike rfl hoff hoff

theorem setState_alike {state : SessionState} :
    Alike (ω := ω) (σ := σ) overwrite₁ overwrite₂ earlier pending₁ pending₂ Eq (setState state)
      (setState state) := by
  have hleaves : LeavesRecord (setState state : VdiM (ω × Nat) σ Unit) :=
    fun _ => ⟨rfl, rfl, record_snoc ..⟩
  apply hleaves.alike hleaves
  intro c₁ c₂ outside es₁ es₂ hc hes
  have hstate : c₁.state = c₂.state := (congrArg Client.state hc :)
  have hset : ({ c₁ with state := state } : Client).unsized = { c₂ with state := state }.unsized :=
    (congrArg (fun c : Client => { c with state := state }) hc :)
  refine ⟨rfl, ?_⟩
  unfold setState Machine.unsized
  simp only [StateT.run, hset, hstate, List.map_append, hes]

/-! ### Completion -/

section Completion

variable {com : Com ω} {sink : Sink σ} {clock : Nat → UInt64} {device : Device}

/-- The environment with the server overwriting. -/
abbrev overwritingEnv (com : Com ω) (sink : Sink σ) (clock : Nat → UInt64)
    (overwrite : Nat → VdcCommand → VdcCommand) : Env (ω × Nat) σ :=
  { com := com.overwriting overwrite, sink, clock }

/-- A successful completion is to be recorded with the size the server left. -/
theorem completeCommand_sizesLeft {overwrite : Nat → VdcCommand → VdcCommand} {cmd : VdcCommand}
    {code size : UInt32} {position : UInt64} {m : Machine (ω × Nat) σ}
    (h : SizesLeft overwrite earlier [] m) :
    let answered := (completeCommand (overwritingEnv com sink clock overwrite) device cmd code size
      position).run m
    SizesLeft overwrite earlier (if failed answered.1.1 then [] else [answered.1.2.size.toUInt64])
      answered.2 := by
  intro answered
  have htrace : record answered.2.trace =
      (record m.trace).step (.completeCommand device cmd code size position answered.1.1) :=
    record_snoc ..
  have hleft : answered.1.2 = overwrite m.outside.world.2 cmd := rfl
  have hcount : answered.2.outside.world.2 = m.outside.world.2 + 1 := rfl
  obtain ⟨later, htimings, hsizes⟩ := h.timings
  rw [List.append_nil] at hsizes
  refine ⟨?_, later, htimings, ?_⟩
  · rw [htrace, hcount, h.count]
    rfl
  · rw [htrace, hleft, h.count, hsizes]
    by_cases hfailed : failed answered.1.1
    · simp [Record.step, hfailed]
    · simp [Record.step, hfailed]

theorem completeCommand_related {cmd : VdcCommand} {code size : UInt32} {position : UInt64} :
    Related (AlikeUpToSizes overwrite₁ overwrite₂ earlier [] [])
      (fun a b m₁ m₂ => a.1 = b.1 ∧
        AlikeUpToSizes overwrite₁ overwrite₂ earlier
          (if failed a.1 then [] else [a.2.size.toUInt64])
          (if failed b.1 then [] else [b.2.size.toUInt64]) m₁ m₂)
      (completeCommand (overwritingEnv com sink clock overwrite₁) device cmd code size position)
      (completeCommand (overwritingEnv com sink clock overwrite₂) device cmd code size
        position) := by
  have hsame : SameUpToSizes (σ := σ) (fun a b => a.1 = b.1)
      (completeCommand (overwritingEnv com sink clock overwrite₁) device cmd code size position)
      (completeCommand (overwritingEnv com sink clock overwrite₂) device cmd code size
        position) := by
    intro c₁ c₂ outside es₁ es₂ hc hes
    refine ⟨rfl, ?_⟩
    unfold completeCommand comCall Machine.unsized
    simp only [StateT.run, hc, List.map_append, hes]
    rfl
  intro m₁ m₂ h
  obtain ⟨hhr, hunsized⟩ := hsame.run h.unsized
  exact ⟨hhr, hunsized, completeCommand_sizesLeft h.left₁, completeCommand_sizesLeft h.left₂⟩

/-- The fault injector takes the completion off the record. -/
theorem SizesLeft.struckOff {overwrite : Nat → VdcCommand → VdcCommand} {chunks a : UInt64}
    {m : Machine (ω × Nat) σ} (h : SizesLeft overwrite earlier [a] m) :
    SizesLeft overwrite earlier []
      ((log (.faultInjectorTriggered chunks) : VdiM (ω × Nat) σ Unit).run m).2 := by
  have htrace :
      record ((log (.faultInjectorTriggered chunks) : VdiM (ω × Nat) σ Unit).run m).2.trace =
      ⟨(record m.trace).completions, (record m.trace).recorded.dropLast⟩ :=
    record_snoc ..
  obtain ⟨later, htimings, hsizes⟩ := h.timings
  refine ⟨?_, later, htimings, ?_⟩
  · rw [htrace]
    exact h.count
  · rw [htrace, List.map_dropLast, ← hsizes, List.dropLast_concat, List.append_nil]

theorem faultInjectorTriggered_related {chunks a b : UInt64} :
    Related (AlikeUpToSizes (ω := ω) (σ := σ) overwrite₁ overwrite₂ earlier [a] [b])
      (fun _ _ => AlikeUpToSizes overwrite₁ overwrite₂ earlier [] [])
      (log (.faultInjectorTriggered chunks)) (log (.faultInjectorTriggered chunks)) := by
  intro m₁ m₂ h
  obtain ⟨-, hunsized⟩ := (emit_sameUpToSizes rfl).run h.unsized
  exact ⟨hunsized, h.left₁.struckOff, h.left₂.struckOff⟩

/-- `record_chunk_timing` with the structure read after completion. -/
abbrev recordTiming (times : StageTimes) (ccUs : UInt64) (cmd : VdcCommand) (c : Client) : Client :=
  { c with metrics := c.metrics.recordChunkTiming (chunkTiming times ccUs cmd) }

theorem recordTiming_unsized (times : StageTimes) (ccUs : UInt64) (cmd : VdcCommand)
    (c : Client) :
    (recordTiming times ccUs cmd c).unsized =
      { c.unsized with
        metrics := c.metrics.unsized.recordChunkTiming (chunkTiming times ccUs cmd).unsized } := by
  simp [Client.unsized, Metrics.unsized, Metrics.recordChunkTiming]

/-- The completion is recorded with its pending size. -/
theorem SizesLeft.recorded {overwrite : Nat → VdcCommand → VdcCommand} {times : StageTimes}
    {ccUs : UInt64} {cmd : VdcCommand} {m : Machine (ω × Nat) σ}
    (h : SizesLeft overwrite earlier [cmd.size.toUInt64] m) :
    SizesLeft overwrite earlier []
      ((update (recordTiming times ccUs cmd) : VdiM (ω × Nat) σ Unit).run m).2 := by
  obtain ⟨later, htimings, hsizes⟩ := h.timings
  refine ⟨h.count, later ++ [chunkTiming times ccUs cmd], ?_, ?_⟩
  · rw [← List.append_assoc, ← htimings]
    rfl
  · rw [List.map_append, List.append_nil]
    exact hsizes

theorem recordTiming_related {times : StageTimes} {ccUs : UInt64} {cmd₁ cmd₂ : VdcCommand} :
    Related
      (AlikeUpToSizes (ω := ω) (σ := σ) overwrite₁ overwrite₂ earlier [cmd₁.size.toUInt64]
        [cmd₂.size.toUInt64])
      (fun _ _ => AlikeUpToSizes overwrite₁ overwrite₂ earlier [] [])
      (update (recordTiming times ccUs cmd₁)) (update (recordTiming times ccUs cmd₂)) := by
  have hsame : SameUpToSizes (ω := ω) (σ := σ) Eq (update (recordTiming times ccUs cmd₁))
      (update (recordTiming times ccUs cmd₂)) := by
    intro c₁ c₂ outside es₁ es₂ hc hes
    have hmetrics : c₁.metrics.unsized = c₂.metrics.unsized := (congrArg Client.metrics hc :)
    refine ⟨rfl, ?_⟩
    unfold update Machine.unsized
    simp only [StateT.run, recordTiming_unsized, hc, hmetrics, hes]
    rfl
  intro m₁ m₂ h
  obtain ⟨-, hunsized⟩ := hsame.run h.unsized
  exact ⟨hunsized, h.left₁.recorded, h.left₂.recorded⟩

/-- Logging an error and setting `FAILED` before leaving. -/
theorem failure_alike {a : α} {line : LogLine} (hoff : (Event.log line).OffRecord) :
    Alike (ω := ω) (σ := σ) overwrite₁ overwrite₂ earlier pending₁ pending₂ Eq
      (do log line; setState .failed; return a) (do log line; setState .failed; return a) :=
  (log_alike hoff).andThen (setState_alike.andThen (.pure rfl))

theorem completeStage_alike {cmd : VdcCommand} {times : StageTimes} :
    Alike overwrite₁ overwrite₂ earlier [] [] Eq
      (completeStage (overwritingEnv com sink clock overwrite₁) device cmd times)
      (completeStage (overwritingEnv com sink clock overwrite₂) device cmd times) := by
  apply (nowUs_alike rfl).bindEq
  intro t₀
  refine Coupled.related_iff.mpr (completeCommand_related.bind ?_)
  intro answer₁ answer₂
  obtain ⟨hr, cmd₁⟩ := answer₁
  obtain ⟨hr', cmd₂⟩ := answer₂
  refine .assume fun hhr => ?_
  obtain rfl : hr = hr' := hhr
  refine (nowUs_alike rfl).bindRelated ?_
  intro t₁ t₁' ht₁
  subst ht₁
  by_cases hfailed : failed hr
  · simp only [hfailed, if_true]
    exact failure_alike fun _ => rfl
  · simp only [hfailed, Bool.false_eq_true, if_false]
    refine self_alike.bindRelated ?_
    intro c d hcd
    have hinjector : c.faultInjector = d.faultInjector := (congrArg Client.faultInjector hcd :)
    rw [hinjector]
    refine Coupled.bindRelated (update_alike (fun _ => rfl) fun _ => rfl) ?_
    intro _ _ _
    by_cases hfired : d.faultInjector.onChunkCompleted.1 = true
    · simp only [hfired, if_true]
      refine faultInjectorTriggered_related.bind ?_
      intro _ _
      exact setState_alike.andThen (.pure rfl)
    · simp only [hfired]
      refine recordTiming_related.bind ?_
      intro _ _
      exact Coupled.pure rfl

end Completion

/-! ### The call -/

section Functions

variable {com : Com ω} {sink : Sink σ} {clock : Nat → UInt64}

theorem recordWrite_timings (cmd : VdcCommand) (c : Client) :
    (recordWrite cmd c).metrics.timings = c.metrics.timings := by
  unfold recordWrite simulateBufferPool
  split <;> rfl

theorem recordWrite_unsized (cmd : VdcCommand) (c : Client) :
    (recordWrite cmd c).unsized = recordWrite cmd c.unsized := by
  unfold recordWrite simulateBufferPool
  have hpool : c.unsized.bufferPool = c.bufferPool := rfl
  cases hacquire : c.bufferPool.acquire with
  | mk buffer pool =>
      cases buffer with
      | none =>
          simp only [hpool, hacquire]
          rfl
      | some buffer =>
          simp only [hpool, hacquire]
          rfl

/-- Clients that differ in recorded sizes take the same decisions. -/
theorem sameControl_of_unsized {c d : Client} (h : c.unsized = d.unsized) : SameControl c d where
  state := (congrArg Client.state h :)
  deviceSet := (congrArg Client.deviceSet h :)
  deviceName := (congrArg Client.deviceName h :)
  deviceCount := (congrArg Client.deviceCount h :)
  devicesClosed := (congrArg Client.devicesClosed h :)
  commandTimeoutMs := (congrArg Client.commandTimeoutMs h :)
  lastStallWarnUs := (congrArg Client.lastStallWarnUs h :)
  lastBytesTotal := (congrArg Client.lastBytesTotal h :)
  totalBytes := (congrArg (fun c => c.metrics.totalBytes) h :)

/-- Only completion can tell the two servers apart. -/
theorem alike_primitives :
    Primitives (AlikeUpToSizes overwrite₁ overwrite₂ earlier [] [])
      (fun c d => c.unsized = d.unsized) (overwritingEnv com sink clock overwrite₁)
      (overwritingEnv com sink clock overwrite₂) where
  control _ _ h := sameControl_of_unsized h
  self := self_alike
  update f hf := by
    cases hf with
    | booked cmd => exact update_alike (recordWrite_timings cmd) (recordWrite_unsized cmd)
    | _ => exact update_alike (fun _ => rfl) fun _ => rfl
  log line hline := by
    apply log_alike
    intro r
    cases line with
    | faultInjectorTriggered => exact hline.elim
    | _ => rfl
  setState _ := setState_alike
  report c d h := by
    have hmetrics : c.metrics.unsized = d.metrics.unsized := (congrArg Client.metrics h :)
    have hactive : c.maxActiveBuffers = d.maxActiveBuffers :=
      (congrArg Client.maxActiveBuffers h :)
    refine emit_alike ?_ (fun _ => rfl) fun _ => rfl
    simp only [Event.unsized, hmetrics, hactive]
  nowUs := nowUs_alike rfl
  openDevice _ _ := comCall_alike fun _ _ => rfl
  setClose _ := comCall_unit_alike fun _ => rfl
  setRelease _ := comCall_unit_alike fun _ => rfl
  getCommand _ _ := comCall_alike fun _ _ => rfl
  deviceRelease _ := comCall_unit_alike fun _ => rfl
  sinkIsOpen := sinkCall_alike fun _ _ => rfl
  sinkWrite _ := sinkCall_alike fun _ _ => rfl
  sinkFlush := sinkCall_alike fun _ _ => rfl

theorem processCommands_alike {fuel : Nat} :
    Alike overwrite₁ overwrite₂ earlier [] [] Eq
      (processCommands (overwritingEnv com sink clock overwrite₁) fuel)
      (processCommands (overwritingEnv com sink clock overwrite₂) fuel) :=
  alike_primitives.processCommands_coupled fun _ _ _ => completeStage_alike

end Functions

end Coupling

/-! ## Two runs -/

/-- `process_commands` against the server that overwrites: whether it returned, and the machine it
left. -/
def overwritingRun (com : Com ω) (sink : Sink σ) (clock : Nat → UInt64)
    (overwrite : Nat → VdcCommand → VdcCommand) (fuel : Nat) (client : Client) (world : ω)
    (sinkState : σ) : Bool × Machine (ω × Nat) σ :=
  runCommands (overwritingEnv com sink clock overwrite) fuel client
    { world := (world, 0), sink := sinkState }

/-- The sizes recorded in a run of `client`. -/
def Machine.sizesSince (client : Client) (m : Machine ω σ) : List UInt64 :=
  (m.client.metrics.timings.drop client.metrics.timings.length).map ChunkTiming.size

/-- The sizes of the recorded commands, as they were delivered. -/
def deliveredSizes (es : List Event) : List UInt64 :=
  (record es).recorded.map fun p => p.2.size.toUInt64

/-- Nothing shows that a completed structure was overwritten: the two runs make the same calls and
end in the same state with the same metrics, and the recorded sizes are those delivered. -/
structure Unread (client : Client) (run₁ run₂ : Bool × Machine ω σ) : Prop where
  returned : run₁.1 = run₂.1
  calls : callsOf run₁.2.trace = callsOf run₂.2.trace
  state : run₁.2.client.state = run₂.2.client.state
  metrics : run₁.2.client.metrics = run₂.2.client.metrics
  sizes : run₁.2.sizesSince client = deliveredSizes run₁.2.trace

theorem callsOf_unsized (es : List Event) : callsOf (es.map Event.unsized) = callsOf es := by
  induction es with
  | nil => rfl
  | cons e es ih =>
      have hhead : callsOf [e.unsized] = callsOf [e] := by cases e <;> rfl
      calc callsOf (e.unsized :: es.map Event.unsized)
          = callsOf [e.unsized] ++ callsOf (es.map Event.unsized) := callsOf_append [_] _
        _ = callsOf [e] ++ callsOf es := by rw [hhead, ih]
        _ = callsOf (e :: es) := (callsOf_append [_] _).symm

theorem record_unsized (es : List Event) : record (es.map Event.unsized) = record es := by
  have hstep : (fun r (e : Event) => Record.step r e.unsized) = Record.step := by
    funext r e
    cases e <;> rfl
  unfold record
  rw [List.foldl_map, hstep]

/-- A timing is its size and the rest. -/
theorem timings_eq_of_unsized {timings timings' : List ChunkTiming}
    (hunsized : timings.map ChunkTiming.unsized = timings'.map ChunkTiming.unsized)
    (hsizes : timings.map ChunkTiming.size = timings'.map ChunkTiming.size) :
    timings = timings' := by
  have hinjective : Function.Injective fun t : ChunkTiming => (t.unsized, t.size) := by
    intro t t' h
    obtain ⟨hunsized, hsize⟩ := Prod.mk.inj h
    calc t = { t.unsized with size := t.size } := rfl
      _ = { t'.unsized with size := t'.size } := by rw [hunsized, hsize]
  apply hinjective.list_map
  rw [← List.zip_map', ← List.zip_map', hunsized, hsizes]

section Runs

variable {overwrite₁ overwrite₂ : Nat → VdcCommand → VdcCommand} {client : Client}
  {m₁ m₂ : Machine (ω × Nat) σ}

theorem SizesLeft.sizesSince {overwrite : Nat → VdcCommand → VdcCommand}
    {m : Machine (ω × Nat) σ} (h : SizesLeft overwrite client.metrics.timings [] m) :
    m.sizesSince client =
      (record m.trace).recorded.map fun p => (overwrite p.1 p.2).size.toUInt64 := by
  obtain ⟨later, htimings, hsizes⟩ := h.timings
  rw [List.append_nil] at hsizes
  unfold Machine.sizesSince
  rw [htimings, List.drop_left, hsizes]

/-- Recorded sizes are the delivered ones if overwriting spares them. -/
theorem SizesLeft.sizesSince_eq_iff {overwrite : Nat → VdcCommand → VdcCommand}
    {m : Machine (ω × Nat) σ} (h : SizesLeft overwrite client.metrics.timings [] m) :
    m.sizesSince client = deliveredSizes m.trace ↔
      ∀ p ∈ (record m.trace).recorded, (overwrite p.1 p.2).size = p.2.size := by
  rw [h.sizesSince]
  unfold deliveredSizes
  rw [List.map_inj_left]
  refine forall₂_congr fun p _ => ⟨fun hsize => ?_, fun hsize => by rw [hsize]⟩
  have hsize := congrArg UInt64.toNat hsize
  rw [UInt32.toNat_toUInt64, UInt32.toNat_toUInt64] at hsize
  exact UInt32.toNat_inj.mp hsize

theorem AlikeUpToSizes.record (h : AlikeUpToSizes overwrite₁ overwrite₂ client.metrics.timings
    [] [] m₁ m₂) : record m₁.trace = record m₂.trace := by
  have htrace : m₁.trace.map Event.unsized = m₂.trace.map Event.unsized :=
    congrArg Machine.trace h.unsized
  rw [← record_unsized, htrace, record_unsized]

/-- Runs that are alike end with the same metrics if they recorded the same sizes. -/
theorem AlikeUpToSizes.metrics_eq (h : AlikeUpToSizes overwrite₁ overwrite₂
    client.metrics.timings [] [] m₁ m₂) (hsizes : m₁.sizesSince client = m₂.sizesSince client) :
    m₁.client.metrics = m₂.client.metrics := by
  have hunsized : m₁.client.metrics.unsized = m₂.client.metrics.unsized :=
    (congrArg (fun m => m.client.metrics) h.unsized :)
  obtain ⟨later₁, htimings₁, -⟩ := h.left₁.timings
  obtain ⟨later₂, htimings₂, -⟩ := h.left₂.timings
  unfold Machine.sizesSince at hsizes
  rw [htimings₁, htimings₂, List.drop_left, List.drop_left] at hsizes
  have htimings : m₁.client.metrics.timings.map ChunkTiming.unsized =
      m₂.client.metrics.timings.map ChunkTiming.unsized := congrArg Metrics.timings hunsized
  have heq : m₁.client.metrics.timings = m₂.client.metrics.timings := by
    apply timings_eq_of_unsized htimings
    rw [htimings₁, htimings₂, List.map_append, List.map_append, hsizes]
  have hset := congrArg
    (fun metrics : Metrics => { metrics with timings := m₁.client.metrics.timings }) hunsized
  calc m₁.client.metrics
      = { m₁.client.metrics.unsized with timings := m₁.client.metrics.timings } := rfl
    _ = { m₂.client.metrics.unsized with timings := m₁.client.metrics.timings } := hset
    _ = m₂.client.metrics := by
        rw [heq]
        rfl

end Runs

/-- **A completed command is no longer read.**  Against two servers that overwrite completed
structures differently the runs differ in nothing and record the delivered sizes, exactly if no
overwriting touches the size of a recorded command. -/
theorem processCommands_unread_iff (com : Com ω) (sink : Sink σ) (clock : Nat → UInt64)
    (overwrite₁ overwrite₂ : Nat → VdcCommand → VdcCommand) (fuel : Nat) (client : Client)
    (world : ω) (sinkState : σ) :
    let run₁ := overwritingRun com sink clock overwrite₁ fuel client world sinkState
    let run₂ := overwritingRun com sink clock overwrite₂ fuel client world sinkState
    Unread client run₁ run₂ ↔
      ∀ p ∈ (record run₁.2.trace).recorded,
        (overwrite₁ p.1 p.2).size = p.2.size ∧ (overwrite₂ p.1 p.2).size = p.2.size := by
  intro run₁ run₂
  have hstart (overwrite : Nat → VdcCommand → VdcCommand) :
      SizesLeft overwrite client.metrics.timings []
        ({ client, outside := { world := (world, 0), sink := sinkState } } :
          Machine (ω × Nat) σ) :=
    ⟨rfl, [], (List.append_nil _).symm, rfl⟩
  obtain ⟨hreturned, halike⟩ : run₁.1 = run₂.1 ∧
      AlikeUpToSizes overwrite₁ overwrite₂ client.metrics.timings [] [] run₁.2 run₂.2 :=
    processCommands_alike _ _ ⟨rfl, hstart overwrite₁, hstart overwrite₂⟩
  have hrecord := halike.record
  have hdelivered : deliveredSizes run₁.2.trace = deliveredSizes run₂.2.trace := by
    unfold deliveredSizes
    rw [hrecord]
  constructor
  · intro h
    have hsizes₂ : run₂.2.sizesSince client = deliveredSizes run₂.2.trace := by
      rw [← hdelivered, ← h.sizes]
      unfold Machine.sizesSince
      rw [h.metrics]
    intro p hp
    refine ⟨halike.left₁.sizesSince_eq_iff.mp h.sizes p hp, ?_⟩
    rw [hrecord] at hp
    exact halike.left₂.sizesSince_eq_iff.mp hsizes₂ p hp
  · intro h
    have hsizes₁ := halike.left₁.sizesSince_eq_iff.mpr fun p hp => (h p hp).1
    have hsizes₂ : run₂.2.sizesSince client = deliveredSizes run₂.2.trace := by
      apply halike.left₂.sizesSince_eq_iff.mpr
      intro p hp
      rw [← hrecord] at hp
      exact (h p hp).2
    have htrace : run₁.2.trace.map Event.unsized = run₂.2.trace.map Event.unsized :=
      congrArg Machine.trace halike.unsized
    have hcalls : callsOf run₁.2.trace = callsOf run₂.2.trace := by
      rw [← callsOf_unsized, htrace, callsOf_unsized]
    have hstate : run₁.2.client.state = run₂.2.client.state :=
      (congrArg (fun m => m.client.state) halike.unsized :)
    have hmetrics : run₁.2.client.metrics = run₂.2.client.metrics := by
      apply halike.metrics_eq
      rw [hsizes₁, hsizes₂, hdelivered]
    exact ⟨hreturned, hcalls, hstate, hmetrics, hsizes₁⟩

/-- One delivered byte, against a server that overwrites. -/
def oneByteRun (overwrite : Nat → VdcCommand → VdcCommand) : Bool × Machine (Server × Nat) Unit :=
  overwritingRun scriptedCom nullSink UInt64.ofNat overwrite 2 streamingClient
    (Server.start [[deliver (oneByte 7)]]) ()

/-- The structure handed back is left alone, or cleared. -/
theorem oneByteRun_not_unread :
    let kept := oneByteRun fun _ cmd => cmd
    let cleared := oneByteRun fun _ cmd => { cmd with size := 0, buffer := none }
    kept.1 = true ∧ kept.2.sizesSince streamingClient = [1] ∧
      cleared.2.sizesSince streamingClient = [0] ∧ ¬ Unread streamingClient kept cleared := by
  intro kept cleared
  have hreturned : kept.1 = true := by decide +kernel
  have hkept : kept.2.sizesSince streamingClient = [1] := by decide +kernel
  have hcleared : cleared.2.sizesSince streamingClient = [0] := by decide +kernel
  refine ⟨hreturned, hkept, hcleared, fun h => ?_⟩
  have hsizes : kept.2.sizesSince streamingClient = cleared.2.sizesSince streamingClient :=
    congrArg
      (fun metrics => (metrics.timings.drop streamingClient.metrics.timings.length).map
        ChunkTiming.size) h.metrics
  rw [hkept, hcleared] at hsizes
  revert hsizes
  decide

end Vdi
