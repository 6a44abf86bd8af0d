import VdiWrapper.HandBack
import VdiWrapper.Ticks

/-!
# One timing record for each completion

A `ChunkClock` is what the loop reads off the clock while it serves one command.  `Recorded es ks`
says of a trace that its turns with a successful completion are, in order, those of the clocks
`ks`, with nothing completed in between.  As long as the fault injector is idle every turn of the
loop keeps the records that belong to its trace (`Iteration.recorded`), and so does the whole call
(`CommandRun.recorded`).

The size in a record is read after completion.  If the server leaves the structures alone it is the
size of the command (`processCommands_sizesKept`).
-/

namespace Vdi

open Runs

variable {ω σ : Type} {env : Env ω σ}

/-- The command a successful `CompleteCommand` was called for. -/
def Event.completedCommand : Event → Option VdcCommand
  | .completeCommand _ cmd _ _ _ hr => if failed hr then none else some cmd
  | .coInitializeEx _ | .coUninit | .coCreateInstance .. | .createEx .. | .getConfiguration ..
  | .openDevice .. | .setClose _ | .setRelease _ | .getCommand .. | .deviceRelease _
  | .sinkIsOpen _ | .sinkWrite .. | .sinkFlush | .nowUs _ | .transition .. | .log _
  | .report .. => none

def completedCommands (es : List Event) : List VdcCommand := es.filterMap Event.completedCommand

@[simp] theorem completedCommands_append (es es' : List Event) :
    completedCommands (es ++ es') = completedCommands es ++ completedCommands es' :=
  List.filterMap_append

/-- Nothing is completed successfully. -/
def NoneCompleted (es : List Event) : Prop := ∀ e ∈ es, e.completedCommand = none

theorem NoneCompleted.completedCommands {es : List Event} (h : NoneCompleted es) :
    completedCommands es = [] :=
  List.filterMap_eq_nil_iff.mpr h

theorem NoneCompleted.append {es es' : List Event} (h : NoneCompleted es)
    (h' : NoneCompleted es') : NoneCompleted (es ++ es') :=
  List.forall_mem_append.mpr ⟨h, h'⟩

/-- The readings of the clock while one command is served. -/
structure ChunkClock where
  cmd : VdcCommand
  gcStart : UInt64
  gcEnd : UInt64
  dispatchStart : UInt64
  dispatchEnd : UInt64
  /-- Around `sink->write`, for a `VDC_Write`. -/
  sink : Option (UInt64 × UInt64)
  ccStart : UInt64
  ccEnd : UInt64

namespace ChunkClock

variable (clock : ChunkClock)

/-- The events between the two `now_us` around the sink write. -/
def sinkEvents : List Event :=
  clock.sink.toList.flatMap fun times =>
    [.sinkIsOpen true, .nowUs times.1, .sinkWrite clock.cmd true, .nowUs times.2]

/-- The turn of the loop that serves the command. -/
def events (device : Device) (timeout : UInt32) (hr hr' : HResult) : List Event :=
  delivered device timeout hr clock.cmd clock.gcStart clock.gcEnd clock.dispatchStart
      clock.dispatchEnd ++ clock.sinkEvents ++
    [.nowUs clock.ccStart,
      .completeCommand device clock.cmd errorSuccess clock.cmd.size clock.cmd.position hr',
      .nowUs clock.ccEnd]

/-- The readings, in order. -/
def readings : List Nat :=
  [clock.gcStart.toNat, clock.gcEnd.toNat, clock.dispatchStart.toNat, clock.dispatchEnd.toNat] ++
    (clock.sink.toList.flatMap fun times => [times.1.toNat, times.2.toNat]) ++
    [clock.ccStart.toNat, clock.ccEnd.toNat]

/-- `sink_us`. -/
def sinkUs : UInt64 := (clock.sink.map fun times => times.2 - times.1).getD 0

/-- The record the loop makes of these readings. -/
def timing (start : UInt64) : ChunkTiming :=
  chunkTiming
    { sessionStartUs := start
      gcStart := clock.gcStart
      gcUs := clock.gcEnd - clock.gcStart
      dispatchUs := clock.dispatchEnd - clock.dispatchStart
      sinkUs := clock.sinkUs }
    (clock.ccEnd - clock.ccStart) clock.cmd

/-- The sink is timed for a `VDC_Write` and for nothing else. -/
def Timed : Prop := clock.cmd.commandCode = vdcWrite ↔ clock.sink.isSome = true

end ChunkClock

/-- The successful completions of a trace are those of the clocks, each inside its own turn. -/
inductive Recorded : List Event → List ChunkClock → Prop
  | none (es : List Event) (quiet : NoneCompleted es) : Recorded es []
  | chunk {rest : List Event} {clocks : List ChunkClock} (before : List Event)
      (clock : ChunkClock) (device : Device) (timeout : UInt32) (hr hr' : HResult)
      (quiet : NoneCompleted before) (timed : clock.Timed) (delivered : failed hr = false)
      (completed : failed hr' = false) (tail : Recorded rest clocks) :
      Recorded (before ++ clock.events device timeout hr hr' ++ rest) (clock :: clocks)

namespace Recorded

variable {es es' : List Event} {clocks clocks' : List ChunkClock}

/-- Nothing completed before. -/
theorem prepend (h : Recorded es clocks) (hquiet : NoneCompleted es') :
    Recorded (es' ++ es) clocks := by
  cases h with
  | none _ quiet => exact .none _ (hquiet.append quiet)
  | chunk before clock device timeout hr hr' quiet timed delivered completed tail =>
      rw [← List.append_assoc, ← List.append_assoc]
      exact .chunk _ clock device timeout hr hr' (hquiet.append quiet) timed delivered completed
        tail

theorem append (h : Recorded es clocks) (h' : Recorded es' clocks') :
    Recorded (es ++ es') (clocks ++ clocks') := by
  induction h with
  | none _ quiet => exact h'.prepend quiet
  | chunk before clock device timeout hr hr' quiet timed delivered completed _ ih =>
      rw [List.append_assoc]
      exact .chunk before clock device timeout hr hr' quiet timed delivered completed ih

/-- A turn that serves a command. -/
theorem single (clock : ChunkClock) (device : Device) (timeout : UInt32) {hr hr' : HResult}
    (timed : clock.Timed) (delivered : failed hr = false) (completed : failed hr' = false) :
    Recorded (clock.events device timeout hr hr') [clock] := by
  have h := Recorded.chunk [] clock device timeout hr hr' (fun _ he => by cases he) timed
    delivered completed (.none [] fun _ he => by cases he)
  rwa [List.append_nil, List.nil_append] at h

theorem completedCommands_events (clock : ChunkClock) (device : Device) (timeout : UInt32)
    {hr hr' : HResult} (h : failed hr' = false) :
    completedCommands (clock.events device timeout hr hr') = [clock.cmd] := by
  unfold ChunkClock.events ChunkClock.sinkEvents
  cases clock.sink <;>
    simp [completedCommands, List.filterMap_cons, Event.completedCommand, delivered, fetched, h]

theorem readings_events (clock : ChunkClock) (device : Device) (timeout : UInt32)
    (hr hr' : HResult) :
    readings (clock.events device timeout hr hr') = clock.readings := by
  unfold ChunkClock.events ChunkClock.sinkEvents ChunkClock.readings
  cases clock.sink <;> rfl

/-- One clock for each successful completion, in order. -/
theorem commands (h : Recorded es clocks) :
    completedCommands es = clocks.map ChunkClock.cmd := by
  induction h with
  | none _ quiet => exact quiet.completedCommands
  | chunk before clock device timeout hr hr' quiet _ _ completed _ ih =>
      rw [completedCommands_append, completedCommands_append, quiet.completedCommands,
        completedCommands_events clock device timeout completed, ih]
      rfl

/-- The clocks were read in this order. -/
theorem readings_sublist (h : Recorded es clocks) :
    (clocks.flatMap ChunkClock.readings).Sublist (readings es) := by
  induction h with
  | none => exact List.nil_sublist _
  | chunk before clock device timeout hr hr' _ _ _ _ _ ih =>
      rw [List.flatMap_cons, readings_append, readings_append, readings_events]
      exact (List.sublist_append_right _ _).append ih

theorem timed (h : Recorded es clocks) : ∀ clock ∈ clocks, clock.Timed := by
  induction h with
  | none => simp
  | chunk before clock device timeout hr hr' _ timed _ _ _ ih =>
      exact List.forall_mem_cons.mpr ⟨timed, ih⟩

end Recorded

/-! ## One turn -/

theorem Stored.noneCompleted {cmd : VdcCommand} {c c' : Client} {es : List Event}
    {sinkUs : UInt64} (h : Stored cmd c es sinkUs c') : NoneCompleted es := by
  cases h <;> simp [NoneCompleted, Event.completedCommand]

theorem Refused.noneCompleted {cmd : VdcCommand} {c c' : Client} {es : List Event}
    (h : Refused cmd c es c') : NoneCompleted es := by
  cases h <;> simp [NoneCompleted, failure, Event.completedCommand]

theorem StallCheck.noneCompleted {now : UInt64} {c c' : Client} {es : List Event}
    (h : StallCheck now c es c') : NoneCompleted es := by
  cases h <;> simp [NoneCompleted, Event.completedCommand]

theorem fetched_noneCompleted {device : Device} {timeout : UInt32} {hr : HResult}
    {cmd : Option VdcCommand} {t₀ t₁ : UInt64} :
    NoneCompleted (fetched device timeout hr cmd t₀ t₁) := by
  simp [NoneCompleted, fetched, Event.completedCommand]

theorem delivered_noneCompleted {device : Device} {timeout : UInt32} {hr : HResult}
    {cmd : VdcCommand} {t₀ t₁ t₂ t₃ : UInt64} :
    NoneCompleted (delivered device timeout hr cmd t₀ t₁ t₂ t₃) := by
  simp [NoneCompleted, delivered, fetched, Event.completedCommand]

/-- The fault injector stays idle, and the records made are those of the trace, sizes apart. -/
structure RecordsKept (start : UInt64) (c : Client) (es : List Event) (c' : Client) : Prop where
  idle : c'.faultInjector.Idle
  records : ∃ clocks later, Recorded es clocks ∧
    c'.metrics.timings = c.metrics.timings ++ later ∧
    later.map ChunkTiming.unsized = clocks.map fun clock => (clock.timing start).unsized

theorem RecordsKept.quiet {start : UInt64} {c c' : Client} {es : List Event}
    (hidle : c.faultInjector.Idle) (hquiet : NoneCompleted es)
    (htimings : c'.metrics.timings = c.metrics.timings)
    (hinjector : c'.faultInjector = c.faultInjector) : RecordsKept start c es c' where
  idle := by rwa [hinjector]
  records := ⟨[], [], .none es hquiet, by rw [htimings, List.append_nil], rfl⟩

theorem RecordsKept.append {start : UInt64} {c c' c'' : Client} {es es' : List Event}
    (h : RecordsKept start c es c') (h' : RecordsKept start c' es' c'') :
    RecordsKept start c (es ++ es') c'' := by
  obtain ⟨clocks, later, hrecorded, htimings, hunsized⟩ := h.records
  obtain ⟨clocks', later', hrecorded', htimings', hunsized'⟩ := h'.records
  refine ⟨h'.idle, clocks ++ clocks', later ++ later', hrecorded.append hrecorded', ?_, ?_⟩
  · rw [htimings', htimings, List.append_assoc]
  · rw [List.map_append, List.map_append, hunsized, hunsized']

theorem recordWrite_faultInjector (cmd : VdcCommand) (c : Client) :
    (recordWrite cmd c).faultInjector = c.faultInjector := by
  unfold recordWrite simulateBufferPool
  split <;> rfl

theorem Stored.kept {cmd : VdcCommand} {c c' : Client} {es : List Event} {sinkUs : UInt64}
    (h : Stored cmd c es sinkUs c') :
    c'.metrics.timings = c.metrics.timings ∧ c'.faultInjector = c.faultInjector := by
  cases h with
  | other => exact ⟨rfl, rfl⟩
  | written => exact ⟨recordWrite_timings cmd c, recordWrite_faultInjector cmd c⟩

theorem Refused.kept {cmd : VdcCommand} {c c' : Client} {es : List Event}
    (h : Refused cmd c es c') :
    c'.metrics.timings = c.metrics.timings ∧ c'.faultInjector = c.faultInjector := by
  cases h <;> exact ⟨recordWrite_timings cmd c, recordWrite_faultInjector cmd c⟩

theorem StallCheck.kept {now : UInt64} {c c' : Client} {es : List Event}
    (h : StallCheck now c es c') :
    c'.metrics.timings = c.metrics.timings ∧ c'.faultInjector = c.faultInjector := by
  cases h <;> exact ⟨rfl, rfl⟩

/-- Storing a chunk leaves the readings around the sink write, if there was one. -/
theorem Stored.sink {cmd : VdcCommand} {c c' : Client} {es : List Event} {sinkUs : UInt64}
    (h : Stored cmd c es sinkUs c') :
    ∃ sink : Option (UInt64 × UInt64), (cmd.commandCode = vdcWrite ↔ sink.isSome = true) ∧
      sinkUs = (sink.map fun times => times.2 - times.1).getD 0 ∧
      es = sink.toList.flatMap fun times =>
        [.sinkIsOpen true, .nowUs times.1, .sinkWrite cmd true, .nowUs times.2] := by
  cases h with
  | other hcode => exact ⟨none, by simp [hcode], rfl, rfl⟩
  | written hcode sane t₀ t₁ => exact ⟨some (t₀, t₁), by simp [hcode], rfl, rfl⟩

/-- Every way through the loop body makes one record for each successful completion. -/
theorem Iteration.recordsKept {start : UInt64} {device : Device} {c c' : Client} {es : List Event}
    {flow : Flow} (h : Iteration start device c es flow c') (hidle : c.faultInjector.Idle) :
    RecordsKept start c es c' := by
  cases h with
  | closed t₀ t₁ hr cmd hhr =>
      refine .quiet hidle (fetched_noneCompleted.append ?_) rfl rfl
      simp [NoneCompleted, Event.completedCommand]
  | timedOut t₀ t₁ cmd check =>
      obtain ⟨htimings, hinjector⟩ := check.kept
      refine .quiet hidle (fetched_noneCompleted.append ?_) htimings hinjector
      exact List.forall_mem_cons.mpr ⟨rfl, check.noneCompleted⟩
  | failed t₀ t₁ hr cmd hhr hclose heof htimeout =>
      refine .quiet hidle (fetched_noneCompleted.append ?_) rfl rfl
      simp [NoneCompleted, failure, Event.completedCommand]
  | null t₀ t₁ hr hhr =>
      refine .quiet hidle (fetched_noneCompleted.append ?_) rfl rfl
      simp [NoneCompleted, Event.completedCommand]
  | closeCommand t₀ t₁ t₂ t₃ hr cmd hhr hcode =>
      exact .quiet hidle delivered_noneCompleted rfl rfl
  | refused t₀ t₁ t₂ t₃ hr cmd hhr refused =>
      obtain ⟨htimings, hinjector⟩ := refused.kept
      exact .quiet hidle (delivered_noneCompleted.append refused.noneCompleted) htimings
        hinjector
  | @served es es' c₁ _ sinkUs _ t₀ t₁ t₂ t₃ hr cmd hhr hcode stored completed =>
      obtain ⟨htimings, hinjector⟩ := stored.kept
      have hidle₁ : c₁.faultInjector.Idle := by
        rw [hinjector]
        exact hidle
      have hstored : NoneCompleted (delivered device c.commandTimeoutMs hr cmd t₀ t₁ t₂ t₃ ++ es) :=
        delivered_noneCompleted.append stored.noneCompleted
      cases completed with
      | failed t₄ t₅ hr' hhr' =>
          refine .quiet hidle (hstored.append ?_) htimings hinjector
          simp [NoneCompleted, failure, Event.completedCommand, hhr']
      | faulted t₄ t₅ hr' hhr' hfired =>
          rw [hidle₁] at hfired
          cases hfired
      | done t₄ t₅ hr' hhr' hfired cmd' =>
          obtain ⟨sink, htimed, rfl, rfl⟩ := stored.sink
          let clock : ChunkClock :=
            { cmd := cmd, gcStart := t₀, gcEnd := t₁, dispatchStart := t₂, dispatchEnd := t₃,
              sink := sink, ccStart := t₄, ccEnd := t₅ }
          refine ⟨?_, [clock], [chunkTiming _ (t₅ - t₄) cmd'],
            Recorded.single clock device c.commandTimeoutMs htimed hhr hhr', ?_, rfl⟩
          · rw [hidle₁]
            exact hidle₁
          · exact congrArg (· ++ _) htimings

theorem LoopRun.recordsKept {start : UInt64} {devices : List Device} {c c' : Client} {k : Nat}
    {es : List Event} {flow : Flow} (h : LoopRun start devices c k es flow c')
    (hidle : c.faultInjector.Idle) : RecordsKept start c es c' := by
  induction h with
  | start => exact .quiet hidle (fun _ he => by cases he) rfl rfl
  | turn before served turn ih => exact ih.append (turn.recordsKept ih.idle)

/-! ## The call -/

theorem Event.AroundLoop.noneCompleted {e : Event} (h : e.AroundLoop) :
    e.completedCommand = none := by
  cases e <;> first | exact h.elim | rfl

theorem opening_noneCompleted {ds : DeviceSet} {name : String}
    {opened : List (HResult × Device)} : NoneCompleted (opening ds name opened) :=
  fun e he => (opening_aroundLoop e he).noneCompleted

theorem finishing_noneCompleted {devices : List Device} {c : Client} :
    NoneCompleted (finishing devices c) :=
  fun e he => (finishing_afterLoop e he).aroundLoop.noneCompleted

/-- The reading before the loop is the session start. -/
theorem sessionStart_opening (ds : DeviceSet) (name : String) (opened : List (HResult × Device))
    (start : UInt64) (es : List Event) :
    sessionStart (opening ds name opened ++ .nowUs start :: es) = start.toNat := by
  unfold sessionStart
  rw [readings_append, readings_untimed (opening_untimed ds name opened)]
  rfl

/-- A call makes one record for each successful completion, all with the same session start. -/
theorem CommandRun.recordsKept {c c' : Client} {es : List Event} {returned : Bool}
    (h : CommandRun c es returned c') (hidle : c.faultInjector.Idle) :
    ∃ start : UInt64, sessionStart es = start.toNat ∧ RecordsKept start c es c' := by
  cases h with
  | wrongState | noDeviceSet =>
      refine ⟨0, rfl, .quiet hidle ?_ rfl rfl⟩
      simp [NoneCompleted, Event.completedCommand]
  | @openFailed ds opened hr device hstate hset hopened hcount hhr =>
      refine ⟨0, ?_, .quiet hidle (opening_noneCompleted.append ?_) rfl rfl⟩
      · unfold sessionStart
        rw [readings_append, readings_untimed (opening_untimed ds c.deviceName opened)]
        rfl
      · simp [NoneCompleted, failure, Event.completedCommand]
  | @serving ds opened start k es c' hstate hset hopened hcount run =>
      refine ⟨start, sessionStart_opening .., ?_⟩
      have hbefore : RecordsKept start c (opening ds c.deviceName opened ++ [.nowUs start])
          (c.streamingSince start) := by
        refine .quiet hidle (opening_noneCompleted.append ?_) rfl rfl
        simp [NoneCompleted, Event.completedCommand]
      have hall := hbefore.append (run.recordsKept hbefore.idle)
      rwa [List.append_assoc] at hall
  | @served ds opened start k es c₁ hstate hset hopened hcount run =>
      have hbefore : RecordsKept start c (opening ds c.deviceName opened ++ [.nowUs start])
          (c.streamingSince start) := by
        refine .quiet hidle (opening_noneCompleted.append ?_) rfl rfl
        simp [NoneCompleted, Event.completedCommand]
      have hloop := run.recordsKept hbefore.idle
      have hafter : RecordsKept start c₁ (finishing (opened.map Prod.snd) c₁) c₁.finished := by
        have hkept : c₁.finished.metrics = c₁.metrics ∧
            c₁.finished.faultInjector = c₁.faultInjector := by
          unfold Client.finished
          split <;> exact ⟨rfl, rfl⟩
        exact .quiet hloop.idle finishing_noneCompleted (by rw [hkept.1]) hkept.2
      have hall := (hbefore.append hloop).append hafter
      rw [List.append_assoc (opening ds c.deviceName opened)] at hall
      refine ⟨start, ?_, hall⟩
      rw [List.append_assoc]
      exact sessionStart_opening ..

/-! ## The sizes -/

/-- A server that leaves a completed structure unchanged. -/
def Com.HandsBack (com : Com ω) : Prop :=
  ∀ device cmd code size position w,
    (com.completeCommand device cmd code size position w).1.2 = cmd

/-- The sizes recorded after the `earlier` timings are those of the completed commands. -/
structure SizesKept (earlier : List ChunkTiming) (m : Machine ω σ) : Prop where
  idle : m.client.faultInjector.Idle
  sizes : ∃ later, m.client.metrics.timings = earlier ++ later ∧
    later.map ChunkTiming.size = (completedCommands m.trace).map fun cmd => cmd.size.toUInt64

theorem SizesKept.of_kept {earlier : List ChunkTiming} {m m' : Machine ω σ} {es : List Event}
    (h : SizesKept earlier m) (htrace : m'.trace = m.trace ++ es) (hquiet : NoneCompleted es)
    (htimings : m'.client.metrics.timings = m.client.metrics.timings)
    (hinjector : m'.client.faultInjector = m.client.faultInjector) : SizesKept earlier m' where
  idle := by
    rw [hinjector]
    exact h.idle
  sizes := by
    obtain ⟨later, hlater, hsizes⟩ := h.sizes
    refine ⟨later, by rw [htimings, hlater], ?_⟩
    rw [htrace, completedCommands_append, hquiet.completedCommands, List.append_nil, hsizes]

theorem Bookkeeping.kept {f : Client → Client} (h : Bookkeeping f) (c : Client) :
    (f c).metrics.timings = c.metrics.timings ∧ (f c).faultInjector = c.faultInjector := by
  cases h with
  | booked cmd => exact ⟨recordWrite_timings cmd c, recordWrite_faultInjector cmd c⟩
  | _ => exact ⟨rfl, rfl⟩

theorem Event.Uncompleted.noneCompleted {e : Event} (h : e.Uncompleted) :
    NoneCompleted [e] := by
  intro e' he
  rw [List.mem_singleton.mp he]
  cases e <;> first | exact h.elim | rfl

theorem sizesKept_primitives {earlier : List ChunkTiming} :
    Primitives (Keeping (SizesKept (ω := ω) (σ := σ) earlier)) Eq env env := by
  apply keeping_primitives
  · intro m outside e he h
    exact h.of_kept rfl he.noneCompleted rfl rfl
  · intro m f hf h
    obtain ⟨htimings, hinjector⟩ := hf.kept m.client
    exact h.of_kept (List.append_nil _).symm (fun _ he => by cases he) htimings hinjector
  · intro m state h
    exact h.of_kept (List.append_nil _).symm (fun _ he => by cases he) rfl rfl

/-- A completion that goes on records the size of the structure it got back. -/
theorem completeStage_handsBack (hback : env.com.HandsBack) {device : Device} {cmd : VdcCommand}
    {times : StageTimes} {m m' : Machine ω σ}
    (h : (completeStage env device cmd times).run m = (.next, m')) :
    ∃ ccUs,
      m'.client.metrics.timings = m.client.metrics.timings ++ [chunkTiming times ccUs cmd] := by
  obtain ⟨t₀, m₁, hclock, h⟩ := bind_run h
  obtain ⟨hclient₁, -⟩ := nowUs_run hclock
  obtain ⟨⟨hr, cmd'⟩, m₂, hcomplete, h⟩ := bind_run h
  obtain ⟨hclient₂, -⟩ := comCall_run hcomplete
  have hcmd : cmd' = cmd := by
    have hanswer := congrArg (fun r => r.1.2) hcomplete
    exact hanswer.symm.trans (hback ..)
  obtain ⟨t₁, m₃, hclock', h⟩ := bind_run h
  obtain ⟨hclient₃, -⟩ := nowUs_run hclock'
  rw [hclient₂, hclient₁] at hclient₃
  split at h
  · obtain ⟨hflow, -⟩ := failure_run h
    cases hflow
  · obtain ⟨c, m₄, hself, h⟩ := bind_run h
    obtain ⟨rfl, rfl⟩ := self_run hself
    obtain ⟨fired, injector, hpair⟩ : ∃ fired injector,
        m₄.client.faultInjector.onChunkCompleted = (fired, injector) := ⟨_, _, rfl⟩
    rw [hpair] at h
    obtain ⟨_, m₅, hinjector, h⟩ := bind_run h
    have h₅ := update_run hinjector
    split at h
    · obtain ⟨hflow, -⟩ := failure_run h
      cases hflow
    · obtain ⟨_, m₆, hrecord, h⟩ := bind_run h
      obtain ⟨-, rfl⟩ := pure_run h
      rw [update_run hrecord, h₅, hclient₃, hcmd]
      exact ⟨t₁ - t₀, rfl⟩

theorem completeStage_sizesKept (hback : env.com.HandsBack) {earlier : List ChunkTiming}
    {device : Device} {cmd : VdcCommand} {times : StageTimes} {m : Machine ω σ}
    (h : SizesKept earlier m) :
    SizesKept earlier ((completeStage env device cmd times).run m).2 := by
  obtain ⟨flow, m', hrun⟩ : ∃ flow m', (completeStage env device cmd times).run m = (flow, m') :=
    ⟨_, _, rfl⟩
  rw [hrun]
  obtain ⟨es, htrace, completed⟩ := completeStage_run hrun
  have hclient : ∃ c, c = m'.client := ⟨_, rfl⟩
  obtain ⟨c', hc'⟩ := hclient
  rw [← hc'] at completed
  cases completed with
  | failed t₀ t₁ hr hhr =>
      refine h.of_kept htrace ?_ (by rw [← hc']) (by rw [← hc'])
      simp [NoneCompleted, failure, Event.completedCommand, hhr]
  | faulted t₀ t₁ hr hhr hfired =>
      rw [h.idle] at hfired
      cases hfired
  | done t₀ t₁ hr hhr hfired cmd' =>
      obtain ⟨later, hlater, hsizes⟩ := h.sizes
      obtain ⟨ccUs, htimings⟩ := completeStage_handsBack hback hrun
      constructor
      · rw [← hc', h.idle]
        exact h.idle
      · refine ⟨later ++ [chunkTiming times ccUs cmd], ?_, ?_⟩
        · rw [htimings, hlater, List.append_assoc]
        · rw [htrace, completedCommands_append, List.map_append, hsizes, List.map_append]
          simp [completedCommands, List.filterMap_cons, Event.completedCommand, hhr, chunkTiming]

/-- A call against such a server records the sizes of the commands it completed. -/
theorem processCommands_sizesKept (hback : env.com.HandsBack) {earlier : List ChunkTiming}
    {fuel : Nat} {m : Machine ω σ} (h : SizesKept earlier m) :
    SizesKept earlier ((processCommands env fuel).run m).2 :=
  processCommands_keeping sizesKept_primitives
    (fun _ _ _ _ hkept => completeStage_sizesKept hback hkept) h

end Vdi
