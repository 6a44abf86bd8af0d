import VdiWrapper.Session

/-!
# Ticks

The trace of a run, read for times: when the sink accepted a chunk, when `GetCommand` timed out and
when a stall warning was logged.  A turn of the loop ticks at most once, apart from the warning
that follows a timeout; `StallTurn` says what each tick means for the fields of the stall detector,
and `StallRun` chains the turns.  On a clock that does not go back the ticks are in the order of
time.
-/

namespace Vdi

open Runs

variable {ω σ : Type} {env : Env ω σ}

/-! ## Ticks -/

/-- What the stall detector is about, with its time in microseconds. -/
inductive Tick
  /-- The sink accepted a chunk; `t` is the first reading of the clock after it. -/
  | accepted (t : Nat)
  /-- `GetCommand` timed out; `t` is the reading made when it returned. -/
  | timedOut (t : Nat)
  /-- A stall warning was logged; `t` is the last reading before it. -/
  | warned (t : Nat)
deriving DecidableEq

/-- The last reading of the clock, and whether a chunk was accepted since. -/
structure Stamp where
  now : Nat
  accepted : Bool

/-- The ticks of one event. -/
def stamp (s : Stamp) : Event → List Tick × Stamp
  | .nowUs t => (if s.accepted then [.accepted t.toNat] else [], ⟨t.toNat, false⟩)
  | .sinkWrite _ ok => ([], ⟨s.now, s.accepted || ok⟩)
  | .log line =>
      (match line with
        | .getCommandTimedOut _ => [.timedOut s.now]
        | .possibleStall .. => [.warned s.now]
        | _ => [], s)
  | .coInitializeEx _ | .coUninit | .coCreateInstance .. | .createEx .. | .getConfiguration ..
  | .openDevice .. | .setClose _ | .setRelease _ | .getCommand .. | .completeCommand ..
  | .deviceRelease _ | .sinkIsOpen _ | .sinkFlush | .transition .. | .report .. => ([], s)

def ticksFrom (s : Stamp) : List Event → List Tick
  | [] => []
  | e :: es => (stamp s e).1 ++ ticksFrom (stamp s e).2 es

def stampAfter (s : Stamp) (es : List Event) : Stamp := es.foldl (fun s e => (stamp s e).2) s

theorem ticksFrom_append (s : Stamp) (es es' : List Event) :
    ticksFrom s (es ++ es') = ticksFrom s es ++ ticksFrom (stampAfter s es) es' := by
  induction es generalizing s with
  | nil => rfl
  | cons e es ih =>
      rw [List.cons_append, ticksFrom, ticksFrom, ih, List.append_assoc]
      rfl

theorem stampAfter_append (s : Stamp) (es es' : List Event) :
    stampAfter s (es ++ es') = stampAfter (stampAfter s es) es' :=
  List.foldl_append

/-- The ticks of a trace. -/
def ticks (es : List Event) : List Tick := ticksFrom ⟨0, false⟩ es

def timeouts (ts : List Tick) : List Nat :=
  ts.filterMap fun
    | .timedOut t => some t
    | .accepted _ | .warned _ => none

def warnings (ts : List Tick) : List Nat :=
  ts.filterMap fun
    | .warned t => some t
    | .accepted _ | .timedOut _ => none

@[simp] theorem timeouts_nil : timeouts [] = [] := rfl

@[simp] theorem timeouts_cons_accepted (t : Nat) (ts : List Tick) :
    timeouts (.accepted t :: ts) = timeouts ts := rfl

@[simp] theorem timeouts_cons_timedOut (t : Nat) (ts : List Tick) :
    timeouts (.timedOut t :: ts) = t :: timeouts ts := rfl

@[simp] theorem timeouts_cons_warned (t : Nat) (ts : List Tick) :
    timeouts (.warned t :: ts) = timeouts ts := rfl

@[simp] theorem warnings_nil : warnings [] = [] := rfl

@[simp] theorem warnings_cons_timedOut (t : Nat) (ts : List Tick) :
    warnings (.timedOut t :: ts) = warnings ts := rfl

@[simp] theorem warnings_cons_warned (t : Nat) (ts : List Tick) :
    warnings (.warned t :: ts) = t :: warnings ts := rfl

@[simp] theorem timeouts_append (ts ts' : List Tick) :
    timeouts (ts ++ ts') = timeouts ts ++ timeouts ts' :=
  List.filterMap_append

@[simp] theorem warnings_append (ts ts' : List Tick) :
    warnings (ts ++ ts') = warnings ts ++ warnings ts' :=
  List.filterMap_append

/-- The reading an event records. -/
def Event.reading : Event → Option Nat
  | .nowUs t => some t.toNat
  | .coInitializeEx _ | .coUninit | .coCreateInstance .. | .createEx .. | .getConfiguration ..
  | .openDevice .. | .setClose _ | .setRelease _ | .getCommand .. | .completeCommand ..
  | .deviceRelease _ | .sinkIsOpen _ | .sinkWrite .. | .sinkFlush | .transition .. | .log _
  | .report .. => none

/-- The readings of the clock, in order. -/
def readings (es : List Event) : List Nat := es.filterMap Event.reading

/-- The first reading of a run of `process_commands`. -/
def sessionStart (es : List Event) : Nat := (readings es).headD 0

theorem readings_append (es es' : List Event) :
    readings (es ++ es') = readings es ++ readings es' :=
  List.filterMap_append

/-! ## A clock that does not go back -/

/-- The clock is non-decreasing. -/
def Env.ClockMonotone (env : Env ω σ) : Prop := ∀ i j, i ≤ j → env.clock i ≤ env.clock j

/-- The readings of a run on such a clock are sorted. -/
theorem readings_sorted (hclock : env.ClockMonotone) {o o' : Outside ω σ} {es : List Event}
    (h : Path env.Answers o es o') :
    (readings es).Pairwise (· ≤ ·) ∧ ∀ r ∈ readings es, (env.clock o.ticks).toNat ≤ r := by
  induction h with
  | nil => exact ⟨.nil, by simp [readings]⟩
  | @cons s t u e es head tail ih =>
      obtain ⟨hsorted, hge⟩ := ih
      have hticks : s.ticks ≤ t.ticks := by
        cases e <;> simp only [Env.Answers] at head <;> grind
      have hle := UInt64.le_iff_toNat_le.mp (hclock _ _ hticks)
      cases e with
      | nowUs r =>
          obtain ⟨rfl, -⟩ := head
          have hcons : readings (.nowUs (env.clock s.ticks) :: es) =
              (env.clock s.ticks).toNat :: readings es := rfl
          rw [hcons]
          refine ⟨.cons (fun r hr => Nat.le_trans hle (hge r hr)) hsorted, fun r hr => ?_⟩
          rcases List.mem_cons.mp hr with rfl | hr
          · exact Nat.le_refl _
          · exact Nat.le_trans hle (hge r hr)
      | _ => exact ⟨hsorted, fun r hr => Nat.le_trans hle (hge r hr)⟩

/-- So are the times of the timeouts. -/
theorem timeouts_sorted {s : Stamp} {es : List Event}
    (h : (s.now :: readings es).Pairwise (· ≤ ·)) :
    (s.now :: timeouts (ticksFrom s es)).Pairwise (· ≤ ·) := by
  induction es generalizing s with
  | nil => simp [ticksFrom, timeouts]
  | cons e es ih =>
      rw [ticksFrom, timeouts_append]
      cases e with
      | nowUs t =>
          obtain ⟨hle, htail⟩ := List.pairwise_cons.mp h
          have hst : s.now ≤ t.toNat := hle _ List.mem_cons_self
          have hrest : (t.toNat :: timeouts (ticksFrom ⟨t.toNat, false⟩ es)).Pairwise (· ≤ ·) :=
            ih (s := ⟨t.toNat, false⟩) htail
          have hnone : timeouts (stamp s (.nowUs t)).1 = [] := by
            cases haccepted : s.accepted <;> simp [stamp, haccepted, timeouts]
          rw [hnone, List.nil_append]
          obtain ⟨hge, hsorted⟩ := List.pairwise_cons.mp hrest
          exact List.pairwise_cons.mpr ⟨fun u hu => Nat.le_trans hst (hge u hu), hsorted⟩
      | sinkWrite cmd ok => exact ih (s := ⟨s.now, s.accepted || ok⟩) h
      | log line =>
          have hrest := ih h
          cases line with
          | getCommandTimedOut timeout =>
              refine List.pairwise_cons.mpr ⟨fun u hu => ?_, hrest⟩
              rcases List.mem_cons.mp hu with rfl | hu
              · exact Nat.le_refl _
              · exact (List.pairwise_cons.mp hrest).1 u hu
          | _ => exact hrest
      | _ => exact ih h

/-! ## One turn -/

/-- What a turn means for the detector: nothing, a chunk accepted, or a check. -/
inductive StallTurn (c : Client) : List Tick → Flow → Client → Prop
  | quiet {flow : Flow} {c' : Client} (hmark : c'.lastStallWarnUs = c.lastStallWarnUs)
      (hbytes : flow = .next → c'.lastBytesTotal = c.lastBytesTotal ∧
        c'.metrics.totalBytes = c.metrics.totalBytes) : StallTurn c [] flow c'
  | stored {flow : Flow} {c' : Client} (t : Nat) (hmark : c'.lastStallWarnUs = c.lastStallWarnUs)
      (hbytes : c'.lastBytesTotal = c'.metrics.totalBytes) : StallTurn c [.accepted t] flow c'
  | checked {es : List Event} {c' : Client} (t : UInt64)
      (check : StallCheck t { c with lastCommandUs := t } es c') :
      StallTurn c (.timedOut t.toNat :: ticksFrom ⟨t.toNat, false⟩ es) .next c'

theorem Completed.ticks {device : Device} {cmd : VdcCommand} {times : StageTimes}
    {c c' : Client} {es : List Event} {flow : Flow} (h : Completed device cmd times c es flow c')
    {s : Stamp} (hs : s.accepted = false) :
    ticksFrom s es = [] ∧ (stampAfter s es).accepted = false ∧
      c'.lastStallWarnUs = c.lastStallWarnUs ∧ c'.lastBytesTotal = c.lastBytesTotal ∧
      c'.metrics.totalBytes = c.metrics.totalBytes := by
  cases h <;>
    exact ⟨by simp [ticksFrom, stamp, failure, hs], by simp [stampAfter, stamp, failure], rfl, rfl,
      rfl⟩

/-- Fetching a command means nothing to the detector. -/
theorem fetched_ticks (device : Device) (timeout : UInt32) (hr : HResult)
    (cmd : Option VdcCommand) (t₀ t₁ : UInt64) {s : Stamp} (hs : s.accepted = false) :
    ticksFrom s (fetched device timeout hr cmd t₀ t₁) = [] ∧
      stampAfter s (fetched device timeout hr cmd t₀ t₁) = ⟨t₁.toNat, false⟩ := by
  simp [fetched, ticksFrom, stampAfter, stamp, hs]

theorem delivered_ticks (device : Device) (timeout : UInt32) (hr : HResult) (cmd : VdcCommand)
    (t₀ t₁ t₂ t₃ : UInt64) {s : Stamp} (hs : s.accepted = false) :
    ticksFrom s (delivered device timeout hr cmd t₀ t₁ t₂ t₃) = [] ∧
      stampAfter s (delivered device timeout hr cmd t₀ t₁ t₂ t₃) = ⟨t₃.toNat, false⟩ := by
  simp [delivered, fetched, ticksFrom, stampAfter, stamp, hs]

/-- The bytes of a chunk are counted where the chunk is booked, and nowhere else. -/
theorem recordWrite_lastStallWarnUs (cmd : VdcCommand) (c : Client) :
    (recordWrite cmd c).lastStallWarnUs = c.lastStallWarnUs := by
  unfold recordWrite simulateBufferPool
  split <;> rfl

theorem Stored.stallTurn {cmd : VdcCommand} {c c' : Client} {es : List Event} {sinkUs : UInt64}
    (h : Stored cmd c es sinkUs c') {s : Stamp} (hs : s.accepted = false) :
    (stampAfter s es).accepted = false ∧ c'.lastStallWarnUs = c.lastStallWarnUs ∧
      ((ticksFrom s es = [] ∧ c' = c) ∨
        ∃ t, ticksFrom s es = [.accepted t] ∧ c'.lastBytesTotal = c'.metrics.totalBytes) := by
  cases h with
  | other hcode => exact ⟨hs, rfl, .inl ⟨rfl, rfl⟩⟩
  | written hcode sane t₀ t₁ =>
      refine ⟨by simp [stampAfter, stamp], recordWrite_lastStallWarnUs cmd c,
        .inr ⟨t₁.toNat, ?_, rfl⟩⟩
      simp [ticksFrom, stamp, hs]

theorem Refused.ticks {cmd : VdcCommand} {c c' : Client} {es : List Event}
    (h : Refused cmd c es c') {s : Stamp} (hs : s.accepted = false) :
    ticksFrom s es = [] ∧ (stampAfter s es).accepted = false ∧
      c'.lastStallWarnUs = c.lastStallWarnUs := by
  cases h <;>
    exact ⟨by simp [ticksFrom, stamp, failure, hs], by simp [stampAfter, stamp, failure, hs],
      recordWrite_lastStallWarnUs cmd c⟩

theorem Iteration.stallTurn {start : UInt64} {device : Device} {c c' : Client} {es : List Event}
    {flow : Flow} (h : Iteration start device c es flow c') {s : Stamp}
    (hs : s.accepted = false) :
    StallTurn c (ticksFrom s es) flow c' ∧ (stampAfter s es).accepted = false := by
  cases h with
  | closed t₀ t₁ hr cmd hhr =>
      obtain ⟨hticks, hafter⟩ := fetched_ticks device c.commandTimeoutMs hr cmd t₀ t₁ hs
      rw [ticksFrom_append, stampAfter_append, hticks, hafter]
      exact ⟨.quiet rfl (fun h => by cases h), rfl⟩
  | timedOut t₀ t₁ cmd check =>
      obtain ⟨hticks, hafter⟩ := fetched_ticks device c.commandTimeoutMs vdETimeout cmd t₀ t₁ hs
      rw [ticksFrom_append, stampAfter_append, hticks, hafter]
      refine ⟨.checked t₁ check, ?_⟩
      cases check <;> rfl
  | failed t₀ t₁ hr cmd hhr hclose heof htimeout =>
      obtain ⟨hticks, hafter⟩ := fetched_ticks device c.commandTimeoutMs hr cmd t₀ t₁ hs
      rw [ticksFrom_append, stampAfter_append, hticks, hafter]
      exact ⟨.quiet rfl (fun h => by cases h), rfl⟩
  | null t₀ t₁ hr hhr =>
      obtain ⟨hticks, hafter⟩ := fetched_ticks device c.commandTimeoutMs hr none t₀ t₁ hs
      rw [ticksFrom_append, stampAfter_append, hticks, hafter]
      exact ⟨.quiet rfl fun _ => ⟨rfl, rfl⟩, rfl⟩
  | closeCommand t₀ t₁ t₂ t₃ hr cmd hhr hcode =>
      obtain ⟨hticks, hafter⟩ :=
        delivered_ticks device c.commandTimeoutMs hr cmd t₀ t₁ t₂ t₃ hs
      rw [hticks, hafter]
      exact ⟨.quiet rfl (fun h => by cases h), rfl⟩
  | refused t₀ t₁ t₂ t₃ hr cmd hhr refused =>
      obtain ⟨hticks, hafter⟩ :=
        delivered_ticks device c.commandTimeoutMs hr cmd t₀ t₁ t₂ t₃ hs
      rw [ticksFrom_append, stampAfter_append, hticks, hafter]
      obtain ⟨hnone, hclear, hmark⟩ := refused.ticks (s := ⟨t₃.toNat, false⟩) rfl
      rw [hnone]
      exact ⟨.quiet hmark (fun h => by cases h), hclear⟩
  | served t₀ t₁ t₂ t₃ hr cmd hhr hcode stored completed =>
      obtain ⟨hticks, hafter⟩ :=
        delivered_ticks device c.commandTimeoutMs hr cmd t₀ t₁ t₂ t₃ hs
      rw [ticksFrom_append, stampAfter_append, ticksFrom_append, stampAfter_append, hticks, hafter]
      obtain ⟨hclear, hmark, hways⟩ := stored.stallTurn (s := ⟨t₃.toNat, false⟩) rfl
      obtain ⟨hnone, hclear', hmark', hlast, htotal⟩ := completed.ticks hclear
      rw [hnone, List.append_nil, List.nil_append]
      refine ⟨?_, hclear'⟩
      rcases hways with ⟨hquiet, rfl⟩ | ⟨t, haccepted, hbytes⟩
      · rw [hquiet]
        exact .quiet hmark' fun _ => ⟨hlast, htotal⟩
      · rw [haccepted]
        exact .stored t (hmark'.trans hmark) (by rw [hlast, htotal, hbytes])

/-- The turns of a loop. -/
inductive StallRun (c : Client) : List Tick → Flow → Client → Prop
  | start : StallRun c [] .next c
  | turn {ts ts' : List Tick} {c' c'' : Client} {flow : Flow} (before : StallRun c ts .next c')
      (turn : StallTurn c' ts' flow c'') : StallRun c (ts ++ ts') flow c''

theorem LoopRun.stallRun {start : UInt64} {devices : List Device} {c c' : Client} {k : Nat}
    {es : List Event} {flow : Flow} (h : LoopRun start devices c k es flow c') {s : Stamp}
    (hs : s.accepted = false) :
    StallRun c (ticksFrom s es) flow c' ∧ (stampAfter s es).accepted = false := by
  induction h with
  | start => exact ⟨.start, hs⟩
  | turn before served turn ih =>
      obtain ⟨hrun, hclear⟩ := ih
      obtain ⟨hturn, hclear'⟩ := turn.stallTurn hclear
      rw [ticksFrom_append, stampAfter_append]
      exact ⟨hrun.turn hturn, hclear'⟩

/-! ## The call -/

/-- An event without a time and without a meaning for the detector. -/
def Event.Untimed (e : Event) : Prop := e.reading = none ∧ ∀ s, stamp s e = ([], s)

theorem Event.AfterLoop.untimed {e : Event} (h : e.AfterLoop) : e.Untimed := by
  cases e <;> first | exact h.elim | exact ⟨rfl, fun s => rfl⟩

theorem opening_untimed (ds : DeviceSet) (name : String) (opened : List (HResult × Device)) :
    ∀ e ∈ opening ds name opened, e.Untimed := by
  intro e he
  obtain ⟨p, -, rfl⟩ := List.mem_map.mp he
  exact ⟨rfl, fun s => rfl⟩

theorem readings_untimed {es : List Event} (h : ∀ e ∈ es, e.Untimed) : readings es = [] :=
  List.filterMap_eq_nil_iff.mpr fun e he => (h e he).1

theorem ticksFrom_untimed {s : Stamp} {es : List Event} (h : ∀ e ∈ es, e.Untimed) :
    ticksFrom s es = [] ∧ stampAfter s es = s := by
  induction es with
  | nil => exact ⟨rfl, rfl⟩
  | cons e es ih =>
      have he := (h e List.mem_cons_self).2 s
      obtain ⟨hticks, hafter⟩ := ih fun e he => h e (List.mem_cons_of_mem _ he)
      constructor
      · rw [ticksFrom, he]
        exact hticks
      · rw [stampAfter, List.foldl_cons, he]
        exact hafter

/-- A call that reaches its loop reads the session start first, and its ticks are those of the
loop. -/
theorem CommandRun.stallRun {c c' : Client} {es : List Event} {returned : Bool}
    (h : CommandRun c es returned c') :
    ticks es = [] ∨ ∃ start loop flow c₁, readings es = start.toNat :: readings loop ∧
      ticks es = ticksFrom ⟨start.toNat, false⟩ loop ∧
      StallRun (c.streamingSince start) (ticks es) flow c₁ := by
  cases h with
  | wrongState | noDeviceSet => exact .inl rfl
  | @openFailed ds opened hr device hstate hset hopened hcount hhr =>
      refine .inl ?_
      obtain ⟨hticks, hafter⟩ := ticksFrom_untimed (s := ⟨0, false⟩)
        (opening_untimed ds c.deviceName opened)
      rw [ticks, ticksFrom_append, hticks, hafter]
      rfl
  | @serving ds opened start k es c' hstate hset hopened hcount run =>
      have hopening := opening_untimed ds c.deviceName opened
      obtain ⟨hticks, hafter⟩ := ticksFrom_untimed (s := ⟨0, false⟩) hopening
      have hall : ticks (opening ds c.deviceName opened ++ .nowUs start :: es) =
          ticksFrom ⟨start.toNat, false⟩ es := by
        rw [ticks, ticksFrom_append, hticks, hafter]
        rfl
      refine .inr ⟨start, es, .next, c', ?_, hall, ?_⟩
      · rw [readings_append, readings_untimed hopening]
        rfl
      · rw [hall]
        exact (run.stallRun rfl).1
  | @served ds opened start k es c₁ hstate hset hopened hcount run =>
      have hopening := opening_untimed ds c.deviceName opened
      have hfinishing : ∀ e ∈ finishing (opened.map Prod.snd) c₁, e.Untimed :=
        fun e he => (finishing_afterLoop e he).untimed
      obtain ⟨hticks, hafter⟩ := ticksFrom_untimed (s := ⟨0, false⟩) hopening
      have hall : ticks (opening ds c.deviceName opened ++ .nowUs start :: es ++
          finishing (opened.map Prod.snd) c₁) = ticksFrom ⟨start.toNat, false⟩ es := by
        rw [ticks, ticksFrom_append, ticksFrom_append, (ticksFrom_untimed hfinishing).1,
          List.append_nil, hticks, hafter]
        rfl
      refine .inr ⟨start, es, .stop, c₁, ?_, hall, ?_⟩
      · rw [readings_append, readings_append, readings_untimed hopening,
          readings_untimed hfinishing, List.append_nil]
        rfl
      · rw [hall]
        exact (run.stallRun rfl).1

/-- The trace of a call on a clock that does not go back. -/
theorem commandTrace_sorted (hclock : env.ClockMonotone) (fuel : Nat) (client : Client)
    (outside : Outside ω σ) :
    (readings (commandTrace env fuel client outside)).Pairwise (· ≤ ·) := by
  obtain ⟨es, htrace, hpath⟩ := processCommands_traced _ _ _
    (Prod.eta (runCommands env fuel client outside)).symm
  rw [List.nil_append] at htrace
  rw [commandTrace, htrace]
  exact (readings_sorted hclock hpath).1

end Vdi
