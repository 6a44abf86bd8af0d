import VdiWrapper.Lib.Throttle
import VdiWrapper.Scripted
import VdiWrapper.Ticks

/-!
# Stall detection

`check_stall` as an alarm.  Read tick by tick, the detector is a throttle over the timeouts:
`last_stall_warn_us_` is the mark of `Lib.Throttle`, begun at the session start.

The comparison of byte counts hardly matters.  Every accepted chunk copies `total_bytes` to
`last_bytes_total_`, so at a timeout the two differ at most until the first accepted chunk of a
run that began with bytes on the counter.  Hence the alarm is complete, and for the same reason it
is not sound: what the throttle lets through is warned about even if a chunk has just been
accepted.
-/

namespace Vdi

open Runs Throttle

variable {ω σ : Type} {env : Env ω σ}

/-- `STALL_WARN_MS * 1000`. -/
def stallWindow : Nat := stallWarnMs.toNat * 1000

theorem stallWindow_eq : (stallWarnMs.toUInt64 * 1000).toNat = stallWindow := by decide

/-! ## The detector is a throttle -/

/-- At a check the fields of the detector are those of a throttle, and what passes is warned
about unless the two byte counts differ. -/
theorem StallCheck.throttle {now : UInt64} {c c' : Client} {es : List Event}
    (h : StallCheck now c es c') (hle : c.lastStallWarnUs.toNat ≤ now.toNat) :
    c'.lastStallWarnUs.toNat = step stallWindow c.lastStallWarnUs.toNat now.toNat ∧
      c'.metrics.totalBytes = c.metrics.totalBytes ∧
      (c.lastBytesTotal = c.metrics.totalBytes → c'.lastBytesTotal = c'.metrics.totalBytes) ∧
      ticksFrom ⟨now.toNat, false⟩ es =
        if Passes stallWindow c.lastStallWarnUs.toNat now.toNat ∧
            c.metrics.totalBytes = c.lastBytesTotal then [.warned now.toNat] else [] := by
  have hsub : (now - c.lastStallWarnUs).toNat = now.toNat - c.lastStallWarnUs.toNat :=
    UInt64.toNat_sub_of_le now c.lastStallWarnUs (UInt64.le_iff_toNat_le.mpr hle)
  have hzero : c.lastStallWarnUs = 0 ↔ c.lastStallWarnUs.toNat = 0 := by
    rw [← UInt64.toNat_inj]
    rfl
  have hearly : now - c.lastStallWarnUs < stallWarnMs.toUInt64 * 1000 ↔
      now.toNat < c.lastStallWarnUs.toNat + stallWindow := by
    rw [UInt64.lt_iff_toNat_lt, stallWindow_eq, hsub]
    omega
  unfold step Passes
  cases h with
  | armed h =>
      have hmark := hzero.mp h
      refine ⟨by rw [if_pos (.inl hmark)], rfl, id, ?_⟩
      rw [if_neg (by omega)]
      rfl
  | early h hwait =>
      have hmark : c.lastStallWarnUs.toNat ≠ 0 := fun hno => h (hzero.mpr hno)
      have hlt := hearly.mp hwait
      refine ⟨by rw [if_neg (by omega)], rfl, id, ?_⟩
      rw [if_neg (by omega)]
      rfl
  | warned h hlate hbytes =>
      have hmark : c.lastStallWarnUs.toNat ≠ 0 := fun hno => h (hzero.mpr hno)
      have hge : ¬ now.toNat < c.lastStallWarnUs.toNat + stallWindow := fun hno =>
        hlate (hearly.mpr hno)
      refine ⟨by rw [if_pos (by omega)], rfl, id, ?_⟩
      rw [if_pos ⟨⟨by omega, by omega⟩, hbytes⟩]
      rfl
  | progressed h hlate hbytes =>
      have hmark : c.lastStallWarnUs.toNat ≠ 0 := fun hno => h (hzero.mpr hno)
      have hge : ¬ now.toNat < c.lastStallWarnUs.toNat + stallWindow := fun hno =>
        hlate (hearly.mpr hno)
      refine ⟨by rw [if_pos (by omega)], rfl, fun _ => rfl, ?_⟩
      rw [if_neg fun hno => hbytes hno.2]
      rfl

/-- The detector between two turns: the mark is that of the throttle over the timeouts so far, and
the byte counts agree once a chunk was accepted, or always if the run began with none. -/
structure StallState (c₀ : Client) (ts : List Tick) (c : Client) : Prop where
  mark : c.lastStallWarnUs.toNat =
    marked stallWindow c₀.lastStallWarnUs.toNat (timeouts ts)
  bytes : (c₀.metrics.totalBytes = c₀.lastBytesTotal ∨ ∃ t, .accepted t ∈ ts) →
    c.metrics.totalBytes = c.lastBytesTotal

/-- The times of the timeouts, seen from the start of the session. -/
abbrev Sorted (c₀ : Client) (ts : List Tick) : Prop :=
  (c₀.lastStallWarnUs.toNat :: timeouts ts).Pairwise (· ≤ ·)

theorem Sorted.left {c₀ : Client} {ts ts' : List Tick} (h : Sorted c₀ (ts ++ ts')) :
    Sorted c₀ ts := by
  unfold Sorted at h ⊢
  rw [timeouts_append, ← List.cons_append] at h
  exact (List.pairwise_append.mp h).1

/-- At a timeout the mark is not in the future. -/
theorem StallState.mark_le {c₀ c : Client} {ts ts' : List Tick} {t : Nat}
    (h : StallState c₀ ts c) (hsorted : Sorted c₀ (ts ++ .timedOut t :: ts')) :
    c.lastStallWarnUs.toNat ≤ t := by
  unfold Sorted at hsorted
  rw [timeouts_append, ← List.cons_append] at hsorted
  rw [h.mark]
  exact (List.pairwise_append.mp hsorted).2.2 _ (marked_mem ..) t List.mem_cons_self

theorem StallTurn.state {c₀ c c' : Client} {ts ts' : List Tick} (h : StallTurn c ts' .next c')
    (hstate : StallState c₀ ts c) (hsorted : Sorted c₀ (ts ++ ts')) :
    StallState c₀ (ts ++ ts') c' := by
  cases h with
  | quiet hmark hbytes =>
      obtain ⟨hlast, htotal⟩ := hbytes rfl
      rw [List.append_nil]
      constructor
      · rw [hmark]
        exact hstate.mark
      · rw [hlast, htotal]
        exact hstate.bytes
  | stored t hmark hbytes =>
      constructor
      · have hnone : timeouts [.accepted t] = [] := rfl
        rw [hmark, hstate.mark, timeouts_append, hnone, List.append_nil]
      · exact fun _ => hbytes.symm
  | @checked es _ t check =>
      obtain ⟨hmark, htotal, hlast, hticks⟩ := check.throttle (hstate.mark_le hsorted)
      have htimeouts : timeouts (ts ++ .timedOut t.toNat :: ticksFrom ⟨t.toNat, false⟩ es) =
          timeouts ts ++ [t.toNat] := by
        rw [hticks]
        split <;> simp
      constructor
      · rw [htimeouts, marked_snoc, hmark, hstate.mark]
      · intro hor
        apply (hlast _).symm
        apply (hstate.bytes _).symm
        rcases hor with hzero | ⟨a, ha⟩
        · exact .inl hzero
        · rcases List.mem_append.mp ha with ha | ha
          · exact .inr ⟨a, ha⟩
          · rw [hticks] at ha
            split at ha <;> simp at ha

theorem StallRun.state {c₀ c : Client} {ts : List Tick} {flow : Flow}
    (h : StallRun c₀ ts flow c) (hsorted : Sorted c₀ ts) (hflow : flow = .next) :
    StallState c₀ ts c := by
  induction h with
  | start => exact ⟨rfl, fun hor => hor.elim id fun ⟨t, ht⟩ => by cases ht⟩
  | turn before turn ih =>
      subst hflow
      exact turn.state (ih hsorted.left rfl) hsorted

/-! ## Soundness -/

/-- `a` lies in `(t - STALL_WARN_MS * 1000, t]`. -/
def InWindow (t a : Nat) : Prop := t < a + stallWindow ∧ a ≤ t

/-- Every warning is right: no chunk was accepted in the window before it. -/
def StallSound (ts : List Tick) : Prop :=
  Always (fun pre tick => ∀ t, tick = .warned t → ∀ a, .accepted a ∈ pre → ¬ InWindow t a) ts

/-- No chunk was accepted in the window before a timeout that the throttle lets through. -/
def Undisturbed (start : Nat) (ts : List Tick) : Prop :=
  Always (fun pre tick => ∀ t, tick = .timedOut t →
    Passes stallWindow (marked stallWindow start (timeouts pre)) t →
    ∀ a, .accepted a ∈ pre → ¬ InWindow t a) ts

/-- What a turn adds to the two statements is the same. -/
theorem StallTurn.sound_iff {c₀ c c' : Client} {ts ts' : List Tick} {flow : Flow}
    (h : StallTurn c ts' flow c') (hstate : StallState c₀ ts c)
    (hsorted : Sorted c₀ (ts ++ ts')) :
    Always (fun pre tick => ∀ t, tick = .warned t →
        ∀ a, .accepted a ∈ ts ++ pre → ¬ InWindow t a) ts' ↔
      Always (fun pre tick => ∀ t, tick = .timedOut t →
        Passes stallWindow (marked stallWindow c₀.lastStallWarnUs.toNat (timeouts (ts ++ pre))) t →
        ∀ a, .accepted a ∈ ts ++ pre → ¬ InWindow t a) ts' := by
  cases h with
  | quiet => exact iff_of_true always_nil always_nil
  | stored t => simp
  | @checked es _ t check =>
      obtain ⟨-, -, -, hticks⟩ := check.throttle (hstate.mark_le hsorted)
      have hmark : c.lastStallWarnUs.toNat = _ := hstate.mark
      rw [hticks]
      by_cases hwarned : Passes stallWindow c.lastStallWarnUs.toNat t.toNat ∧
          c.metrics.totalBytes = c.lastBytesTotal
      · have hpasses := hwarned.1
        rw [hmark] at hpasses
        rw [if_pos hwarned, always_cons, always_cons, always_cons]
        simp [hpasses]
      · rw [if_neg hwarned]
        apply iff_of_true (by simp)
        rw [always_cons]
        refine ⟨?_, always_nil⟩
        rintro _ ⟨rfl⟩ hpasses a ha
        -- the throttle let the check through, so the byte counts differ: nothing was accepted yet
        rw [List.append_nil] at hpasses ha
        rw [← hmark] at hpasses
        exact absurd ⟨hpasses, hstate.bytes (.inr ⟨a, ha⟩)⟩ hwarned

theorem StallRun.sound_iff {c₀ c : Client} {ts : List Tick} {flow : Flow}
    (h : StallRun c₀ ts flow c) (hsorted : Sorted c₀ ts) :
    StallSound ts ↔ Undisturbed c₀.lastStallWarnUs.toNat ts := by
  induction h with
  | start => exact iff_of_true always_nil always_nil
  | turn before turn ih =>
      unfold StallSound Undisturbed at ih ⊢
      rw [always_append, always_append]
      exact and_congr (ih hsorted.left)
        (turn.sound_iff (before.state hsorted.left rfl) hsorted)

/-! ## Completeness -/

/-- Every check is warned about at once if the throttle lets it through. -/
def Prompt (start : Nat) (ts : List Tick) : Prop :=
  ∀ pre t post, ts = pre ++ .timedOut t :: post →
    warnings pre = passed stallWindow start (timeouts pre) ∧
      (Passes stallWindow (marked stallWindow start (timeouts pre)) t →
        post.head? = some (.warned t))

theorem StallTurn.warnings {c₀ c c' : Client} {ts ts' : List Tick} {flow : Flow}
    (h : StallTurn c ts' flow c') (hstate : StallState c₀ ts c)
    (hbytes : c.metrics.totalBytes = c.lastBytesTotal) (hsorted : Sorted c₀ (ts ++ ts')) :
    (timeouts ts' = [] ∧ warnings ts' = []) ∨
      ∃ t, ts' = .timedOut t ::
        if Passes stallWindow (marked stallWindow c₀.lastStallWarnUs.toNat (timeouts ts)) t then
          [.warned t] else [] := by
  cases h with
  | quiet => exact .inl ⟨rfl, rfl⟩
  | stored t => exact .inl ⟨rfl, rfl⟩
  | @checked es _ t check =>
      obtain ⟨-, -, -, hticks⟩ := check.throttle (hstate.mark_le hsorted)
      rw [hstate.mark] at hticks
      refine .inr ⟨t.toNat, ?_⟩
      rw [hticks]
      simp only [hbytes, and_true]

/-- In a run that began with no bytes on the counter, what the throttle passes is what is warned
about. -/
theorem StallRun.warnings {c₀ c : Client} {ts : List Tick} {flow : Flow}
    (h : StallRun c₀ ts flow c) (hsorted : Sorted c₀ ts)
    (hbytes : c₀.metrics.totalBytes = c₀.lastBytesTotal) :
    warnings ts = passed stallWindow c₀.lastStallWarnUs.toNat (timeouts ts) ∧
      Prompt c₀.lastStallWarnUs.toNat ts := by
  induction h with
  | start => exact ⟨rfl, fun pre t post heq => by simp at heq⟩
  | @turn ts ts' c' c'' flow before turn ih =>
      obtain ⟨hwarnings, hprompt⟩ := ih hsorted.left
      have hstate := before.state hsorted.left rfl
      rcases turn.warnings hstate (hstate.bytes (.inl hbytes)) hsorted with
        ⟨hnone, hsilent⟩ | ⟨t, hcheck⟩
      · refine ⟨by rw [warnings_append, timeouts_append, hnone, hsilent, List.append_nil,
          List.append_nil, hwarnings], fun pre t post heq => ?_⟩
        rcases append_eq_split heq with ⟨mid, rfl, rfl⟩ | ⟨mid, rfl, rfl⟩
        · obtain ⟨hpre, hpost⟩ := hprompt pre t mid rfl
          refine ⟨hpre, fun hpasses => ?_⟩
          rw [List.head?_append, hpost hpasses]
          rfl
        · simp at hnone
      · refine ⟨?_, fun pre t' post heq => ?_⟩
        · rw [hcheck, warnings_append, timeouts_append, hwarnings]
          split
          · next hpasses => simp [passed_snoc, hpasses]
          · next hpasses => simp [passed_snoc, hpasses]
        · rcases append_eq_split heq with ⟨mid, rfl, rfl⟩ | ⟨mid, rfl, hts'⟩
          · obtain ⟨hpre, hpost⟩ := hprompt pre t' mid rfl
            refine ⟨hpre, fun hpasses => ?_⟩
            rw [List.head?_append, hpost hpasses]
            rfl
          · rw [hcheck] at hts'
            cases mid with
            | nil =>
                cases hts'
                rw [List.append_nil]
                refine ⟨hwarnings, fun hpasses => ?_⟩
                rw [if_pos hpasses]
                rfl
            | cons tick mid =>
                obtain ⟨-, hrest⟩ := List.cons.inj hts'
                split at hrest <;> simp [List.cons_eq_append_iff] at hrest

/-! ## The call -/

/-- The ticks of a call: none at all, or those of a `StallRun` in the order of time. -/
theorem commandTrace_stallRun (hclock : env.ClockMonotone) (fuel : Nat) (client : Client)
    (outside : Outside ω σ) :
    let es := commandTrace env fuel client outside
    ticks es = [] ∨ ∃ start flow c, sessionStart es = start.toNat ∧
      StallRun (client.streamingSince start) (ticks es) flow c ∧
      Sorted (client.streamingSince start) (ticks es) := by
  intro es
  have hsorted := commandTrace_sorted hclock fuel client outside
  rcases (runCommands_commandRun env fuel client outside).stallRun with
    hnone | ⟨start, loop, flow, c, hreadings, hticks, run⟩
  · exact .inl hnone
  · refine .inr ⟨start, flow, c, ?_, run, ?_⟩
    · rw [sessionStart, hreadings]
      rfl
    · rw [hreadings] at hsorted
      unfold Sorted
      rw [hticks]
      exact timeouts_sorted (s := ⟨start.toNat, false⟩) hsorted

/-- **Soundness.**  On a clock that does not go back, the stall warnings of a run are right exactly
if no chunk was accepted in the window before a timeout that the throttle lets through: one that
comes `STALL_WARN_MS` or more after the session start and after the last one let through. -/
theorem processCommands_stallSound_iff (env : Env ω σ) (hclock : env.ClockMonotone) (fuel : Nat)
    (client : Client) (outside : Outside ω σ) :
    let es := commandTrace env fuel client outside
    StallSound (ticks es) ↔ Undisturbed (sessionStart es) (ticks es) := by
  intro es
  rcases commandTrace_stallRun hclock fuel client outside with
    hnone | ⟨start, flow, c, hstart, run, hsorted⟩
  · have hnone : ticks es = [] := hnone
    rw [hnone]
    exact iff_of_true always_nil always_nil
  · have hstart : sessionStart es = start.toNat := hstart
    rw [hstart]
    exact run.sound_iff hsorted

/-- A clock that stands at one microsecond and then, from reading `n` on, a full window later. -/
def jumpingClock (n : Nat) (k : Nat) : UInt64 := if k < n then 1 else 60000001

/-- The scripted server on such a clock. -/
def jumpingEnv (n : Nat) : Env Server Unit := { scriptedEnv nullSink with clock := jumpingClock n }

theorem jumpingEnv_monotone (n : Nat) : (jumpingEnv n).ClockMonotone := by
  intro i j hij
  change jumpingClock n i ≤ jumpingClock n j
  unfold jumpingClock
  by_cases hj : j < n
  · rw [if_pos hj, if_pos (by omega)]
    decide
  · rw [if_neg hj]
    split <;> decide

/-- A run that stores one byte at once and times out a full window later. -/
def idleTrace : List Event :=
  commandTrace (jumpingEnv 10) 2 streamingClient (scriptedStart [[deliver (oneByte 7), timeout]] ())

/-- The byte was accepted before the window of the warning. -/
theorem idleTrace_stallSound :
    ticks idleTrace = [.accepted 1, .timedOut 60000001, .warned 60000001] ∧
      StallSound (ticks idleTrace) := by
  have hticks : ticks idleTrace = [.accepted 1, .timedOut 60000001, .warned 60000001] := by
    decide +kernel
  have hsound := processCommands_stallSound_iff (jumpingEnv 10) (jumpingEnv_monotone 10) 2
    streamingClient (scriptedStart [[deliver (oneByte 7), timeout]] ())
  have houtside : ¬ InWindow 60000001 1 := fun hin => absurd hin.1 (by decide)
  refine ⟨hticks, hsound.mpr ?_⟩
  unfold idleTrace at hticks
  rw [hticks]
  simp [Undisturbed, houtside]

/-- A run that stores one byte and times out right after it, both a full window after the session
start. -/
def busyTrace : List Event :=
  commandTrace (jumpingEnv 2) 2 streamingClient (scriptedStart [[deliver (oneByte 7), timeout]] ())

/-- The warning comes at the very time at which the byte was accepted. -/
theorem busyTrace_not_stallSound :
    ticks busyTrace = [.accepted 60000001, .timedOut 60000001, .warned 60000001] ∧
      ¬ StallSound (ticks busyTrace) := by
  have hticks : ticks busyTrace =
      [.accepted 60000001, .timedOut 60000001, .warned 60000001] := by decide +kernel
  refine ⟨hticks, fun hsound => ?_⟩
  rw [hticks] at hsound
  apply hsound [.accepted 60000001, .timedOut 60000001] (.warned 60000001) [] rfl 60000001 rfl
    60000001 List.mem_cons_self
  exact ⟨by decide, by decide⟩

/-- A call of `process_commands` begun in `m` makes the call `check_stall(now)` on the fields
`c`. -/
inductive AboutToCheck (env : Env ω σ) (m : Machine ω σ) : UInt64 → Client → Prop
  | check {device : Device} {cmd : Option VdcCommand} {now : UInt64} {m₀ m₁ m₂ : Machine ω σ}
      (poll : AboutToPoll env m device m₀)
      (timedOut : (getCommand env device m₀.client.commandTimeoutMs).run m₀ =
        ((vdETimeout, cmd), m₁))
      (gcEnd : (nowUs env).run m₁ = (now, m₂)) :
      AboutToCheck env m now { m₂.client with lastCommandUs := now }

/-- Then the mark is a time that has passed. -/
theorem AboutToCheck.mark_le (hclock : env.ClockMonotone) {m : Machine ω σ} {now : UInt64}
    {c : Client} (h : AboutToCheck env m now c) : c.lastStallWarnUs.toNat ≤ now.toNat := by
  cases h with
  | @check device cmd _ m₀ m₁ m₂ poll timedOut gcEnd =>
      obtain ⟨es, t, -, run, hpath⟩ := poll.commandRun
      obtain ⟨hclient₁, htrace₁⟩ := comCall_run timedOut
      obtain ⟨hclient₂, -⟩ := nowUs_run gcEnd
      obtain ⟨got, htrace, hgot⟩ := getCommand_traced _ _ _ timedOut
      have hread : Path env.Answers m₁.outside [.nowUs now] m₂.outside := by
        cases gcEnd
        exact .single ⟨rfl, rfl⟩
      have hreadings := (readings_sorted hclock ((hpath.append hgot).append hread)).1
      rw [List.append_cancel_left (htrace.symm.trans htrace₁)] at hreadings
      have hmark : ({ m₂.client with lastCommandUs := now } : Client).lastStallWarnUs =
          m₀.client.lastStallWarnUs := by rw [hclient₂, hclient₁]
      rw [hmark]
      cases run with
      | @serving ds opened start k loop _ hstate hset hopened hcount run =>
          obtain ⟨stalls, hclear⟩ := run.stallRun (s := ⟨start.toNat, false⟩) rfl
          -- this timeout is the next tick of the loop
          have hticks : ticksFrom ⟨start.toNat, false⟩
              (loop ++ [.nowUs t, .nowUs now, .log (.getCommandTimedOut 0)]) =
                ticksFrom ⟨start.toNat, false⟩ loop ++ [.timedOut now.toNat] := by
            rw [ticksFrom_append]
            simp [ticksFrom, stamp, hclear]
          have hnext : Sorted (m.client.streamingSince start)
              (ticksFrom ⟨start.toNat, false⟩ loop ++ [.timedOut now.toNat]) := by
            unfold Sorted
            rw [← hticks]
            apply timeouts_sorted (s := ⟨start.toNat, false⟩)
            have hlist : readings (opening ds m.client.deviceName opened ++ .nowUs start :: loop ++
                [.nowUs t] ++ [.getCommand device m₀.client.commandTimeoutMs vdETimeout cmd] ++
                [.nowUs now]) =
                start.toNat ::
                  readings (loop ++ [.nowUs t, .nowUs now, .log (.getCommandTimedOut 0)]) := by
              simp only [readings_append, readings_untimed (opening_untimed _ _ _),
                List.append_assoc]
              rw [← List.singleton_append, readings_append, List.append_assoc]
              rfl
            rw [hlist] at hreadings
            exact hreadings
          exact (stalls.state hnext.left rfl).mark_le hnext

/-- Only `process_commands` counts. -/
theorem CallRun.metrics_eq {c c' : Client} {call : ApiCall} {es : List Event} {flow : Flow}
    (h : CallRun c call es flow c') (hcall : ∀ fuel, call ≠ .processCommands fuel) :
    c'.metrics = c.metrics := by
  cases h with
  | connectRefused | openRefused | setCommandTimeout | setFailAfterNChunks | closedAgain | close =>
      rfl
  | connect hstate run => cases run <;> rfl
  | openDevices hstate run => cases run <;> rfl
  | served => exact absurd rfl (hcall _)
  | serving => exact absurd rfl (hcall _)

theorem runCalls_metrics {calls : List ApiCall} {flow : Flow} {m m' : Machine ω σ}
    (hfirst : ∀ call ∈ calls, ∀ fuel, call ≠ .processCommands fuel)
    (h : (runCalls env calls).run m = (flow, m')) :
    m'.client.metrics = m.client.metrics := by
  induction calls generalizing m with
  | nil =>
      cases h
      rfl
  | cons call calls ih =>
      have hrest : ∀ call ∈ calls, ∀ fuel, call ≠ .processCommands fuel :=
        fun call hcall => hfirst call (List.mem_cons_of_mem _ hcall)
      match hcall : callStep env call m with
      | (flow₁, m₁) =>
          obtain ⟨es, -, run⟩ := apiCall_callRun hcall
          have hkept := run.metrics_eq (hfirst call List.mem_cons_self)
          cases flow₁ with
          | next =>
              have hstep : (runCalls env (call :: calls)).run m = (runCalls env calls).run m₁ :=
                forEach_cons_next hcall
              rw [ih hrest (hstep.symm.trans h), hkept]
          | stop =>
              have hend : (runCalls env (call :: calls)).run m = (.stop, m₁) :=
                forEach_cons_stop hcall
              cases hend.symm.trans h
              exact hkept

/-- A warning has been logged at `w` by the time of the check at `t` that follows `pre`. -/
def WarnedBy (pre : List Tick) (t : Nat) (post : List Tick) (w : Nat) : Prop :=
  .warned w ∈ pre ∨ (w = t ∧ post.head? = some (.warned t))

theorem mem_warnings {w : Nat} {ts : List Tick} : w ∈ warnings ts ↔ .warned w ∈ ts := by
  unfold warnings
  rw [List.mem_filterMap]
  constructor
  · rintro ⟨tick, hmem, htick⟩
    cases tick <;> simp at htick
    rwa [← htick]
  · exact fun hmem => ⟨_, hmem, rfl⟩

/-- What the throttle promises, for the warnings of a run begun at a positive time with no bytes
counted. -/
theorem StallRun.complete {c₀ c : Client} {ts : List Tick} {flow : Flow}
    (h : StallRun c₀ ts flow c) (hsorted : Sorted c₀ ts)
    (hbytes : c₀.metrics.totalBytes = c₀.lastBytesTotal) (hstart : 0 < c₀.lastStallWarnUs.toNat) :
    (∀ pre t post, ts = pre ++ .timedOut t :: post → c₀.lastStallWarnUs.toNat + stallWindow ≤ t →
      ∃ w, w ≤ t ∧ t < w + stallWindow ∧ WarnedBy pre t post w) ∧
      (c₀.lastStallWarnUs.toNat :: Vdi.warnings ts).IsChain fun a b => a + stallWindow ≤ b := by
  obtain ⟨hwarnings, hprompt⟩ := h.warnings hsorted hbytes
  constructor
  · intro pre t post hts hlate
    obtain ⟨hpre, hpost⟩ := hprompt pre t post hts
    have hupto : Sorted c₀ (pre ++ [.timedOut t]) := by
      rw [hts, List.append_cons] at hsorted
      exact hsorted.left
    have hmem : t ∈ timeouts (pre ++ [.timedOut t]) := by simp
    obtain ⟨w, hw, hle, hlt⟩ := exists_passed (by decide) hstart hupto hmem hlate
    refine ⟨w, hle, hlt, ?_⟩
    rw [timeouts_append, timeouts_cons_timedOut, timeouts_nil, passed_snoc, ← hpre] at hw
    rcases List.mem_append.mp hw with hw | hw
    · exact .inl (mem_warnings.mp hw)
    · split at hw
      · next hpasses => exact .inr ⟨List.mem_singleton.mp hw, hpost hpasses⟩
      · cases hw
  · rw [hwarnings]
    apply passed_isChain hstart
    intro t ht
    exact Nat.lt_of_lt_of_le hstart ((List.pairwise_cons.mp hsorted).1 t ht)

/-- **Completeness and throttling.**  In the first run of a client, on a clock that does not go
back and that is positive at the session start: whenever `GetCommand` times out a window or more
after the start, a warning has been logged less than a window ago, warnings are a window apart,
and the subtraction in `check_stall` never wraps.  That no chunk was accepted lately is not even
needed. -/
theorem processCommands_stallComplete (env : Env ω σ) (hclock : env.ClockMonotone)
    (enableLogging : Bool) (faultInjector : FaultInjector) (outside : Outside ω σ)
    (calls : List ApiCall) (hfirst : ∀ call ∈ calls, ∀ fuel, call ≠ .processCommands fuel)
    (fuel : Nat) :
    let m := session env enableLogging faultInjector outside calls
    let es := commandTrace env fuel m.client m.outside
    0 < sessionStart es →
      (∀ pre t post, ticks es = pre ++ .timedOut t :: post → sessionStart es + stallWindow ≤ t →
        ∃ w, w ≤ t ∧ t < w + stallWindow ∧ WarnedBy pre t post w) ∧
      (warnings (ticks es)).IsChain (fun a b => a + stallWindow ≤ b) ∧
      ∀ now c, AboutToCheck env m now c →
        (now - c.lastStallWarnUs).toNat = now.toNat - c.lastStallWarnUs.toNat ∧
          c.lastStallWarnUs ≤ now := by
  intro m es hstart
  have hzero : m.client.metrics.totalBytes = 0 := by
    have hkept := runCalls_metrics hfirst (Prod.eta ((runCalls env calls).run
      (freshMachine enableLogging faultInjector outside))).symm
    exact congrArg Metrics.totalBytes hkept
  have hcomplete : (∀ pre t post, ticks es = pre ++ .timedOut t :: post →
      sessionStart es + stallWindow ≤ t →
        ∃ w, w ≤ t ∧ t < w + stallWindow ∧ WarnedBy pre t post w) ∧
      (warnings (ticks es)).IsChain fun a b => a + stallWindow ≤ b := by
    rcases commandTrace_stallRun hclock fuel m.client m.outside with
      hnone | ⟨start, flow, c, hstarted, run, hsorted⟩
    · have hnone : ticks es = [] := hnone
      rw [hnone]
      exact ⟨fun pre t post heq => by simp at heq, .nil⟩
    · have hstarted : sessionStart es = start.toNat := hstarted
      rw [hstarted] at hstart ⊢
      obtain ⟨hcovered, hspaced⟩ := run.complete hsorted hzero hstart
      exact ⟨hcovered, (List.isChain_cons.mp hspaced).2⟩
  refine ⟨hcomplete.1, hcomplete.2, fun now c hcheck => ?_⟩
  · have hle := UInt64.le_iff_toNat_le.mpr (hcheck.mark_le hclock)
    exact ⟨UInt64.toNat_sub_of_le now c.lastStallWarnUs hle, hle⟩

/-- In the first run of this client, the timeout a window after the start is warned about. -/
theorem stallComplete_firstTimeout :
    let m := session (jumpingEnv 2) false {} (scriptedStart [[timeout]] ())
      [.connect "backup" 1, .openDevices]
    ∃ w, .warned w ∈ ticks (commandTrace (jumpingEnv 2) 1 m.client m.outside) := by
  intro m
  have hticks : ticks (commandTrace (jumpingEnv 2) 1 m.client m.outside) =
      [] ++ .timedOut 60000001 :: [.warned 60000001] := by decide +kernel
  have hstart : sessionStart (commandTrace (jumpingEnv 2) 1 m.client m.outside) = 1 := by
    decide +kernel
  obtain ⟨w, -, -, hwarned⟩ := (processCommands_stallComplete (jumpingEnv 2)
    (jumpingEnv_monotone 2) false {} (scriptedStart [[timeout]] ())
    [.connect "backup" 1, .openDevices] (by simp) 1 (by rw [hstart]; decide)).1 [] 60000001
    [.warned 60000001] hticks (by rw [hstart]; decide)
  refine ⟨w, ?_⟩
  rw [hticks]
  rcases hwarned with hmem | ⟨rfl, -⟩
  · cases hmem
  · simp

end Vdi
