import VdiWrapper.TimingRecords
import VdiWrapper.Draining
import VdiWrapper.StallDetection

/-!
# Timing records tile the session

On a clock that does not go back, the readings behind the timing records are in order, so the stage
differences of a record are differences of naturals, its total is their exact sum, and the records
lie one after the other inside the session.
-/

namespace Vdi

open Runs

variable {ω σ : Type} {env : Env ω σ}

/-- What a record says in naturals: no stage wraps, the total is the exact sum of the stages, and
the timestamp is the time since the session start. -/
structure ChunkClock.Exact (clock : ChunkClock) (start : UInt64) : Prop where
  size : (clock.timing start).size = clock.cmd.size.toUInt64
  other : clock.cmd.commandCode ≠ vdcWrite → (clock.timing start).sinkUs = 0
  getcommand : (clock.timing start).getcommandUs.toNat + clock.gcStart.toNat = clock.gcEnd.toNat
  dispatch :
    (clock.timing start).dispatchUs.toNat + clock.dispatchStart.toNat = clock.dispatchEnd.toNat
  sink : ∀ times, clock.sink = some times →
    (clock.timing start).sinkUs.toNat + times.1.toNat = times.2.toNat
  complete : (clock.timing start).completeUs.toNat + clock.ccStart.toNat = clock.ccEnd.toNat
  total : (clock.timing start).totalUs.toNat =
    (clock.timing start).getcommandUs.toNat + (clock.timing start).dispatchUs.toNat +
      (clock.timing start).sinkUs.toNat + (clock.timing start).completeUs.toNat
  timestamp : (clock.timing start).timestampUs.toNat + start.toNat = clock.gcStart.toNat

/-- A difference of readings in order. -/
theorem toNat_sub_add {a b : UInt64} (h : a.toNat ≤ b.toNat) :
    (b - a).toNat + a.toNat = b.toNat := by
  rw [UInt64.toNat_sub_of_le _ _ (UInt64.le_iff_toNat_le.mpr h)]
  omega

namespace ChunkClock

variable {clock : ChunkClock} {start : UInt64} {t : Nat}

/-- The stages follow each other, none before `t`. -/
structure InOrder (clock : ChunkClock) (t : Nat) : Prop where
  begin_le : t ≤ clock.gcStart.toNat
  getcommand : clock.gcStart.toNat ≤ clock.gcEnd.toNat
  fetched : clock.gcEnd.toNat ≤ clock.dispatchStart.toNat
  dispatch : clock.dispatchStart.toNat ≤ clock.dispatchEnd.toNat
  sink : ∀ times, clock.sink = some times → clock.dispatchEnd.toNat ≤ times.1.toNat ∧
    times.1.toNat ≤ times.2.toNat ∧ times.2.toNat ≤ clock.ccStart.toNat
  stored : clock.dispatchEnd.toNat ≤ clock.ccStart.toNat
  complete : clock.ccStart.toNat ≤ clock.ccEnd.toNat

theorem inOrder_of_sorted (h : (t :: clock.readings).Pairwise (· ≤ ·)) : clock.InOrder t := by
  unfold readings at h
  cases hsink : clock.sink with
  | none =>
      rw [hsink] at h
      simp at h
      constructor
      case sink =>
        intro times htimes
        rw [hsink] at htimes
        cases htimes
      all_goals omega
  | some times =>
      rw [hsink] at h
      simp at h
      constructor
      case sink =>
        intro times' htimes
        rw [hsink] at htimes
        cases htimes
        omega
      all_goals omega

/-- The sink stage fits between dispatch and completion. -/
theorem InOrder.sinkUs_le (h : clock.InOrder t) :
    clock.sinkUs.toNat + clock.dispatchEnd.toNat ≤ clock.ccStart.toNat := by
  unfold sinkUs
  cases hs : clock.sink with
  | none =>
      have hstored := h.stored
      simpa using hstored
  | some times =>
      obtain ⟨hbefore, hduring, hafter⟩ := h.sink times hs
      have hdiff := toNat_sub_add hduring
      rw [Option.map_some, Option.getD_some]
      omega

theorem timing_totalUs : (clock.timing start).totalUs =
    clock.gcEnd - clock.gcStart + (clock.dispatchEnd - clock.dispatchStart) + clock.sinkUs +
      (clock.ccEnd - clock.ccStart) :=
  rfl

/-- The stages do not overlap, so their sum is bounded by the duration of the turn. -/
theorem InOrder.exact_le (h : clock.InOrder start.toNat) (htimed : clock.Timed) :
    clock.Exact start ∧
      (clock.timing start).totalUs.toNat + clock.gcStart.toNat ≤ clock.ccEnd.toNat := by
  have hsinkUs := h.sinkUs_le
  have hgetUs := toNat_sub_add h.getcommand
  have hdispatchUs := toNat_sub_add h.dispatch
  have hcompleteUs := toNat_sub_add h.complete
  have hfetched := h.fetched
  have hlt := clock.ccEnd.toNat_lt
  have htotal : (clock.timing start).totalUs.toNat =
      (clock.gcEnd - clock.gcStart).toNat + (clock.dispatchEnd - clock.dispatchStart).toNat +
        clock.sinkUs.toNat + (clock.ccEnd - clock.ccStart).toNat := by
    rw [timing_totalUs, UInt64.toNat_add, UInt64.toNat_add, UInt64.toNat_add]
    omega
  refine ⟨⟨rfl, ?_, hgetUs, hdispatchUs, ?_, hcompleteUs, htotal, toNat_sub_add h.begin_le⟩, ?_⟩
  · intro hcode
    have hnone : clock.sink = none := by
      unfold Timed at htimed
      simpa [hcode] using htimed
    unfold timing chunkTiming sinkUs
    rw [hnone]
    rfl
  · intro times htimes
    have hduring := toNat_sub_add (h.sink times htimes).2.1
    unfold timing chunkTiming sinkUs
    rw [htimes]
    exact hduring
  · omega

end ChunkClock

/-- The records after time `t` lie one after the other; `t` plus all their totals is at most the
last completion. -/
theorem tiles {start : UInt64} {clocks : List ChunkClock} {t : Nat} (hstart : start.toNat ≤ t)
    (hsorted : (t :: clocks.flatMap ChunkClock.readings).Pairwise (· ≤ ·))
    (htimed : ∀ clock ∈ clocks, clock.Timed) :
    (∀ clock ∈ clocks, clock.Exact start ∧ t ≤ clock.gcStart.toNat) ∧
      (clocks.map fun clock => clock.timing start).Pairwise (fun r r' =>
        r.timestampUs.toNat + r.totalUs.toNat ≤ r'.timestampUs.toNat) ∧
      ∀ last, clocks.getLast? = some last →
        t + (clocks.map fun clock => (clock.timing start).totalUs.toNat).sum ≤
          last.ccEnd.toNat := by
  induction clocks generalizing t with
  | nil => exact ⟨by simp, .nil, by simp⟩
  | cons clock clocks ih =>
      have hhead : (t :: clock.readings).Pairwise (· ≤ ·) := by
        apply List.Pairwise.sublist _ hsorted
        apply List.Sublist.cons_cons
        rw [List.flatMap_cons]
        exact List.sublist_append_left _ _
      have horder := ChunkClock.inOrder_of_sorted hhead
      have hbegin := horder.begin_le
      obtain ⟨hexact, htotal⟩ := ChunkClock.InOrder.exact_le
        { horder with begin_le := hstart.trans hbegin } (htimed clock List.mem_cons_self)
      have hrest : (clock.ccEnd.toNat :: clocks.flatMap ChunkClock.readings).Pairwise (· ≤ ·) := by
        apply List.Pairwise.sublist _ hsorted
        apply List.Sublist.cons
        rw [List.flatMap_cons, ← List.singleton_append]
        apply List.Sublist.append _ (List.Sublist.refl _)
        apply List.singleton_sublist.mpr
        simp [ChunkClock.readings]
      have hend : t ≤ clock.ccEnd.toNat := by omega
      obtain ⟨hall, hpairs, hsum⟩ := ih (hstart.trans hend) hrest
        fun clock hc => htimed clock (List.mem_cons_of_mem _ hc)
      have htimestamp := hexact.timestamp
      refine ⟨?_, ?_, ?_⟩
      · intro clock' hc
        rcases List.mem_cons.mp hc with hc | hc
        · rw [hc]
          exact ⟨hexact, hbegin⟩
        · obtain ⟨hexact', hafter⟩ := hall clock' hc
          exact ⟨hexact', hend.trans hafter⟩
      · rw [List.map_cons]
        refine List.pairwise_cons.mpr ⟨fun r hr => ?_, hpairs⟩
        obtain ⟨clock', hc, rfl⟩ := List.mem_map.mp hr
        obtain ⟨hexact', hafter⟩ := hall clock' hc
        have htimestamp' := hexact'.timestamp
        omega
      · intro last hlast
        rw [List.map_cons, List.sum_cons]
        cases clocks with
        | nil =>
            cases hlast
            simp
            omega
        | cons clock₂ rest =>
            rw [List.getLast?_cons_cons] at hlast
            have hbound := hsum last hlast
            omega

/-- Whatever was read in the session was read after its start. -/
theorem sessionStart_sorted {es : List Event} {times : List Nat}
    (hsorted : (readings es).Pairwise (· ≤ ·)) (hsub : times.Sublist (readings es)) :
    (sessionStart es :: times).Pairwise (· ≤ ·) := by
  apply List.pairwise_cons.mpr
  refine ⟨fun t ht => ?_, List.Pairwise.sublist hsub hsorted⟩
  have hmem : t ∈ readings es := hsub.subset ht
  unfold sessionStart
  cases hreadings : readings es with
  | nil =>
      rw [hreadings] at hmem
      cases hmem
  | cons first rest =>
      rw [hreadings] at hmem hsorted
      rcases List.mem_cons.mp hmem with h | h
      · rw [h]
        exact Nat.le_refl _
      · exact (List.pairwise_cons.mp hsorted).1 t h

/-- **Timing records tile the session.**  With the fault injector idle, a server that leaves
completed structures alone and a clock that does not go back, a call appends one record for each
successful completion, in order; each record is exact; the records lie one after the other; and
their totals add up to at most the time from the session start to the last completion. -/
theorem processCommands_timings_tile (env : Env ω σ) (hback : env.com.HandsBack)
    (hclock : env.ClockMonotone) (fuel : Nat) (client : Client)
    (hidle : client.faultInjector.Idle) (outside : Outside ω σ) :
    ∃ (start : UInt64) (clocks : List ChunkClock),
      sessionStart (commandTrace env fuel client outside) = start.toNat ∧
      Recorded (commandTrace env fuel client outside) clocks ∧
      completedCommands (commandTrace env fuel client outside) = clocks.map ChunkClock.cmd ∧
      (runCommands env fuel client outside).2.client.metrics.timings =
        client.metrics.timings ++ clocks.map (fun clock => clock.timing start) ∧
      (∀ clock ∈ clocks, clock.Exact start) ∧
      (clocks.map fun clock => clock.timing start).Pairwise (fun r r' =>
        r.timestampUs.toNat + r.totalUs.toNat ≤ r'.timestampUs.toNat) ∧
      ∀ last, clocks.getLast? = some last →
        start.toNat + (clocks.map fun clock => (clock.timing start).totalUs.toNat).sum ≤
          last.ccEnd.toNat := by
  obtain ⟨es, htrace, run⟩ := processCommands_commandRun
    (Prod.eta (runCommands env fuel client outside)).symm
  rw [List.nil_append] at htrace
  obtain ⟨start, hstart, hkeeps⟩ := run.recordsKept hidle
  rw [← htrace] at hstart hkeeps
  obtain ⟨clocks, later, hrecorded, htimings, hunsized⟩ := hkeeps.records
  have hcommands := hrecorded.commands
  -- the sizes were read after completion, but nobody had touched them
  have hkept : SizesKept client.metrics.timings (runCommands env fuel client outside).2 :=
    processCommands_sizesKept hback ⟨hidle, [], (List.append_nil _).symm, rfl⟩
  obtain ⟨later', htimings', hsizes⟩ := hkept.sizes
  have hlater : later' = later := List.append_cancel_left (htimings'.symm.trans htimings)
  rw [hlater] at hsizes
  have hrecords : later = clocks.map fun clock => clock.timing start := by
    apply timings_eq_of_unsized
    · rw [hunsized, List.map_map]
      rfl
    · have hcompleted : completedCommands (runCommands env fuel client outside).2.trace =
          clocks.map ChunkClock.cmd := hcommands
      rw [hsizes, hcompleted, List.map_map, List.map_map]
      rfl
  have hsorted : (start.toNat :: clocks.flatMap ChunkClock.readings).Pairwise (· ≤ ·) := by
    rw [← hstart]
    exact sessionStart_sorted (commandTrace_sorted hclock fuel client outside)
      hrecorded.readings_sublist
  obtain ⟨hexact, hpairs, hsum⟩ := tiles (Nat.le_refl _) hsorted hrecorded.timed
  refine ⟨start, clocks, hstart, hrecorded, hcommands, ?_, ?_, hpairs, hsum⟩
  · rw [← hrecords]
    exact htimings
  · intro clock hc
    exact (hexact clock hc).1

/-- The second device stores a byte between two flushes of the first. -/
def interleavedScripts : List (List Answer) :=
  [[deliver (bareCommand vdcFlush), deliver (bareCommand vdcFlush)], [deliver (oneByte 7), timeout]]

/-- Three records of two devices, one after the other. -/
theorem processCommands_timings_tile_interleaved :
    ∃ (start : UInt64) (clocks : List ChunkClock),
      clocks.map (fun clock => clock.cmd.commandCode) = [vdcFlush, vdcWrite, vdcFlush] ∧
      (clocks.map fun clock => clock.timing start).Pairwise (fun r r' =>
        r.timestampUs.toNat + r.totalUs.toNat ≤ r'.timestampUs.toNat) := by
  have hcompleted : (completedCommands (commandTrace (jumpingEnv 12) 4 twoDeviceClient
      (scriptedStart interleavedScripts ()))).map VdcCommand.commandCode =
      [vdcFlush, vdcWrite, vdcFlush] := by
    decide +kernel
  have hdisabled : twoDeviceClient.faultInjector.enabled = false := by decide +kernel
  obtain ⟨start, clocks, -, -, hcommands, -, -, hpairs, -⟩ := processCommands_timings_tile
    (jumpingEnv 12) (fun _ _ _ _ _ _ => rfl) (jumpingEnv_monotone 12) 4 twoDeviceClient
    (FaultInjector.idle_of_disabled _ hdisabled) (scriptedStart interleavedScripts ())
  rw [hcommands, List.map_map] at hcompleted
  exact ⟨start, clocks, hcompleted, hpairs⟩

end Vdi
