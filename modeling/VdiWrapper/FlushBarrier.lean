import VdiWrapper.DataLoss
import VdiWrapper.Lifecycle

/-!
# `VDC_Flush` as a barrier

`dispatch_command` leaves `VDC_Flush` to the command loop, and the loop completes it without
calling `sink->flush()`: the sink is only flushed when the stream ends or the client is closed, and
then the session is over.  A `VDC_Flush` is therefore a barrier exactly as long as there is nothing
to flush: nothing was written before it, in this call of `process_commands` or an earlier one, and
the client was not given a `FileSink` that already held bytes back.
-/

namespace Vdi

open Runs

variable {ω σ : Type}

/-- `CompleteCommand` is called for a `VDC_Flush`. -/
def Event.CompletesFlush : Event → Prop
  | .completeCommand _ cmd _ _ _ _ => cmd.commandCode = vdcFlush
  | _ => False

/-- The sink is flushed between its last write and the completion of a `VDC_Flush`. -/
def FlushBarrier (es : List Event) : Prop :=
  Always (fun pre e => e.CompletesFlush → FlushedSinceWrite pre) es

/-- The answer of `GetCommand` delivers a command with the code `code`. -/
def Delivers (code : UInt32) (answer : HResult × Option VdcCommand) : Prop :=
  failed answer.1 = false ∧ ∃ cmd ∈ answer.2, cmd.commandCode = code

instance {code : UInt32} {answer : HResult × Option VdcCommand} :
    Decidable (Delivers code answer) :=
  inferInstanceAs (Decidable (_ ∧ _))

/-- No `VDC_Flush` is delivered after a `VDC_Write`. -/
def FlushesFirst (answers : List (HResult × Option VdcCommand)) : Prop :=
  answers.Pairwise fun a b => Delivers vdcWrite a → ¬ Delivers vdcFlush b

instance : DecidablePred FlushesFirst := fun answers =>
  inferInstanceAs (Decidable (answers.Pairwise _))

/-- The trace holds a call of `sink->write`. -/
def Writes (es : List Event) : Prop := ∃ cmd ok, .sinkWrite cmd ok ∈ es

theorem Writes.append_iff {es es' : List Event} : Writes (es ++ es') ↔ Writes es ∨ Writes es' := by
  simp only [Writes, List.mem_append, exists_or]

theorem not_delivers_of_failed {code : UInt32} {hr : HResult} {cmd : Option VdcCommand}
    (h : failed hr = true) : ¬ Delivers code (hr, cmd) := fun hdelivers => by
  have hok := hdelivers.1
  rw [h] at hok
  cases hok

theorem delivers_some_iff {code : UInt32} {hr : HResult} {cmd : VdcCommand}
    (h : failed hr = false) : Delivers code (hr, some cmd) ↔ cmd.commandCode = code := by
  simp [Delivers, h]

/-! ## Stretches of a trace -/

/-- At the completion of a `VDC_Flush` there was no write. -/
def UnwrittenAtFlush (pre : List Event) (e : Event) : Prop :=
  e.CompletesFlush → ¬ Writes pre

/-- A chunk that is acknowledged was written. -/
def WrittenAtAcknowledgement (pre : List Event) (e : Event) : Prop :=
  ∀ cmd, acknowledgement e = some cmd → Writes pre

/-- The writes and the completed `VDC_Flush`es of a stretch are those `GetCommand` delivered in it,
and the sink is not flushed before a `VDC_Flush` is completed. -/
structure Ordered (es : List Event) : Prop where
  barrier : Always UnwrittenAtFlush es ↔ FlushesFirst (pollAnswers es)
  flush : (∃ e ∈ es, e.CompletesFlush) ↔ ∃ a ∈ pollAnswers es, Delivers vdcFlush a
  writes : Writes es → ∃ a ∈ pollAnswers es, Delivers vdcWrite a
  unflushed : Always (fun pre e => e.CompletesFlush → .sinkFlush ∉ pre) es
  acks : Always WrittenAtAcknowledgement es

/-- After the stretch commands may follow: what was delivered for the sink was written to it, and
it was not flushed. -/
structure StillOpen (es : List Event) : Prop where
  written : (∃ a ∈ pollAnswers es, Delivers vdcWrite a) → Writes es
  unflushed : .sinkFlush ∉ es

theorem StillOpen.append {es es' : List Event} (h : StillOpen es) (h' : StillOpen es') :
    StillOpen (es ++ es') := by
  refine ⟨fun ⟨a, ha, hwrite⟩ => Writes.append_iff.mpr ?_, by simp [h.unflushed, h'.unflushed]⟩
  rw [pollAnswers_append] at ha
  exact (List.mem_append.mp ha).imp (fun ha => h.written ⟨a, ha, hwrite⟩)
    fun ha => h'.written ⟨a, ha, hwrite⟩

theorem WrittenAtAcknowledgement.append {es es' : List Event}
    (h : Always WrittenAtAcknowledgement es) (h' : Always WrittenAtAcknowledgement es') :
    Always WrittenAtAcknowledgement (es ++ es') :=
  always_append.mpr ⟨h, h'.imp fun _ _ _ hwritten cmd hcmd =>
    Writes.append_iff.mpr (.inr (hwritten cmd hcmd))⟩

/-- A stretch that acknowledges nothing. -/
theorem WrittenAtAcknowledgement.of_none {es : List Event}
    (h : ∀ e ∈ es, acknowledgement e = none) : Always WrittenAtAcknowledgement es :=
  always_of_forall fun _ e he cmd hcmd => by simp [h e he] at hcmd

/-- A stretch that completes no `VDC_Flush`. -/
theorem always_of_noFlush {es : List Event} {P : List Event → Prop}
    (h : ∀ e ∈ es, ¬ e.CompletesFlush) : Always (fun pre e => e.CompletesFlush → P pre) es :=
  always_of_forall fun _ e he hcompletes => absurd hcompletes (h e he)

/-- With `es` before it, a stretch has its completions of a `VDC_Flush` before all writes exactly
if that is so within it, and it has none at all in case `es` wrote. -/
theorem always_unwritten_after {es es' : List Event} :
    Always (fun pre => UnwrittenAtFlush (es ++ pre)) es' ↔
      Always UnwrittenAtFlush es' ∧ (Writes es → ¬ ∃ e ∈ es', e.CompletesFlush) := by
  constructor
  · intro h
    refine ⟨h.imp fun _ _ _ hno hcompletes hwrites =>
      hno hcompletes (Writes.append_iff.mpr (.inr hwrites)), ?_⟩
    rintro hwrites ⟨e, he, hcompletes⟩
    obtain ⟨pre, post, rfl⟩ := List.append_of_mem he
    exact h pre e post rfl hcompletes (Writes.append_iff.mpr (.inl hwrites))
  · intro hboth pre e post heq hcompletes hwrites
    obtain ⟨h, hnone⟩ := hboth
    rcases Writes.append_iff.mp hwrites with hwrites | hwrites
    · exact hnone hwrites ⟨e, by simp [heq], hcompletes⟩
    · exact h pre e post heq hcompletes hwrites

theorem Ordered.append {es es' : List Event} (h : Ordered es) (hopen : StillOpen es)
    (h' : Ordered es') : Ordered (es ++ es') := by
  have hdelivered : Writes es ↔ ∃ a ∈ pollAnswers es, Delivers vdcWrite a :=
    ⟨h.writes, hopen.written⟩
  refine ⟨?_, ?_, ?_, always_append.mpr ⟨h.unflushed, ?_⟩, .append h.acks h'.acks⟩
  · rw [always_append, always_unwritten_after, h.barrier, h'.barrier, h'.flush, hdelivered,
      pollAnswers_append, FlushesFirst, FlushesFirst, FlushesFirst, List.pairwise_append]
    refine and_congr_right fun _ => and_congr_right fun _ => ?_
    exact ⟨fun hnone a ha b hb hwrite hflush => hnone ⟨a, ha, hwrite⟩ ⟨b, hb, hflush⟩,
      fun hall ⟨a, ha, hwrite⟩ ⟨b, hb, hflush⟩ => hall a ha b hb hwrite hflush⟩
  · simp only [pollAnswers_append, List.mem_append, or_and_right, exists_or, h.flush, h'.flush]
  · simp only [pollAnswers_append, List.mem_append, or_and_right, exists_or, Writes.append_iff]
    exact Or.imp h.writes h'.writes
  · exact h'.unflushed.imp fun pre e _ hno hcompletes hmem =>
      (List.mem_append.mp hmem).elim hopen.unflushed (hno hcompletes)

/-- An event that neither polls, nor writes, nor completes. -/
@[simp] def Event.Aside : Event → Prop
  | .getCommand .. | .sinkWrite .. | .completeCommand .. => False
  | _ => True

theorem Event.AroundLoop.aside {e : Event} (h : e.AroundLoop) : e.Aside := by
  cases e <;> first | exact h.elim | trivial

theorem Event.WindsDown.aside {e : Event} (h : e.WindsDown) : e.Aside := by
  cases e <;> first | exact h.elim | trivial

/-- What a stretch aside from all commands has none of. -/
theorem none_of_aside {es : List Event} (h : ∀ e ∈ es, e.Aside) :
    pollAnswers es = [] ∧ ¬ Writes es ∧ (∀ e ∈ es, ¬ e.CompletesFlush) ∧
      ∀ e ∈ es, acknowledgement e = none := by
  refine ⟨pollAnswers_eq_nil fun e he => ?_, fun ⟨cmd, ok, hmem⟩ => h _ hmem, fun e he => ?_,
    fun e he => ?_⟩
  all_goals
    have haside := h e he
    cases e <;> first | exact haside.elim | trivial | exact id

/-- Such a stretch may follow even a session that is over. -/
theorem Ordered.append_aside {es es' : List Event} (h : Ordered es) (h' : ∀ e ∈ es', e.Aside) :
    Ordered (es ++ es') := by
  obtain ⟨hpolls, hwrites, hflush, hacknowledged⟩ := none_of_aside h'
  have hnone : ¬ ∃ e ∈ es', e.CompletesFlush := fun ⟨e, he, hcompletes⟩ => hflush e he hcompletes
  have hpolls' : pollAnswers (es ++ es') = pollAnswers es := by
    rw [pollAnswers_append, hpolls, List.append_nil]
  refine ⟨?_, ?_, ?_, ?_, .append h.acks ?_⟩
  · rw [hpolls', ← h.barrier, always_append]
    exact and_iff_left (always_of_noFlush hflush)
  · rw [hpolls', ← h.flush]
    simp only [List.mem_append, or_and_right, exists_or, or_iff_left hnone]
  · rw [hpolls', Writes.append_iff, or_iff_left hwrites]
    exact h.writes
  · exact always_append.mpr ⟨h.unflushed, always_of_noFlush hflush⟩
  · exact .of_none hacknowledged

theorem ordered_nil : Ordered [] :=
  ⟨by simp [FlushesFirst, pollAnswers], by simp [pollAnswers], by simp [Writes], by simp, by simp⟩

theorem stillOpen_nil : StillOpen [] := ⟨by simp [pollAnswers], by simp⟩

theorem ordered_of_aside {es : List Event} (h : ∀ e ∈ es, e.Aside) : Ordered es :=
  ordered_nil.append_aside h

theorem stillOpen_of_aside {es : List Event} (h : ∀ e ∈ es, e.Aside ∧ e ≠ .sinkFlush) :
    StillOpen es := by
  have hpolls := (none_of_aside fun e he => (h e he).1).1
  exact ⟨by simp [hpolls], fun hmem => (h _ hmem).2 rfl⟩

/-- On an ordered stretch the barrier stands exactly if no `VDC_Flush` is completed after a write:
nothing else would have flushed the sink in between. -/
theorem Ordered.flushBarrier_iff {es : List Event} (h : Ordered es) :
    FlushBarrier es ↔ FlushesFirst (pollAnswers es) := by
  rw [← h.barrier]
  constructor
  · intro hbarrier pre e post heq hcompletes hwrites
    obtain ⟨cmd, ok, hmem⟩ := hwrites
    obtain ⟨before, after, rfl⟩ := List.append_of_mem hmem
    have hflush : .sinkFlush ∈ after := hbarrier _ e post heq hcompletes before cmd ok after rfl
    exact h.unflushed _ e post heq hcompletes (by simp [hflush])
  · exact fun hunwritten => hunwritten.imp fun pre e _ hno hcompletes _ cmd ok _ heq =>
      absurd ⟨cmd, ok, by simp [heq]⟩ (hno hcompletes)

/-- Without a write nothing is acknowledged. -/
theorem Ordered.acknowledged_eq_nil {es pre post : List Event} (h : Ordered es)
    (heq : es = pre ++ post) (hno : ¬ Writes pre) : acknowledged pre = [] := by
  apply List.filterMap_eq_nil_iff.mpr
  intro e he
  obtain ⟨before, after, rfl⟩ := List.append_of_mem he
  by_contra hsome
  obtain ⟨cmd, hcmd⟩ := Option.ne_none_iff_exists'.mp hsome
  have hwrites := h.acks before e (after ++ post) (by simp [heq]) cmd hcmd
  exact hno (Writes.append_iff.mpr (.inl hwrites))

/-! ## One turn -/

/-- What a turn says about the barrier, by what `GetCommand` answered. -/
structure TurnOrder (es : List Event) (answer : HResult × Option VdcCommand) : Prop where
  polled : pollAnswers es = [answer]
  flush : (∃ e ∈ es, e.CompletesFlush) ↔ Delivers vdcFlush answer
  writes : Writes es → Delivers vdcWrite answer
  unflushed : Always (fun pre e => e.CompletesFlush → .sinkFlush ∉ pre) es
  acks : Always WrittenAtAcknowledgement es

/-- No command is a `VDC_Write` and a `VDC_Flush`. -/
theorem Delivers.not_flush {answer : HResult × Option VdcCommand}
    (h : Delivers vdcWrite answer) : ¬ Delivers vdcFlush answer := by
  rintro ⟨-, cmd', hcmd', hcode'⟩
  obtain ⟨-, cmd, hcmd, hcode⟩ := h
  rw [hcmd] at hcmd'
  cases hcmd'
  rw [hcode] at hcode'
  exact absurd hcode' (by decide)

theorem TurnOrder.ordered {es : List Event} {answer : HResult × Option VdcCommand}
    (h : TurnOrder es answer) : Ordered es := by
  have hbarrier : Always UnwrittenAtFlush es := by
    rintro pre e post rfl hcompletes hwrites
    have hwrite := h.writes (Writes.append_iff.mpr (.inl hwrites))
    exact hwrite.not_flush (h.flush.mp ⟨e, by simp, hcompletes⟩)
  refine ⟨?_, ?_, ?_, h.unflushed, h.acks⟩
  · exact iff_of_true hbarrier (by simp [h.polled, FlushesFirst])
  · simpa [h.polled] using h.flush
  · simpa [h.polled] using h.writes

theorem TurnOrder.stillOpen {es : List Event} {answer : HResult × Option VdcCommand}
    (h : TurnOrder es answer) (hwritten : Delivers vdcWrite answer → Writes es)
    (hflush : .sinkFlush ∉ es) : StillOpen es :=
  ⟨by simpa [h.polled] using hwritten, hflush⟩

/-- A turn that neither writes nor completes anything. -/
theorem turnOrder_of_aside {device : Device} {timeout : UInt32} {hr : HResult}
    {cmd : Option VdcCommand} {t₀ t₁ : UInt64} {es : List Event} (h : ∀ e ∈ es, e.Aside)
    (hflush : ¬ Delivers vdcFlush (hr, cmd)) :
    TurnOrder (fetched device timeout hr cmd t₀ t₁ ++ es) (hr, cmd) := by
  obtain ⟨hpolls, hwrites, hno, hacknowledged⟩ := none_of_aside h
  have hnone : ∀ e ∈ fetched device timeout hr cmd t₀ t₁ ++ es, ¬ e.CompletesFlush :=
    List.forall_mem_append.mpr ⟨by simp [fetched, Event.CompletesFlush], hno⟩
  have hfetched : ¬ Writes (fetched device timeout hr cmd t₀ t₁) := by simp [Writes, fetched]
  refine ⟨by rw [pollAnswers_append, hpolls]; rfl, iff_of_false ?_ hflush, fun hwritten => ?_,
    always_of_noFlush hnone, .of_none (List.forall_mem_append.mpr ⟨?_, hacknowledged⟩)⟩
  · exact fun ⟨e, he, hcompletes⟩ => hnone e he hcompletes
  · exact ((Writes.append_iff.mp hwritten).elim hfetched hwrites).elim
  · simp [fetched, acknowledgement]

/-- Such a turn leaves the session open unless it flushed the sink. -/
theorem quiet_turn {device : Device} {timeout : UInt32} {hr : HResult}
    {cmd : Option VdcCommand} {t₀ t₁ : UInt64} {es : List Event}
    (h : ∀ e ∈ es, e.Aside ∧ e ≠ .sinkFlush) (hwrite : ¬ Delivers vdcWrite (hr, cmd))
    (hflush : ¬ Delivers vdcFlush (hr, cmd)) :
    Ordered (fetched device timeout hr cmd t₀ t₁ ++ es) ∧
      StillOpen (fetched device timeout hr cmd t₀ t₁ ++ es) := by
  have horder : TurnOrder (fetched device timeout hr cmd t₀ t₁ ++ es) (hr, cmd) :=
    turnOrder_of_aside (fun e he => (h e he).1) hflush
  refine ⟨horder.ordered, horder.stillOpen (absurd · hwrite) fun hmem => ?_⟩
  rcases List.mem_append.mp hmem with hmem | hmem
  · simp [fetched] at hmem
  · exact (h _ hmem).2 rfl

theorem failure_aside (line : LogLine) (c : Client) :
    ∀ e ∈ failure line c, e.Aside ∧ e ≠ .sinkFlush := by
  simp [failure]

theorem StallCheck.aside {now : UInt64} {c c' : Client} {es : List Event}
    (h : StallCheck now c es c') : ∀ e ∈ es, e.Aside ∧ e ≠ .sinkFlush := by
  cases h <;> simp

theorem delivered_order (device : Device) (timeout : UInt32) (hr : HResult) (cmd : VdcCommand)
    (t₀ t₁ t₂ t₃ : UInt64) :
    pollAnswers (delivered device timeout hr cmd t₀ t₁ t₂ t₃) = [(hr, some cmd)] ∧
      (∀ e ∈ delivered device timeout hr cmd t₀ t₁ t₂ t₃,
        ¬ e.CompletesFlush ∧ acknowledgement e = none) ∧
      ¬ Writes (delivered device timeout hr cmd t₀ t₁ t₂ t₃) ∧
      .sinkFlush ∉ delivered device timeout hr cmd t₀ t₁ t₂ t₃ := by
  refine ⟨rfl, ?_⟩
  simp [delivered, fetched, Event.CompletesFlush, Writes, acknowledgement]

/-- A `VDC_Write` that was refused may have been offered to the sink; nothing was completed. -/
theorem Refused.order {cmd : VdcCommand} {c c' : Client} {es : List Event}
    (h : Refused cmd c es c') :
    pollAnswers es = [] ∧ (∀ e ∈ es, ¬ e.CompletesFlush ∧ acknowledgement e = none) ∧
      cmd.commandCode = vdcWrite := by
  refine ⟨pollAnswers_eq_nil h.noPoll, ?_, by cases h <;> assumption⟩
  cases h <;> simp [failure, Event.CompletesFlush, acknowledgement]

theorem Stored.order {cmd : VdcCommand} {c c' : Client} {es : List Event} {sinkUs : UInt64}
    (h : Stored cmd c es sinkUs c') :
    (∀ e ∈ es, ¬ e.CompletesFlush ∧ acknowledgement e = none) ∧
      (Writes es ↔ cmd.commandCode = vdcWrite) ∧ .sinkFlush ∉ es := by
  cases h with
  | other hcode => simp [Writes, hcode]
  | written hcode => simp [Writes, hcode, Event.CompletesFlush, acknowledgement]

theorem Completed.order {device : Device} {cmd : VdcCommand} {times : StageTimes} {c c' : Client}
    {es : List Event} {flow : Flow} (h : Completed device cmd times c es flow c') :
    ((∃ e ∈ es, e.CompletesFlush) ↔ cmd.commandCode = vdcFlush) ∧
      (∀ e ∈ es, ∀ cmd', acknowledgement e = some cmd' → cmd.commandCode = vdcWrite) ∧
      ¬ Writes es ∧ .sinkFlush ∉ es := by
  cases h <;> simp +contextual [failure, Event.CompletesFlush, Writes, acknowledgement]

/-- A chunk that is refused. -/
theorem refused_turnOrder {device : Device} {timeout : UInt32} {hr : HResult} {cmd : VdcCommand}
    {c c' : Client} {es : List Event} {t₀ t₁ t₂ t₃ : UInt64} (hhr : Vdi.failed hr = false)
    (refused : Refused cmd c es c') :
    TurnOrder (delivered device timeout hr cmd t₀ t₁ t₂ t₃ ++ es) (hr, some cmd) := by
  obtain ⟨hpoll, hfetch, -, -⟩ := delivered_order device timeout hr cmd t₀ t₁ t₂ t₃
  obtain ⟨hpolls, hrefused, hcode⟩ := refused.order
  have hnone : ∀ e ∈ delivered device timeout hr cmd t₀ t₁ t₂ t₃ ++ es,
      ¬ e.CompletesFlush ∧ acknowledgement e = none :=
    List.forall_mem_append.mpr ⟨hfetch, hrefused⟩
  have hwrite : Delivers vdcWrite (hr, some cmd) := (delivers_some_iff hhr).mpr hcode
  refine ⟨by rw [pollAnswers_append, hpoll, hpolls]; rfl, iff_of_false ?_ hwrite.not_flush,
    fun _ => hwrite, always_of_noFlush fun e he => (hnone e he).1,
    .of_none fun e he => (hnone e he).2⟩
  exact fun ⟨e, he, hcompletes⟩ => (hnone e he).1 hcompletes

/-- A delivered command that is stored and completed. -/
theorem served_turnOrder {start : UInt64} {device : Device} {timeout : UInt32} {hr : HResult}
    {cmd : VdcCommand} {c c₁ c' : Client} {es₁ es₂ : List Event} {sinkUs gcUs dispatchUs : UInt64}
    {flow : Flow} {t₀ t₁ t₂ t₃ : UInt64} (hhr : Vdi.failed hr = false)
    (stored : Stored cmd c es₁ sinkUs c₁)
    (completed : Completed device cmd
      { sessionStartUs := start, gcStart := t₀, gcUs, dispatchUs, sinkUs } c₁ es₂ flow c') :
    TurnOrder (delivered device timeout hr cmd t₀ t₁ t₂ t₃ ++ es₁ ++ es₂) (hr, some cmd) ∧
      StillOpen (delivered device timeout hr cmd t₀ t₁ t₂ t₃ ++ es₁ ++ es₂) := by
  obtain ⟨hpoll, hfetch, hfetchWrites, hfetchFlush⟩ :=
    delivered_order device timeout hr cmd t₀ t₁ t₂ t₃
  obtain ⟨hstored, hstoredWrites, hstoredFlush⟩ := stored.order
  obtain ⟨hcompleted, hcompletedAcks, hcompletedWrites, hcompletedFlush⟩ := completed.order
  have hfront : ∀ e ∈ delivered device timeout hr cmd t₀ t₁ t₂ t₃ ++ es₁,
      ¬ e.CompletesFlush ∧ acknowledgement e = none :=
    List.forall_mem_append.mpr ⟨hfetch, hstored⟩
  have hflush : .sinkFlush ∉ delivered device timeout hr cmd t₀ t₁ t₂ t₃ ++ es₁ ++ es₂ := by
    simp [hfetchFlush, hstoredFlush, hcompletedFlush]
  have hwrites : Writes (delivered device timeout hr cmd t₀ t₁ t₂ t₃ ++ es₁ ++ es₂) ↔
      Delivers vdcWrite (hr, some cmd) := by
    rw [delivers_some_iff hhr, Writes.append_iff, Writes.append_iff, ← hstoredWrites]
    simp [hfetchWrites, hcompletedWrites]
  have horder : TurnOrder (delivered device timeout hr cmd t₀ t₁ t₂ t₃ ++ es₁ ++ es₂)
      (hr, some cmd) := by
    refine ⟨?_, ?_, hwrites.mp, fun pre e post heq _ hmem => hflush (by simp [heq, hmem]),
      always_append.mpr ⟨.of_none fun e he => (hfront e he).2, ?_⟩⟩
    · rw [pollAnswers_append, pollAnswers_append, hpoll, pollAnswers_eq_nil stored.noPoll,
        pollAnswers_eq_nil completed.noPoll]
      rfl
    · rw [delivers_some_iff hhr, ← hcompleted]
      constructor
      · rintro ⟨e, he, hcompletes⟩
        rcases List.mem_append.mp he with he | he
        · exact absurd hcompletes (hfront e he).1
        · exact ⟨e, he, hcompletes⟩
      · exact fun ⟨e, he, hcompletes⟩ => ⟨e, List.mem_append_right _ he, hcompletes⟩
    · refine always_of_forall fun pre e he cmd' hcmd => Writes.append_iff.mpr (.inl ?_)
      have hcode := hcompletedAcks e he cmd' hcmd
      exact Writes.append_iff.mpr (.inr (hstoredWrites.mpr hcode))
  exact ⟨horder, horder.stillOpen hwrites.mpr hflush⟩

/-- A turn is ordered, and commands may follow it unless it failed or ended the stream. -/
theorem Iteration.ordered {start : UInt64} {device : Device} {c c' : Client} {es : List Event}
    {flow : Flow} (h : Iteration start device c es flow c') :
    Ordered es ∧ (c'.state = .streaming → StillOpen es) := by
  cases h with
  | closed t₀ t₁ hr cmd hhr =>
      have hfailed : Vdi.failed hr = true := EndsStream.failed hhr
      exact ⟨(turnOrder_of_aside (by simp) (not_delivers_of_failed hfailed)).ordered,
        SessionState.noConfusion⟩
  | timedOut t₀ t₁ cmd check =>
      have hevents : ∀ e ∈ Event.log (.getCommandTimedOut c.commandTimeoutMs) :: _,
          e.Aside ∧ e ≠ .sinkFlush := List.forall_mem_cons.mpr ⟨by simp, check.aside⟩
      exact (quiet_turn hevents (not_delivers_of_failed failed_vdETimeout)
        (not_delivers_of_failed failed_vdETimeout)).imp_right fun hopen _ => hopen
  | failed t₀ t₁ hr cmd hhr hclose heof htimeout =>
      exact (quiet_turn (failure_aside _ _) (not_delivers_of_failed hhr)
        (not_delivers_of_failed hhr)).imp_right fun hopen _ => hopen
  | null t₀ t₁ hr hhr =>
      exact (quiet_turn (by simp) (by simp [Delivers]) (by simp [Delivers])).imp_right
        fun hopen _ => hopen
  | closeCommand t₀ t₁ t₂ t₃ hr cmd hhr hcode =>
      have hother : ∀ code, vdcClose ≠ code → ¬ Delivers code (hr, some cmd) := by
        intro code hne
        rw [delivers_some_iff hhr, hcode]
        exact hne
      exact (quiet_turn (by simp) (hother _ (by decide)) (hother _ (by decide))).imp_right
        fun hopen _ => hopen
  | refused t₀ t₁ t₂ t₃ hr cmd hhr refused =>
      refine ⟨(refused_turnOrder hhr refused).ordered, fun hstreaming => ?_⟩
      rw [refused.state_session.1] at hstreaming
      cases hstreaming
  | served t₀ t₁ t₂ t₃ hr cmd hhr hcode stored completed =>
      obtain ⟨horder, hopen⟩ := served_turnOrder hhr stored completed
      exact ⟨horder.ordered, fun _ => hopen⟩

/-! ## The loop and the call -/

/-- Any number of turns. -/
theorem LoopRun.ordered {start : UInt64} {devices : List Device} {c c' : Client} {k : Nat}
    {es : List Event} {flow : Flow} (h : LoopRun start devices c k es flow c')
    (hstate : c.state = .streaming) : Ordered es ∧ (c'.state = .streaming → StillOpen es) := by
  induction h with
  | start => exact ⟨ordered_nil, fun _ => stillOpen_nil⟩
  | turn before served turn ih =>
      obtain ⟨hordered, hopen⟩ := ih
      obtain ⟨hturn, hturnOpen⟩ := turn.ordered
      have hfront := hopen (before.state_of_next.trans hstate)
      exact ⟨hordered.append hfront hturn, fun hstreaming => hfront.append (hturnOpen hstreaming)⟩

theorem opening_aside {ds : DeviceSet} {name : String} {opened : List (HResult × Device)}
    {start : UInt64} : ∀ e ∈ opening ds name opened ++ [.nowUs start],
      e.Aside ∧ e ≠ .sinkFlush := by
  intro e he
  rcases List.mem_append.mp he with he | he
  · obtain ⟨p, -, rfl⟩ := List.mem_map.mp he
    simp
  · rw [List.mem_singleton.mp he]
    simp

/-- After a loop that left the session streaming, only the devices are released. -/
theorem finishing_of_streaming {devices : List Device} {c : Client} (h : c.state = .streaming) :
    ∀ e ∈ finishing devices c, e.Aside ∧ e ≠ .sinkFlush := by
  simp +contextual [finishing, h, or_imp, forall_and]

/-- A call of `process_commands` is ordered, and unless it ends the session commands may follow. -/
theorem CommandRun.ordered {c c' : Client} {es : List Event} {returned : Bool}
    (h : CommandRun c es returned c') (hlife : Lifecycle c) :
    Ordered es ∧ (Over c' ∨ StillOpen es) := by
  have hlife' : Lifecycle c' := (h.lawful hlife).lifecycle
  cases h with
  | wrongState | noDeviceSet =>
      refine ⟨ordered_of_aside ?_, .inr (stillOpen_of_aside ?_)⟩ <;> simp
  | openFailed hstate hset hopened hcount hhr =>
      refine ⟨ordered_of_aside (List.forall_mem_append.mpr ⟨fun e he => ?_, by simp [failure]⟩),
        .inl (.inl rfl)⟩
      exact (opening_aroundLoop e he).aside
  | @serving ds opened start k es c' hstate hset hopened hcount run =>
      obtain ⟨hordered, hopen⟩ := run.ordered hstate
      have hloop := hopen (run.state_of_next.trans hstate)
      have hfront : StillOpen (opening ds c.deviceName opened ++ [.nowUs start]) :=
        stillOpen_of_aside opening_aside
      rw [← List.singleton_append, ← List.append_assoc]
      exact ⟨(ordered_of_aside fun e he => (opening_aside e he).1).append hfront hordered,
        .inr (hfront.append hloop)⟩
  | @served ds opened start k es c₁ hstate hset hopened hcount run =>
      obtain ⟨hordered, hopen⟩ := run.ordered hstate
      have hfront : StillOpen (opening ds c.deviceName opened ++ [.nowUs start]) :=
        stillOpen_of_aside opening_aside
      rw [← List.singleton_append, ← List.append_assoc]
      refine ⟨((ordered_of_aside fun e he => (opening_aside e he).1).append hfront
        hordered).append_aside fun e he => (finishing_afterLoop e he).aroundLoop.aside, ?_⟩
      by_cases hstreaming : c₁.state = .streaming
      · exact .inr ((hfront.append (hopen hstreaming)).append
          (stillOpen_of_aside (finishing_of_streaming hstreaming)))
      · -- the loop failed, or the stream ended and the call closed the client
        left
        have hgoing := hlife'.not_flushing
        unfold Client.finished at hgoing ⊢
        split
        · exact .inr rfl
        · next hunfinished =>
          rw [if_neg hunfinished] at hgoing
          rcases run.state_of_stop with hway | hway | hway
          · exact absurd hway hgoing
          · exact .inl hway
          · exact absurd (hway.trans hstate) hstreaming

/-! ## The session -/

theorem ConnectRun.aside {name : String} {count : Int} {c c' : Client} {es : List Event}
    (h : ConnectRun name count c es c') : ∀ e ∈ es, e.Aside ∧ e ≠ .sinkFlush := by
  have huninit : ∀ hr, ∀ e ∈ uninit hr, e.Aside ∧ e ≠ .sinkFlush := by
    intro hr
    unfold uninit
    split <;> simp
  cases h with
  | comFailed => simp [failure]
  | createFailed | createExFailed | connected =>
      exact List.forall_mem_append.mpr ⟨by simp [failure], huninit _⟩

theorem OpenRun.aside {c c' : Client} {es : List Event} (h : OpenRun c es c') :
    ∀ e ∈ es, e.Aside ∧ e ≠ .sinkFlush := by
  cases h <;> simp [failure]

/-- The same of every public call. -/
theorem CallRun.ordered {c c' : Client} {call : ApiCall} {es : List Event} {flow : Flow}
    (h : CallRun c call es flow c') (hlife : Lifecycle c) :
    Ordered es ∧ (Over c' ∨ StillOpen es) := by
  have haside : ∀ {es : List Event}, (∀ e ∈ es, e.Aside ∧ e ≠ .sinkFlush) →
      Ordered es ∧ StillOpen es := fun h =>
    ⟨ordered_of_aside fun e he => (h e he).1, stillOpen_of_aside h⟩
  cases h with
  | connectRefused | openRefused | setCommandTimeout | setFailAfterNChunks | closedAgain =>
      exact (haside (by simp)).imp_right .inr
  | connect hstate run => exact (haside run.aside).imp_right .inr
  | openDevices hstate run => exact (haside run.aside).imp_right .inr
  | served run | serving run => exact run.ordered hlife
  | close =>
      exact ⟨ordered_of_aside fun e he => (closing_afterLoop e he).aroundLoop.aside,
        .inl (.inr rfl)⟩

/-- And of any sequence of them: once a call ended the session, the later ones only wind it
down. -/
theorem SessionRun.ordered {c c' : Client} {es : List Event} {flow : Flow}
    (h : SessionRun c es flow c') (hlife : Lifecycle c) :
    Ordered es ∧ (Over c' ∨ StillOpen es) := by
  induction h with
  | start => exact ⟨ordered_nil, .inr stillOpen_nil⟩
  | call before run ih =>
      obtain ⟨hordered, hover | hopen⟩ := ih
      · obtain ⟨hover', hwinds⟩ := run.over hover
        exact ⟨hordered.append_aside fun e he => (hwinds e he).aside, .inl hover'⟩
      · obtain ⟨hcall, hend⟩ := run.ordered (before.lawful hlife).lifecycle
        exact ⟨hordered.append hopen hcall, hend.imp_right hopen.append⟩

/-! ## On a `FileSink` -/

/-- Whenever a `VDC_Flush` is completed, the buffer of the sink is empty and everything
acknowledged so far is in the file. -/
def DurableAtFlush (com : Com ω) (clock : Nat → UInt64) (disk : Nat → WriteOutcome)
    (outside : Outside ω FileSink) (es : List Event) : Prop :=
  ∀ pre e post, es = pre ++ e :: post → e.CompletesFlush →
    ∃ o, Path (fileEnv com clock disk).Answers outside pre o ∧ o.sink.bufferedBytes = 0 ∧
      o.sink.file = outside.sink.stored ++ payloads (acknowledged pre)

/-- Where it is neither written nor flushed, the sink stays as it is. -/
theorem path_sink_eq {com : Com ω} {clock : Nat → UInt64} {disk : Nat → WriteOutcome}
    {o o' : Outside ω FileSink} {es : List Event}
    (h : Path (fileEnv com clock disk).Answers o es o') (hes : ∀ e ∈ es, e.OffSink) :
    o'.sink = o.sink := by
  induction h with
  | nil => rfl
  | cons head tail ih =>
      rw [ih fun e he => hes e (List.mem_cons_of_mem _ he),
        answers_sink_eq head (hes _ List.mem_cons_self)]

/-- On an ordered stretch whose completions of a `VDC_Flush` come before all writes, the sink is
at each of them what it was at the start. -/
theorem Ordered.sink_at_flush {com : Com ω} {clock : Nat → UInt64} {disk : Nat → WriteOutcome}
    {o o' : Outside ω FileSink} {es pre post : List Event} {e : Event} (h : Ordered es)
    (hfirst : FlushesFirst (pollAnswers es)) (heq : es = pre ++ e :: post)
    (hcompletes : e.CompletesFlush) (hpath : Path (fileEnv com clock disk).Answers o pre o') :
    o'.sink = o.sink ∧ acknowledged pre = [] := by
  have hwrites : ¬ Writes pre := h.barrier.mpr hfirst pre e post heq hcompletes
  have hflush : .sinkFlush ∉ pre := h.unflushed pre e post heq hcompletes
  refine ⟨path_sink_eq hpath fun e' he' => ?_, h.acknowledged_eq_nil heq hwrites⟩
  cases e' with
  | sinkWrite cmd ok => exact hwrites ⟨cmd, ok, he'⟩
  | sinkFlush => exact hflush he'
  | _ => trivial

/-- A `VDC_Flush` that comes before all writes is durable exactly if nothing was buffered at the
start. -/
theorem Ordered.durable_iff {com : Com ω} {clock : Nat → UInt64} {disk : Nat → WriteOutcome}
    {o o' : Outside ω FileSink} {es : List Event} (h : Ordered es)
    (hpath : Path (fileEnv com clock disk).Answers o es o')
    (hfirst : FlushesFirst (pollAnswers es)) :
    DurableAtFlush com clock disk o es ↔
      o.sink.bufferedBytes = 0 ∨ ∀ a ∈ pollAnswers es, ¬ Delivers vdcFlush a := by
  constructor
  · intro hdurable
    refine or_iff_not_imp_right.mpr fun hsome => ?_
    push Not at hsome
    obtain ⟨e, he, hcompletes⟩ := h.flush.mpr hsome
    obtain ⟨pre, post, heq⟩ := List.append_of_mem he
    obtain ⟨o₁, hbefore, hempty, -⟩ := hdurable pre e post heq hcompletes
    rw [← (h.sink_at_flush hfirst heq hcompletes hbefore).1]
    exact hempty
  · rintro hcondition pre e post rfl hcompletes
    obtain ⟨o₁, hbefore, -⟩ := hpath.split
    obtain ⟨hsink, hnone⟩ := h.sink_at_flush hfirst rfl hcompletes hbefore
    have hempty : o.sink.bufferedBytes = 0 := by
      apply hcondition.resolve_right
      intro hnoflush
      obtain ⟨a, ha, hdelivers⟩ := h.flush.mp ⟨e, by simp, hcompletes⟩
      exact hnoflush a ha hdelivers
    refine ⟨o₁, hbefore, by rw [hsink, hempty], ?_⟩
    rw [hsink, hnone, FileSink.stored, FileSink.pending_eq_nil hempty]
    simp [payloads]

/-- **`VDC_Flush` is a durability barrier** in a session, whatever public calls it makes and
whatever the environment and the sink answer, exactly when no `VDC_Flush` is delivered after a
`VDC_Write`, in the same call of `process_commands` or a later one.  On a `FileSink` the byte
count of its buffer counts too: every completed `VDC_Flush` finds everything in the file exactly
when moreover the sink came to the client with an empty buffer, or there is no `VDC_Flush`. -/
theorem session_flushBarrier_iff (enableLogging : Bool) (faultInjector : FaultInjector)
    (calls : List ApiCall) :
    (∀ (env : Env ω σ) (outside : Outside ω σ),
      let es := (session env enableLogging faultInjector outside calls).trace
      FlushBarrier es ↔ FlushesFirst (pollAnswers es)) ∧
      ∀ (com : Com ω) (clock : Nat → UInt64) (disk : Nat → WriteOutcome)
        (outside : Outside ω FileSink),
        let es := (session (fileEnv com clock disk) enableLogging faultInjector outside calls).trace
        FlushBarrier es ∧ DurableAtFlush com clock disk outside es ↔
          FlushesFirst (pollAnswers es) ∧
            (outside.sink.bufferedBytes = 0 ∨ ∀ a ∈ pollAnswers es, ¬ Delivers vdcFlush a) := by
  have hlife := lifecycle_new enableLogging faultInjector
  constructor
  · intro env outside es
    obtain ⟨flow, run, -⟩ := session_sessionRun env enableLogging faultInjector outside calls
    exact (run.ordered hlife).1.flushBarrier_iff
  · intro com clock disk outside es
    obtain ⟨flow, run, -⟩ :=
      session_sessionRun (fileEnv com clock disk) enableLogging faultInjector outside calls
    have hordered : Ordered es := (run.ordered hlife).1
    rw [hordered.flushBarrier_iff]
    exact and_congr_right fun hfirst => hordered.durable_iff
      (session_path (fileEnv com clock disk) enableLogging faultInjector outside calls) hfirst

/-- A `VDC_Flush` before the first write is durable. -/
theorem flushBarrier_flushFirst :
    let env := fileEnv scriptedCom UInt64.ofNat goodDisk
    let start := scriptedStart [[deliver (bareCommand vdcFlush), deliver (oneByte 7)]]
      freshFileSink
    let es := (session env false {} start
      [.connect "backup" 1, .openDevices, .processCommands 3]).trace
    FlushBarrier es ∧ DurableAtFlush scriptedCom UInt64.ofNat goodDisk start es := by
  intro env start es
  have h := session_flushBarrier_iff (ω := Server) (σ := FileSink) false {}
    [.connect "backup" 1, .openDevices, .processCommands 3]
  exact (h.2 scriptedCom UInt64.ofNat goodDisk start).mpr ⟨by decide +kernel, .inl rfl⟩

/-- The writes of an earlier call count: one byte and a `VDC_Close`, and then a `VDC_Flush` that a
second call of `process_commands` is given. -/
example :
    let scripts := [[deliver (oneByte 7), deliver (bareCommand vdcClose)],
      [deliver (bareCommand vdcFlush)]]
    let m := session (fileEnv scriptedCom UInt64.ofNat goodDisk) false {}
      (scriptedStart scripts freshFileSink)
      [.connect "backup" 1, .openDevices, .processCommands 2, .processCommands 1]
    ¬ FlushesFirst (pollAnswers m.trace) ∧ m.outside.sink.bufferedBytes = 1 := by
  decide +kernel

/-- One byte and then a `VDC_Flush`, on a disk that writes everything: the flush is completed
with the byte still in the buffer, where it stays until the client is closed. -/
theorem not_flushBarrier_writeFlush :
    let run := fileRun goodDisk
      [deliver (oneByte 7), deliver (bareCommand vdcFlush), deliver (bareCommand vdcClose)]
    (.completeCommand 0 (bareCommand vdcFlush) errorSuccess 0 0 sOk) ∈ run.2.trace ∧
      .sinkFlush ∉ run.2.trace ∧ run.2.outside.sink.file = [] ∧ ¬ FlushBarrier run.2.trace := by
  intro run
  have hcompleted : run.2.trace[20]? =
      some (.completeCommand 0 (bareCommand vdcFlush) errorSuccess 0 0 sOk) := by decide +kernel
  have hwritten : .sinkWrite (oneByte 7) true ∈ run.2.trace.take 20 := by decide +kernel
  have hunflushed : .sinkFlush ∉ run.2.trace := by decide +kernel
  refine ⟨List.mem_of_getElem? hcompleted, hunflushed, by decide +kernel, fun hbarrier => ?_⟩
  obtain ⟨before, after, heq⟩ := List.append_of_mem hwritten
  have hflush := hbarrier.get hcompleted rfl before _ _ after heq
  refine hunflushed (List.mem_of_mem_take (i := 20) ?_)
  rw [heq]
  simp [hflush]

end Vdi
