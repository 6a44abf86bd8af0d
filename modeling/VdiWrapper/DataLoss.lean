import VdiWrapper.FailStop
import VdiWrapper.FileRun
import VdiWrapper.Shutdown

/-!
# Data loss on a `FileSink`

A chunk too large to buffer is written by its own `WriteFile`, whose failure rejects the chunk and
fails the session.  Everything else reaches the file through `flush_buffer`, which drops the
result of its `WriteFile`: there a failure loses bytes that were acknowledged, and the session
goes on as if nothing had happened.  It is reported only if something else fails the session.
-/

namespace Vdi

open Runs

variable {ω σ : Type}

/-! ## A rejected write -/

/-- A turn in which the sink rejects a chunk fails the session. -/
theorem Iteration.rejected {start : UInt64} {device : Device} {c c' : Client} {es : List Event}
    {flow : Flow} {cmd : VdcCommand} (h : Iteration start device c es flow c')
    (hmem : .sinkWrite cmd false ∈ es) : flow = .stop ∧ c'.state = .failed := by
  cases h with
  | closed | null | closeCommand => simp [fetched, delivered] at hmem
  | failed => exact ⟨rfl, rfl⟩
  | timedOut t₀ t₁ cmd check => cases check <;> simp [fetched] at hmem
  | refused t₀ t₁ t₂ t₃ hr cmd hhr refused => exact ⟨rfl, refused.state_session.1⟩
  | served t₀ t₁ t₂ t₃ hr cmd hhr hcode stored completed =>
      cases completed with
      | failed => exact ⟨rfl, rfl⟩
      | faulted => exact ⟨rfl, rfl⟩
      | done => cases stored <;> simp [fetched, delivered] at hmem

theorem LoopRun.rejected {start : UInt64} {devices : List Device} {c c' : Client} {k : Nat}
    {es : List Event} {flow : Flow} {cmd : VdcCommand}
    (h : LoopRun start devices c k es flow c') (hmem : .sinkWrite cmd false ∈ es) :
    flow = .stop ∧ c'.state = .failed := by
  induction h with
  | start => cases hmem
  | turn before served turn ih =>
      rcases List.mem_append.mp hmem with hmem | hmem
      · cases (ih hmem).1
      · exact turn.rejected hmem

theorem sinkWrite_not_mem_opening {ds : DeviceSet} {name : String}
    {opened : List (HResult × Device)} {cmd : VdcCommand} {ok : Bool} :
    .sinkWrite cmd ok ∉ opening ds name opened :=
  fun h => opening_aroundLoop _ h

theorem sinkWrite_not_mem_finishing {devices : List Device} {c : Client} {cmd : VdcCommand}
    {ok : Bool} : .sinkWrite cmd ok ∉ finishing devices c :=
  fun h => finishing_afterLoop _ h

/-- A call in which the sink rejects a chunk returns in `FAILED`. -/
theorem CommandRun.rejected {c c' : Client} {es : List Event} {returned : Bool}
    {cmd : VdcCommand} (h : CommandRun c es returned c') (hmem : .sinkWrite cmd false ∈ es) :
    returned = true ∧ c'.state = .failed := by
  cases h with
  | wrongState | noDeviceSet => simp at hmem
  | openFailed => exact ⟨rfl, rfl⟩
  | serving hstate hset hopened hcount run =>
      simp only [List.mem_append, List.mem_cons, sinkWrite_not_mem_opening, reduceCtorEq,
        false_or] at hmem
      cases (run.rejected hmem).1
  | @served ds opened start k es c₁ hstate hset hopened hcount run =>
      simp only [List.mem_append, List.mem_cons, sinkWrite_not_mem_opening,
        sinkWrite_not_mem_finishing, reduceCtorEq, false_or, or_false] at hmem
      have hfailed := (run.rejected hmem).2
      refine ⟨rfl, ?_⟩
      rw [Client.finished, if_neg (by simp [hfailed])]
      exact hfailed

/-! ## A call that ends in `CLOSED` -/

theorem offered_eq_accepted {es : List Event} (h : ∀ cmd, .sinkWrite cmd false ∉ es) :
    offered es = accepted es := by
  apply List.filterMap_congr
  intro e he
  cases e with
  | sinkWrite cmd ok =>
      cases ok with
      | true => rfl
      | false => exact absurd he (h cmd)
  | _ => rfl

/-- Every chunk offered to the sink was acknowledged. -/
def AllAcknowledged (es : List Event) : Prop := offered es = acknowledged es

theorem AllAcknowledged.append {es es' : List Event} (h : AllAcknowledged es)
    (h' : AllAcknowledged es') : AllAcknowledged (es ++ es') := by
  unfold AllAcknowledged acknowledged at h h' ⊢
  rw [offered_append, List.filterMap_append, h, h']

/-- A stretch without writes and completions of writes. -/
theorem allAcknowledged_of_offChunk {es : List Event} (h : ∀ e ∈ es, e.OffChunk) :
    AllAcknowledged es := by
  have hoffered : offered es = [] := List.filterMap_eq_nil_iff.mpr fun e he =>
    (h e he).silent_sink.attempts
  have hacknowledged : acknowledged es = [] := Ledger.Silent.paid_eq fun e he =>
    (h e he).silent_ack
  rw [AllAcknowledged, hoffered, hacknowledged]

/-- A loop that goes on acknowledged everything it offered. -/
theorem LoopRun.allAcknowledged {start : UInt64} {devices : List Device} {c c' : Client} {k : Nat}
    {es : List Event} (h : LoopRun start devices c k es .next c') : AllAcknowledged es := by
  have hnone : ∀ cmd, .sinkWrite cmd false ∉ es := fun cmd hmem => by
    cases (h.rejected hmem).1
  rw [AllAcknowledged, offered_eq_accepted hnone]
  exact (h.stocked.2 rfl).acks

/-- What is known of a call that ended in `CLOSED`: everything offered to the sink was accepted and
acknowledged, and the sink was flushed after the last write. -/
structure Closing (es : List Event) : Prop where
  acknowledged : AllAcknowledged es
  flushed : FlushedSinceWrite es ∧ .sinkFlush ∈ es

/-- A flush with no write behind it. -/
theorem flushedSinceWrite_of_flush {before rest : List Event}
    (h : ∀ cmd ok, .sinkWrite cmd ok ∉ rest) :
    FlushedSinceWrite (before ++ .sinkFlush :: rest) := by
  intro pre cmd ok post heq
  rcases List.append_eq_append_iff.mp heq with ⟨mid, -, hrest⟩ | ⟨mid, -, hpost⟩
  · cases mid with
    | nil => cases hrest
    | cons e mid =>
        cases hrest
        exact absurd (by simp) (h cmd ok)
  · cases mid with
    | nil => cases hpost
    | cons e mid =>
        cases hpost
        simp

theorem ClosedRun.closing {c : Client} {es : List Event} (h : ClosedRun c es) : Closing es := by
  cases h with
  | @mk before loop after start devices k c₀ closer hr cmd t₀ t₁ hbefore hopened run served hends
      hafter =>
      have htail : ∀ e ∈ .transition c₀.state .flushing :: .sinkFlush :: after, e.AroundLoop := by
        simpa using fun e he => (hafter e he).aroundLoop
      have hfetched : AllAcknowledged (fetched closer c₀.commandTimeoutMs hr cmd t₀ t₁) := rfl
      refine ⟨?_, ?_, by simp⟩
      · have hfront := allAcknowledged_of_offChunk fun e he => (hbefore e he).offChunk
        have hback := allAcknowledged_of_offChunk fun e he => (htail e he).offChunk
        exact ((hfront.append run.allAcknowledged).append hfetched).append hback
      · have hsplit : before ++ loop ++ fetched closer c₀.commandTimeoutMs hr cmd t₀ t₁ ++
            .transition c₀.state .flushing :: .sinkFlush :: after =
            (before ++ loop ++ fetched closer c₀.commandTimeoutMs hr cmd t₀ t₁ ++
              [.transition c₀.state .flushing]) ++ .sinkFlush :: after := by simp
        rw [hsplit]
        exact flushedSinceWrite_of_flush fun _ _ hmem => hafter _ hmem

/-! ## What the file holds -/

/-- If the call returned in `CLOSED`, the file holds what the sink was answerable for before, and
then the acknowledged chunks, in order. -/
def NothingLost (sink : FileSink) (run : Bool × Machine ω FileSink) : Prop :=
  run.1 = true → run.2.client.state = .closed →
    run.2.outside.sink.file = sink.stored ++ payloads (acknowledged run.2.trace)

/-- In a call that returned in `CLOSED` the file tells whether a `flush_buffer` lost bytes. -/
theorem CommandRun.file_eq_iff {com : Com ω} {clock : Nat → UInt64} {disk : Nat → WriteOutcome}
    {o o' : Outside ω FileSink} {c c' : Client} {es : List Event} {returned : Bool}
    {calls : List WriteCall} (h : CommandRun c es returned c') (hstate : c.state = .streaming)
    (hclosed : c'.state = .closed) (hpath : Path (fileEnv com clock disk).Answers o es o')
    (htakes : o.sink.Takes (payloads (offered es)) calls o'.sink)
    (hshort : RejectsShort calls es) :
    o'.sink.file = o.sink.stored ++ payloads (acknowledged es) ↔
      ∀ call ∈ calls, call.origin = .drain → call.lost = 0 := by
  have hclosing := (h.closedRun hstate hclosed).closing
  have hempty : o'.sink.pending = [] :=
    FileSink.pending_eq_nil (path_settled hpath hclosing.flushed.1 (.inr hclosing.flushed.2))
  have haccepted : ∀ cmd, .sinkWrite cmd false ∉ es := fun cmd hmem => by
    have hfailed := (h.rejected hmem).2
    rw [hclosed] at hfailed
    cases hfailed
  rw [← hclosing.acknowledged, htakes.file_eq_iff hempty]
  constructor
  · exact fun hall call hmem _ => hall call hmem
  · intro hdrains call hmem
    cases horigin : call.origin with
    | drain => exact hdrains call hmem horigin
    | direct => exact (hshort.mpr haccepted call hmem horigin).lost

/-- A call in any other state than `STREAMING` only logs that it is refused. -/
theorem CommandRun.eq_refusal {c c' : Client} {es : List Event} {returned : Bool}
    (h : CommandRun c es returned c') (hstate : c.state ≠ .streaming) :
    es = [.log (.wrongState "process_commands" c.state)] ∧ c' = c := by
  cases h with
  | wrongState => exact ⟨rfl, rfl⟩
  | noDeviceSet h | openFailed h | serving h | served h => exact absurd h hstate

/-- Every `WriteFile` of the call that failed or wrote short made it return in `FAILED`. -/
def FailuresReported (sink : FileSink) (run : Bool × Machine ω FileSink) : Prop :=
  ∀ call ∈ writeCalls sink run.2.outside.sink, ¬ call.Full →
    run.1 = true ∧ run.2.client.state = .failed

/-- A direct `WriteFile` that failed or wrote short rejects its chunk, and that fails the call. -/
theorem CommandRun.reported_direct {c c' : Client} {es : List Event} {returned : Bool}
    {calls : List WriteCall} (h : CommandRun c es returned c') (hshort : RejectsShort calls es) :
    ∀ call ∈ calls, call.origin = .direct → ¬ call.Full → returned = true ∧ c'.state = .failed := by
  intro call hmem horigin hfull
  by_contra hnot
  exact hfull (hshort.mpr (fun cmd hwrite => hnot (h.rejected hwrite)) call hmem horigin)

/-- Failures are reported exactly if `flush_buffer` had none, or something failed the call. -/
theorem CommandRun.reported_iff {c c' : Client} {es : List Event} {returned : Bool}
    {calls : List WriteCall} (h : CommandRun c es returned c') (hstate : c.state = .streaming)
    (hshort : RejectsShort calls es) :
    (∀ call ∈ calls, ¬ call.Full → returned = true ∧ c'.state = .failed) ↔
      (∀ call ∈ calls, call.origin = .drain → call.Full) ∨ ∃ e ∈ es, e.Fails := by
  rcases h.failStop hstate with ⟨hfree, hgoes⟩ | ⟨hreturned, hfailed, hstops⟩
  · have hnone : ¬ ∃ e ∈ es, e.Fails := fun ⟨e, he, hfails⟩ => hfree e he hfails
    rw [or_iff_left hnone]
    constructor
    · intro hreported call hmem _
      by_contra hfull
      exact hgoes (hreported call hmem hfull).2
    · intro hdrains call hmem hfull
      cases horigin : call.origin with
      | drain => exact absurd (hdrains call hmem horigin) hfull
      | direct => exact h.reported_direct hshort call hmem horigin hfull
  · exact iff_of_true (fun _ _ _ => ⟨hreturned, hfailed⟩) (.inr hstops.exists_mem)

/-- **No silent data loss** in a call of `process_commands` on an opened `FileSink`, whatever the
environment answers and whatever each `WriteFile` does: the file of a call that returns in `CLOSED`
holds what was acknowledged, and every `WriteFile` that fails or writes short makes the call return
in `FAILED`.  This is so exactly when every `WriteFile` of a `flush_buffer` does everything, or
something else fails the call.  A `WriteFile` that `write` makes itself is always reported. -/
theorem processCommands_nothingLost_iff (com : Com ω) (clock : Nat → UInt64)
    (disk : Nat → WriteOutcome) (fuel : Nat) (client : Client) (outside : Outside ω FileSink)
    (hready : outside.sink.Ready)
    (hstart : client.state = .streaming ∨ outside.sink.pending = []) :
    let run := runCommands (fileEnv com clock disk) fuel client outside
    let made := writeCalls outside.sink run.2.outside.sink
    (NothingLost outside.sink run ∧ FailuresReported outside.sink run ↔
        (∀ call ∈ made, call.origin = .drain → call.Full) ∨ ∃ e ∈ run.2.trace, e.Fails) ∧
      ∀ call ∈ made, call.origin = .direct → ¬ call.Full →
        run.1 = true ∧ run.2.client.state = .failed := by
  intro run made
  have hrun : CommandRun client run.2.trace run.1 run.2.client :=
    runCommands_commandRun (fileEnv com clock disk) fuel client outside
  have hpath : Path (fileEnv com clock disk).Answers outside run.2.trace run.2.outside :=
    runCommands_path (fileEnv com clock disk) fuel client outside
  obtain ⟨calls, htakes, hshort⟩ := path_takes hpath hready hrun.stocked.sane
  have hmade : made = calls := htakes.writeCalls_eq
  have hreport : FailuresReported outside.sink run ↔
      ∀ call ∈ calls, ¬ call.Full → run.1 = true ∧ run.2.client.state = .failed := by
    rw [← hmade]
    rfl
  rw [hreport, hmade]
  refine ⟨?_, hrun.reported_direct hshort⟩
  by_cases hstate : client.state = .streaming
  · rw [← hrun.reported_iff hstate hshort]
    refine ⟨And.right, fun hreported => ⟨fun _ hclosed => ?_, hreported⟩⟩
    -- a call that ended in `CLOSED` reported nothing, so every `WriteFile` did everything
    refine (hrun.file_eq_iff hstate hclosed hpath htakes hshort).mpr fun call hmem _ => ?_
    by_contra hlost
    have hfailed := (hreported call hmem fun hfull => hlost hfull.lost).2
    rw [hclosed] at hfailed
    cases hfailed
  · have hempty : outside.sink.pending = [] := hstart.resolve_left hstate
    obtain ⟨htrace, -⟩ := hrun.eq_refusal hstate
    have hsink : run.2.outside.sink = outside.sink := by
      rw [htrace] at hpath
      cases hpath with
      | cons head tail =>
          cases tail
          exact answers_sink_eq head trivial
    have hnone : calls = [] := by
      rw [← htakes.writeCalls_eq, hsink, writeCalls, List.drop_length]
    rw [hnone]
    refine iff_of_true ⟨fun _ _ => ?_, by simp⟩ (.inl (by simp))
    rw [hsink, htrace, FileSink.stored, hempty]
    simp [acknowledged, acknowledgement, payloads]

/-- A disk that writes everything. -/
def goodDisk : Nat → WriteOutcome := fun _ => ⟨true, 2 ^ 32⟩

/-- A disk that is full. -/
def fullDisk : Nat → WriteOutcome := fun _ => ⟨false, 0⟩

/-- A `FileSink` just constructed on a file that could be opened. -/
def freshFileSink : FileSink := FileSink.new true (some fun _ => 0)

theorem freshFileSink_ready : freshFileSink.Ready := ⟨rfl, rfl, Nat.zero_le _⟩

/-- Its call of `process_commands` on a new file, served with `script`. -/
def fileRun (disk : Nat → WriteOutcome) (script : List Answer) : Bool × Machine Server FileSink :=
  runCommands (fileEnv scriptedCom UInt64.ofNat disk) (script.length + 1) streamingClient
    (scriptedStart [script] freshFileSink)

/-- On a disk that writes everything, one byte is in the file. -/
theorem nothingLost_goodDisk :
    let run := fileRun goodDisk [deliver (oneByte 7)]
    NothingLost freshFileSink run ∧ FailuresReported freshFileSink run :=
  (processCommands_nothingLost_iff scriptedCom UInt64.ofNat goodDisk 2 streamingClient
    (scriptedStart [[deliver (oneByte 7)]] freshFileSink) freshFileSink_ready
    (.inl (by decide +kernel))).1.mpr (.inl (by decide +kernel))

/-- On a full disk the session still ends in `CLOSED`, the byte is acknowledged, and the file is
empty. -/
theorem not_nothingLost_fullDisk :
    let run := fileRun fullDisk [deliver (oneByte 7)]
    run.1 = true ∧ run.2.client.state = .closed ∧ acknowledged run.2.trace = [oneByte 7] ∧
      run.2.outside.sink.file = [] ∧ ¬ NothingLost freshFileSink run ∧
      ¬ FailuresReported freshFileSink run := by
  intro run
  have hreturned : run.1 = true := by decide +kernel
  have hclosed : run.2.client.state = .closed := by decide +kernel
  have hacknowledged : acknowledged run.2.trace = [oneByte 7] := by decide +kernel
  have hfile : run.2.outside.sink.file = [] := by decide +kernel
  have hcall : (⟨.drain, [7], ⟨false, 0⟩⟩ : WriteCall) ∈
      writeCalls freshFileSink run.2.outside.sink := by decide +kernel
  refine ⟨hreturned, hclosed, hacknowledged, hfile, fun hkept => ?_, fun hreported => ?_⟩
  · have heq := hkept hreturned hclosed
    rw [hfile, hacknowledged] at heq
    revert heq
    decide
  · have hfailed := (hreported _ hcall (by decide)).2
    rw [hclosed] at hfailed
    cases hfailed

end Vdi
