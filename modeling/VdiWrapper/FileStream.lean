import VdiWrapper.FileSink

/-!
# Streams of calls on a `FileSink`

A stream is any sequence of `write` and `flush` calls, and `Sink.serve` makes them one after the
other.  While every `WriteFile` writes all its bytes, a `FileSink` holds exactly what it was given;
whatever they do, its file is a subsequence of what it was given.  Both are proved of every
stream, so they hold at every point of one, and both survive the destructor.
-/

namespace Vdi

variable {σ : Type}

/-- A call on a sink. -/
inductive SinkCall
  | write (data : List UInt8)
  | flush
deriving DecidableEq

/-- The bytes a call offers to the sink. -/
def SinkCall.data : SinkCall → List UInt8
  | .write data => data
  | .flush => []

/-- The concatenation of all data written, whether or not it was accepted. -/
def streamData (calls : List SinkCall) : List UInt8 := calls.flatMap SinkCall.data

/-- One call: what its write returned, if it is one, and the sink after it. -/
def Sink.step (sink : Sink σ) (s : σ) : SinkCall → List Bool × σ
  | .write data => ([(sink.write s data).1], (sink.write s data).2)
  | .flush => ([], sink.flush s)

/-- The calls in order: what the writes returned, and the sink after them. -/
def Sink.serve (sink : Sink σ) (s : σ) : List SinkCall → List Bool × σ
  | [] => ([], s)
  | call :: calls =>
      ((sink.step s call).1 ++ (Sink.serve sink (sink.step s call).2 calls).1,
        (Sink.serve sink (sink.step s call).2 calls).2)

namespace FileSink

/-- `FileSink::~FileSink`: drain the buffer, close the handle, free the memory. -/
def destroy (disk : Nat → WriteOutcome) (sink : FileSink) : FileSink :=
  { sink.flushBuffer disk with fileHandle := false, writeBuffer := none }

variable {disk : Nat → WriteOutcome} {sink : FileSink}

theorem stored_of_empty (h : sink.bufferedBytes = 0) : sink.stored = sink.file := by
  rw [stored, pending_eq_nil h, List.append_nil]

/-! ## Nothing lost -/

/-- Every `WriteFile` made so far wrote all its bytes and reported success. -/
def AllFull (sink : FileSink) : Prop := ∀ call ∈ sink.calls, call.Full

theorem Takes.stored_eq {sink' : FileSink} {data : List UInt8} {calls : List WriteCall}
    (h : sink.Takes data calls sink') (hfull : sink'.AllFull) :
    sink'.stored = sink.stored ++ data := by
  apply h.content
  rw [lostBytes_eq_zero_iff]
  intro call hmem
  have hmade : call ∈ sink'.calls := by
    rw [h.called]
    exact List.mem_append_right _ hmem
  exact (hfull call hmade).lost

theorem Takes.allFull {sink' : FileSink} {data : List UInt8} {calls : List WriteCall}
    (h : sink.Takes data calls sink') (hfull : sink'.AllFull) : sink.AllFull := by
  intro call hmem
  apply hfull
  rw [h.called]
  exact List.mem_append_left _ hmem

/-- One call takes its data in, and a write whose `WriteFile`s were full returns true. -/
theorem step_takes (disk : Nat → WriteOutcome) (h : sink.Ready) (call : SinkCall)
    (hsize : call.data.length < 2 ^ 32) :
    ∃ calls, sink.Takes call.data calls ((asSink disk).step sink call).2 ∧
      (((asSink disk).step sink call).2.AllFull →
        ∀ ok ∈ ((asSink disk).step sink call).1, ok = true) := by
  cases call with
  | write data =>
      have hdata : data.length < 2 ^ 32 := hsize
      obtain ⟨calls, htakes, hok⟩ := write_run disk h hdata
      refine ⟨calls, htakes, fun hfull ok hmem => ?_⟩
      have hresult : ok = (sink.write disk data).1 := List.mem_singleton.mp hmem
      rw [hresult, hok]
      intro call hcall _
      apply hfull
      have hcalled : ((asSink disk).step sink (.write data)).2.calls = sink.calls ++ calls :=
        htakes.called
      rw [hcalled]
      exact List.mem_append_right _ hcall
  | flush =>
      obtain ⟨calls, htakes, -⟩ := flushBuffer_takes disk h
      exact ⟨calls, htakes, fun _ ok hmem => by cases hmem⟩

/-- Any stream of writes below 4 GB. -/
theorem serve_takes (disk : Nat → WriteOutcome) (h : sink.Ready) (calls : List SinkCall)
    (hsize : ∀ call ∈ calls, call.data.length < 2 ^ 32) :
    ∃ made, sink.Takes (streamData calls) made ((asSink disk).serve sink calls).2 ∧
      (((asSink disk).serve sink calls).2.AllFull →
        ∀ ok ∈ ((asSink disk).serve sink calls).1, ok = true) := by
  induction calls generalizing sink with
  | nil => exact ⟨[], .refl h, fun _ ok hmem => by cases hmem⟩
  | cons call calls ih =>
      obtain ⟨made, htakes, hok⟩ := step_takes disk h call (hsize call List.mem_cons_self)
      obtain ⟨made', htakes', hok'⟩ :=
        ih htakes.ready fun call' hmem => hsize call' (List.mem_cons_of_mem _ hmem)
      refine ⟨made ++ made', htakes.trans htakes', fun hfull ok hmem => ?_⟩
      rcases List.mem_append.mp hmem with hmem | hmem
      · exact hok (htakes'.allFull hfull) ok hmem
      · exact hok' hfull ok hmem

theorem serve_snoc_flush (disk : Nat → WriteOutcome) (calls : List SinkCall) :
    ((asSink disk).serve sink (calls ++ [.flush])).2 =
      ((asSink disk).serve sink calls).2.flushBuffer disk := by
  induction calls generalizing sink with
  | nil => rfl
  | cons call calls ih => exact ih

/-! ## Nothing duplicated -/

/-- A sink in any condition: the buffer is not overfull, and unused unless the sink works. -/
structure Sound (sink : FileSink) : Prop where
  fits : sink.bufferedBytes ≤ writeBufferSize
  idle : sink.fileHandle = false ∨ sink.writeBuffer = none → sink.bufferedBytes = 0

theorem sound_new (opened : Bool) (allocated : Option (Nat → UInt8)) :
    (FileSink.new opened allocated).Sound :=
  ⟨Nat.zero_le _, fun _ => rfl⟩

theorem Sound.ready (h : sink.Sound) (hbuffered : sink.bufferedBytes ≠ 0) : sink.Ready := by
  refine ⟨?_, ?_, h.fits⟩
  · by_contra hclosed
    exact hbuffered (h.idle (.inl (by simpa using hclosed)))
  · by_contra hnull
    exact hbuffered (h.idle (.inr (by simpa using hnull)))

/-- A drain leaves the buffer empty and moves some prefix of it to the file. -/
theorem flushBuffer_sublist (disk : Nat → WriteOutcome) (h : sink.Sound) :
    (sink.flushBuffer disk).Sound ∧ (sink.flushBuffer disk).file.Sublist sink.stored := by
  by_cases hzero : sink.bufferedBytes = 0
  · rw [flushBuffer_of_empty disk hzero]
    exact ⟨h, List.sublist_append_left _ _⟩
  · have hready := h.ready hzero
    rw [flushBuffer_of_buffered disk hready hzero]
    refine ⟨⟨Nat.zero_le _, fun _ => rfl⟩, ?_⟩
    exact (List.Sublist.refl _).append (List.take_sublist _ _)

/-- A `WriteFile` appends some prefix of its argument to the file and leaves the buffer alone. -/
theorem writeFile_sublist (disk : Nat → WriteOutcome) (h : sink.Sound) (origin : WriteOrigin)
    (bytes : List UInt8) :
    (sink.writeFile disk origin bytes).2.2.Sound ∧
      (sink.writeFile disk origin bytes).2.2.bufferedBytes = sink.bufferedBytes ∧
      (sink.writeFile disk origin bytes).2.2.file.Sublist (sink.file ++ bytes) := by
  unfold writeFile
  split
  · exact ⟨⟨h.fits, h.idle⟩, rfl, (List.Sublist.refl _).append (List.take_sublist _ _)⟩
  · exact ⟨h, rfl, List.sublist_append_left _ _⟩

/-- Copying a chunk that fits behind the buffered bytes. -/
theorem afterCopy_sublist (hready : sink.Ready) (data : List UInt8)
    (hfits : sink.bufferedBytes + data.length ≤ writeBufferSize) :
    (afterCopy sink data).Sound ∧ (afterCopy sink data).stored = sink.stored ++ data := by
  have htakes := afterCopy_takes hready hfits
  refine ⟨⟨hfits, fun hbroken => ?_⟩, htakes.content rfl⟩
  have hopened : sink.fileHandle = true := hready.opened
  have hallocated := htakes.ready.allocated
  rcases hbroken with hclosed | hnull
  · rw [show (afterCopy sink data).fileHandle = sink.fileHandle from rfl, hopened] at hclosed
    cases hclosed
  · rw [hnull] at hallocated
    cases hallocated

/-- Whatever the disk does, a write adds at most its own data, once and at the end. -/
theorem write_sublist (disk : Nat → WriteOutcome) (h : sink.Sound) (data : List UInt8) :
    (sink.write disk data).2.Sound ∧
      (sink.write disk data).2.stored.Sublist (sink.stored ++ data) := by
  have hstays : sink.Sound ∧ sink.stored.Sublist (sink.stored ++ data) :=
    ⟨h, List.sublist_append_left _ _⟩
  unfold write
  split
  · exact hstays
  · exact hstays
  · next mem hopened hallocated =>
    have hready : sink.Ready := ⟨hopened, by rw [hallocated]; rfl, h.fits⟩
    obtain ⟨hflushed, hfile⟩ := flushBuffer_sublist disk h
    have hempty : (sink.flushBuffer disk).bufferedBytes = 0 := flushBuffer_bufferedBytes
    split
    · -- a direct write: the buffer is drained first, unless there is nothing in it
      next hlarge =>
      obtain ⟨hsound, hbuffered, hwritten⟩ :=
        writeFile_sublist disk hflushed .direct (data.take (data.length % 2 ^ 32))
      have hdirect := hwritten.trans (hfile.append (List.take_sublist _ data))
      rw [← stored_of_empty (hbuffered.trans hempty)] at hdirect
      rw [flushBuffer_if_buffered]
      dsimp only
      split
      · exact ⟨hsound, hdirect⟩
      · exact ⟨hsound, hdirect⟩
    · -- a buffered write: the buffer is drained if the chunk does not fit behind it
      next hsmall =>
      split
      · next hover =>
        obtain ⟨_, htakes, -⟩ := flushBuffer_takes disk hready
        have hready' : (sink.flushBuffer disk).Ready := htakes.ready
        have hfits : (sink.flushBuffer disk).bufferedBytes + data.length ≤ writeBufferSize := by
          omega
        obtain ⟨hsound, hstored⟩ := afterCopy_sublist hready' data hfits
        rw [stored_of_empty hempty] at hstored
        exact ⟨hsound, hstored ▸ hfile.append (List.Sublist.refl data)⟩
      · next hover =>
        obtain ⟨hsound, hstored⟩ := afterCopy_sublist hready data (by omega)
        exact ⟨hsound, hstored ▸ List.Sublist.refl _⟩

/-- Any stream, whatever its writes return. -/
theorem serve_sublist (disk : Nat → WriteOutcome) (h : sink.Sound) (calls : List SinkCall) :
    ((asSink disk).serve sink calls).2.Sound ∧
      ((asSink disk).serve sink calls).2.stored.Sublist (sink.stored ++ streamData calls) := by
  induction calls generalizing sink with
  | nil => exact ⟨h, List.sublist_append_left _ _⟩
  | cons call calls ih =>
      have hstep : ((asSink disk).step sink call).2.Sound ∧
          ((asSink disk).step sink call).2.stored.Sublist (sink.stored ++ call.data) := by
        cases call with
        | write data => exact write_sublist disk h data
        | flush =>
            obtain ⟨hsound, hfile⟩ := flushBuffer_sublist disk h
            refine ⟨hsound, ?_⟩
            have hflushed : ((asSink disk).step sink .flush).2.stored =
                (sink.flushBuffer disk).file := stored_of_empty flushBuffer_bufferedBytes
            rw [hflushed]
            exact hfile.trans (List.sublist_append_left _ _)
      obtain ⟨hsound, hstored⟩ := ih hstep.1
      refine ⟨hsound, hstored.trans ?_⟩
      have hdata : streamData (call :: calls) = call.data ++ streamData calls := rfl
      rw [hdata, ← List.append_assoc]
      exact hstep.2.append (List.Sublist.refl _)

end FileSink

/-! ## A new sink -/

/-- A sink whose file was opened and buffer allocated, after a stream of calls. -/
def openedStream (disk : Nat → WriteOutcome) (memory : Nat → UInt8) (calls : List SinkCall) :
    List Bool × FileSink :=
  (FileSink.asSink disk).serve (FileSink.new true (some memory)) calls

/-- **A `FileSink` is an unbuffered sink.**  After any stream of writes below 4 GB and flushes in
which every `WriteFile` wrote all its bytes, every write has returned true and the file followed
by the buffer is everything written, in order; after a flush the file alone is, and so it is after
the destructor if its `WriteFile` was full too. -/
theorem openedStream_stored (disk : Nat → WriteOutcome) (memory : Nat → UInt8)
    (calls : List SinkCall) (hsize : ∀ data, .write data ∈ calls → data.length < 2 ^ 32)
    (hfull : (openedStream disk memory calls).2.AllFull) :
    let run := openedStream disk memory calls
    (∀ ok ∈ run.1, ok = true) ∧
      run.2.file ++ run.2.buffered run.2.bufferedBytes = streamData calls ∧
      (∀ before, calls = before ++ [.flush] → run.2.file = streamData calls) ∧
      ((run.2.destroy disk).AllFull → (run.2.destroy disk).file = streamData calls) := by
  intro run
  have hready : (FileSink.new true (some memory)).Ready := ⟨rfl, rfl, Nat.zero_le _⟩
  have hsize' : ∀ call ∈ calls, call.data.length < 2 ^ 32 := by
    intro call hmem
    cases call with
    | write data => exact hsize data hmem
    | flush => exact Nat.two_pow_pos 32
  obtain ⟨made, htakes, hok⟩ := FileSink.serve_takes disk hready calls hsize'
  have hstored : run.2.stored = streamData calls := htakes.stored_eq hfull
  refine ⟨hok hfull, hstored, ?_, fun hdestroyed => ?_⟩
  · rintro before rfl
    have hempty : run.2.bufferedBytes = 0 := by
      have hlast : run.2 = ((FileSink.asSink disk).serve _ before).2.flushBuffer disk :=
        FileSink.serve_snoc_flush disk before
      rw [hlast]
      exact FileSink.flushBuffer_bufferedBytes
    rw [← hstored, FileSink.stored_of_empty hempty]
  · obtain ⟨made', hflush, -⟩ := FileSink.flushBuffer_takes disk htakes.ready
    have hkept : (run.2.flushBuffer disk).stored = run.2.stored ++ [] :=
      hflush.stored_eq hdestroyed
    rw [FileSink.stored_of_empty FileSink.flushBuffer_bufferedBytes, List.append_nil] at hkept
    exact hkept.trans hstored

/-- Two buffered writes around a flush, on a disk that writes everything. -/
theorem openedStream_stored_twoWrites :
    let run := openedStream (fun _ => ⟨true, 2⟩) (fun _ => 0) [.write [1], .flush, .write [2, 3]]
    run.2.file = [1] ∧ (∀ ok ∈ run.1, ok = true) ∧
      run.2.file ++ run.2.buffered run.2.bufferedBytes = [1, 2, 3] ∧
      (run.2.destroy fun _ => ⟨true, 2⟩).file = [1, 2, 3] := by
  intro run
  have hfull : run.2.AllFull := by
    unfold FileSink.AllFull
    decide +kernel
  obtain ⟨hok, hstored, -, hdestroyed⟩ :=
    openedStream_stored (fun _ => ⟨true, 2⟩) (fun _ => 0) [.write [1], .flush, .write [2, 3]]
      (by simp) hfull
  refine ⟨by decide +kernel, hok, hstored, hdestroyed ?_⟩
  unfold FileSink.AllFull
  decide +kernel

/-- **No duplication and no reordering.**  Whatever the constructor could open and allocate and
whatever every `WriteFile` does, after any stream of calls the file is a subsequence of everything
written so far, and so it is after the destructor. -/
theorem stream_file_sublist (disk : Nat → WriteOutcome) (opened : Bool)
    (allocated : Option (Nat → UInt8)) (calls : List SinkCall) :
    let sink := ((FileSink.asSink disk).serve (FileSink.new opened allocated) calls).2
    sink.file.Sublist (streamData calls) ∧
      (sink.destroy disk).file.Sublist (streamData calls) := by
  intro sink
  obtain ⟨hsound, hstored⟩ :=
    FileSink.serve_sublist disk (FileSink.sound_new opened allocated) calls
  have hnew : (FileSink.new opened allocated).stored = [] :=
    FileSink.stored_of_empty rfl
  rw [hnew, List.nil_append] at hstored
  refine ⟨(List.sublist_append_left _ _).trans hstored, ?_⟩
  obtain ⟨-, hfile⟩ := FileSink.flushBuffer_sublist disk hsound
  exact hfile.trans hstored

end Vdi
