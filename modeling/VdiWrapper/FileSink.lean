import VdiWrapper.Sink
import Mathlib.Data.List.Range

/-!
# `FileSink`

`class FileSink` of `src/file_sink.cpp` with the file behind it.  A `WriteFile` call appends a
prefix of its argument; which prefix, and whether the call reports success, is decided by an
arbitrary `disk`, one outcome for each call.  Besides the fields of the class the state carries
the contents of the file and the calls made so far.
-/

namespace Vdi

/-- `WRITE_BUFFER_SIZE`, 1 MB. -/
def writeBufferSize : Nat := 1 * 1024 * 1024

/-- What one `WriteFile` does: whether it reports success and how many bytes it may write. -/
structure WriteOutcome where
  ok : Bool
  limit : Nat
deriving DecidableEq

/-- The caller of a `WriteFile`: `flush_buffer`, or `write` for a chunk too large to buffer. -/
inductive WriteOrigin
  | drain
  | direct
deriving DecidableEq

/-- A `WriteFile` call that was made: its caller, its argument and its outcome. -/
structure WriteCall where
  origin : WriteOrigin
  bytes : List UInt8
  outcome : WriteOutcome
deriving DecidableEq

/-- `bytes_written`. -/
def WriteCall.written (call : WriteCall) : Nat := min call.outcome.limit call.bytes.length

/-- The bytes of its argument that the call did not write. -/
def WriteCall.lost (call : WriteCall) : Nat := call.bytes.length - call.written

/-- The call reports success and wrote everything. -/
structure WriteCall.Full (call : WriteCall) : Prop where
  ok : call.outcome.ok = true
  lost : call.lost = 0

instance {call : WriteCall} : Decidable call.Full :=
  decidable_of_iff (call.outcome.ok = true ∧ call.lost = 0)
    ⟨fun h => ⟨h.1, h.2⟩, fun h => ⟨h.ok, h.lost⟩⟩

/-- The fields of `class FileSink`, the contents of the file, and the `WriteFile` calls so far. -/
structure FileSink where
  /-- `file_handle_ != INVALID_HANDLE_VALUE`. -/
  fileHandle : Bool
  /-- `write_buffer_`; `none` is the null pointer. -/
  writeBuffer : Option (Nat → UInt8)
  bufferedBytes : Nat
  file : List UInt8
  calls : List WriteCall

/-- The constructor, given whether `CreateFileW` and `_aligned_malloc` succeed; the memory
allocated is not initialised.  `CREATE_ALWAYS` leaves the file empty. -/
def FileSink.new (opened : Bool) (allocated : Option (Nat → UInt8)) : FileSink where
  fileHandle := opened
  writeBuffer := allocated
  bufferedBytes := 0
  file := []
  calls := []

/-- `memcpy(mem + offset, data, data.length)`. -/
def memcpy (mem : Nat → UInt8) (offset : Nat) (data : List UInt8) : Nat → UInt8 := fun i =>
  if offset ≤ i ∧ i < offset + data.length then data.getD (i - offset) 0 else mem i

/-- The `n` bytes at `mem`. -/
def readMemory (mem : Nat → UInt8) (n : Nat) : List UInt8 := (List.range n).map mem

namespace FileSink

variable (disk : Nat → WriteOutcome) (sink : FileSink)

/-- The `n` bytes at `write_buffer_`. -/
def buffered (n : Nat) : List UInt8 :=
  match sink.writeBuffer with
  | none => []
  | some mem => readMemory mem n

/-- `WriteFile(file_handle_, bytes)`: the result, `bytes_written` and the sink after it. -/
def writeFile (origin : WriteOrigin) (bytes : List UInt8) : Bool × Nat × FileSink :=
  if sink.fileHandle then
    let call : WriteCall := { origin, bytes, outcome := disk sink.calls.length }
    (call.outcome.ok, call.written,
      { sink with file := sink.file ++ bytes.take call.written, calls := sink.calls ++ [call] })
  else (false, 0, sink)

/-- `FileSink::flush_buffer`; the result of `WriteFile` is dropped. -/
def flushBuffer : FileSink :=
  if sink.bufferedBytes = 0 then sink
  else
    let (_, _, sink') :=
      sink.writeFile disk .drain (sink.buffered (sink.bufferedBytes % 2 ^ 32))
    { sink' with bufferedBytes := 0 }

/-- `FileSink::write`. -/
def write (data : List UInt8) : Bool × FileSink :=
  match sink.fileHandle, sink.writeBuffer with
  | false, _ => (false, sink)
  | _, none => (false, sink)
  | true, some _ =>
      if writeBufferSize ≤ data.length then
        let sink := if 0 < sink.bufferedBytes then sink.flushBuffer disk else sink
        let (ok, bytesWritten, sink) :=
          sink.writeFile disk .direct (data.take (data.length % 2 ^ 32))
        if !ok then (false, sink) else (decide (bytesWritten = data.length), sink)
      else
        let sink :=
          if writeBufferSize < sink.bufferedBytes + data.length then sink.flushBuffer disk
          else sink
        (true,
          { sink with
            writeBuffer := sink.writeBuffer.map (memcpy · sink.bufferedBytes data)
            bufferedBytes := sink.bufferedBytes + data.length })

/-- `FileSink::flush`; `FlushFileBuffers` adds nothing to the file. -/
def flush : FileSink := sink.flushBuffer disk

/-- `FileSink::is_open`. -/
def isOpen : Bool := sink.fileHandle

/-- The class as a `Sink`. -/
def asSink : Sink FileSink where
  write := fun sink data => sink.write disk data
  flush := fun sink => sink.flush disk
  isOpen := fun sink => (sink.isOpen, sink)

/-! ## What the sink holds -/

/-- The bytes accepted but not yet written. -/
def pending : List UInt8 := sink.buffered sink.bufferedBytes

/-- Everything the sink answers for: the file and then the buffer. -/
def stored : List UInt8 := sink.file ++ sink.pending

/-- The file was opened, the buffer was allocated and is not overfull. -/
structure Ready (sink : FileSink) : Prop where
  opened : sink.fileHandle = true
  allocated : sink.writeBuffer.isSome
  fits : sink.bufferedBytes ≤ writeBufferSize

variable {disk : Nat → WriteOutcome} {sink : FileSink}

theorem length_readMemory (mem : Nat → UInt8) (n : Nat) : (readMemory mem n).length = n := by
  simp [readMemory]

/-- Copying behind the first `n` bytes appends to them. -/
theorem readMemory_memcpy (mem : Nat → UInt8) (n : Nat) (data : List UInt8) :
    readMemory (memcpy mem n data) (n + data.length) = readMemory mem n ++ data := by
  apply List.ext_getElem
  · simp [readMemory]
  · intro i hi hi'
    have hlt : i < n + data.length := by simpa [length_readMemory] using hi
    by_cases hn : i < n
    · have hout : ¬ (n ≤ i ∧ i < n + data.length) := by omega
      rw [List.getElem_append_left (by simpa [length_readMemory] using hn)]
      simp [readMemory, memcpy, hout]
    · have hin : n ≤ i ∧ i < n + data.length := by omega
      have hsub : i - n < data.length := by omega
      rw [List.getElem_append_right (by simpa [length_readMemory] using hn)]
      simp [readMemory, memcpy, hin, hsub]

theorem pending_eq_nil (h : sink.bufferedBytes = 0) : sink.pending = [] := by
  unfold pending buffered
  rw [h]
  cases sink.writeBuffer <;> rfl

theorem Ready.bufferedBytes_mod (h : sink.Ready) :
    sink.bufferedBytes % 2 ^ 32 = sink.bufferedBytes := by
  have hfits := h.fits
  unfold writeBufferSize at hfits
  exact Nat.mod_eq_of_lt (by omega)

theorem length_take_written (call : WriteCall) :
    (call.bytes.take call.written).length + call.lost = call.bytes.length := by
  unfold WriteCall.lost WriteCall.written
  rw [List.length_take]
  omega

theorem take_written (call : WriteCall) (h : call.lost = 0) :
    call.bytes.take call.written = call.bytes := by
  apply List.take_of_length_le
  unfold WriteCall.lost at h
  omega

/-- The bytes the calls failed to write. -/
def lostBytes : List WriteCall → Nat
  | [] => 0
  | call :: calls => call.lost + lostBytes calls

theorem lostBytes_append (calls calls' : List WriteCall) :
    lostBytes (calls ++ calls') = lostBytes calls + lostBytes calls' := by
  induction calls with
  | nil => simp [lostBytes]
  | cons call calls ih =>
      rw [List.cons_append, lostBytes, lostBytes, ih]
      omega

theorem lostBytes_eq_zero_iff {calls : List WriteCall} :
    lostBytes calls = 0 ↔ ∀ call ∈ calls, call.lost = 0 := by
  induction calls with
  | nil => simp [lostBytes]
  | cons call calls ih => simp [lostBytes, ih]

/-- The sink took `data` in: with the `WriteFile` calls `calls` it went from `sink` to `sink'`, and
what is not stored afterwards was lost by one of them. -/
structure Takes (sink : FileSink) (data : List UInt8) (calls : List WriteCall)
    (sink' : FileSink) : Prop where
  called : sink'.calls = sink.calls ++ calls
  ready : sink'.Ready
  length : sink'.stored.length + lostBytes calls = sink.stored.length + data.length
  content : lostBytes calls = 0 → sink'.stored = sink.stored ++ data

theorem Takes.refl (h : sink.Ready) : sink.Takes [] [] sink :=
  ⟨by simp, h, by simp [lostBytes], by simp⟩

theorem Takes.trans {sink₁ sink₂ sink₃ : FileSink} {data data' : List UInt8}
    {calls calls' : List WriteCall} (h : sink₁.Takes data calls sink₂)
    (h' : sink₂.Takes data' calls' sink₃) :
    sink₁.Takes (data ++ data') (calls ++ calls') sink₃ := by
  have hlost := lostBytes_append calls calls'
  have hlength := h.length
  have hlength' := h'.length
  refine ⟨by rw [h'.called, h.called, List.append_assoc], h'.ready, ?_, fun hzero => ?_⟩
  · rw [List.length_append]
    omega
  · rw [h'.content (by omega), h.content (by omega), List.append_assoc]

/-- With the buffer empty, the file holds everything taken in exactly if nothing was lost. -/
theorem Takes.file_eq_iff {sink₁ sink₂ : FileSink} {data : List UInt8} {calls : List WriteCall}
    (h : sink₁.Takes data calls sink₂) (hempty : sink₂.pending = []) :
    sink₂.file = sink₁.stored ++ data ↔ ∀ call ∈ calls, call.lost = 0 := by
  have hfile : sink₂.file = sink₂.stored := by rw [stored, hempty, List.append_nil]
  rw [hfile, ← lostBytes_eq_zero_iff]
  refine ⟨fun heq => ?_, h.content⟩
  have hlength := h.length
  rw [heq, List.length_append] at hlength
  omega

/-- The `WriteFile` call `flush_buffer` makes for a buffer that is not empty. -/
def drainCall (disk : Nat → WriteOutcome) (sink : FileSink) : WriteCall where
  origin := .drain
  bytes := sink.pending
  outcome := disk sink.calls.length

theorem flushBuffer_bufferedBytes : (sink.flushBuffer disk).bufferedBytes = 0 := by
  unfold flushBuffer
  split
  · assumption
  · rfl

theorem flushBuffer_of_empty (disk : Nat → WriteOutcome) (h : sink.bufferedBytes = 0) :
    sink.flushBuffer disk = sink :=
  if_pos h

/-- `write` spares itself a `flush_buffer` that would do nothing. -/
theorem flushBuffer_if_buffered :
    (if 0 < sink.bufferedBytes then sink.flushBuffer disk else sink) = sink.flushBuffer disk := by
  split
  · rfl
  · next hempty => exact (flushBuffer_of_empty disk (Nat.eq_zero_of_not_pos hempty)).symm

/-- The sink after a `flush_buffer` that had something to write. -/
theorem flushBuffer_of_buffered (disk : Nat → WriteOutcome) (h : sink.Ready)
    (hbuffered : sink.bufferedBytes ≠ 0) :
    sink.flushBuffer disk =
      { sink with
        file := sink.file ++ (drainCall disk sink).bytes.take (drainCall disk sink).written
        calls := sink.calls ++ [drainCall disk sink]
        bufferedBytes := 0 } := by
  rw [flushBuffer, if_neg hbuffered, h.bufferedBytes_mod, writeFile, if_pos h.opened]
  rfl

/-- `flush_buffer` writes the buffer once, or has nothing to do. -/
theorem flushBuffer_takes (disk : Nat → WriteOutcome) (h : sink.Ready) :
    ∃ calls, sink.Takes [] calls (sink.flushBuffer disk) ∧
      ∀ call ∈ calls, call.origin = .drain := by
  by_cases hzero : sink.bufferedBytes = 0
  · rw [flushBuffer_of_empty disk hzero]
    exact ⟨[], Takes.refl h, by simp⟩
  · have hflush := flushBuffer_of_buffered disk h hzero
    have hpending : (sink.flushBuffer disk).pending = [] :=
      pending_eq_nil flushBuffer_bufferedBytes
    refine ⟨[drainCall disk sink], ⟨?_, ?_, ?_, fun hlost => ?_⟩, ?_⟩
    · rw [hflush]
    · rw [hflush]
      exact ⟨h.opened, h.allocated, Nat.zero_le _⟩
    · have htake := length_take_written (drainCall disk sink)
      have hbytes : (drainCall disk sink).bytes.length = sink.pending.length := rfl
      rw [stored, hpending, hflush]
      simp only [stored, lostBytes, List.length_append, List.length_nil]
      omega
    · have hdrain : (drainCall disk sink).lost = 0 := by simpa [lostBytes] using hlost
      rw [stored, hpending, hflush, take_written _ hdrain]
      simp [stored, drainCall]
    · simp [drainCall]

/-- The `WriteFile` call `write` makes for a chunk too large to buffer. -/
def directCall (disk : Nat → WriteOutcome) (sink : FileSink) (data : List UInt8) : WriteCall where
  origin := .direct
  bytes := data
  outcome := disk sink.calls.length

/-- The sink after that call. -/
def afterDirect (disk : Nat → WriteOutcome) (sink : FileSink) (data : List UInt8) : FileSink :=
  { sink with
    file := sink.file ++ data.take (directCall disk sink data).written
    calls := sink.calls ++ [directCall disk sink data] }

theorem writeFile_direct {data : List UInt8} (h : sink.Ready) :
    sink.writeFile disk .direct data =
      ((directCall disk sink data).outcome.ok, (directCall disk sink data).written,
        afterDirect disk sink data) := by
  rw [writeFile, if_pos h.opened]
  rfl

/-- With the buffer empty, a direct write puts its prefix right behind what is stored. -/
theorem afterDirect_takes {data : List UInt8} (h : sink.Ready) (hempty : sink.bufferedBytes = 0) :
    sink.Takes data [directCall disk sink data] (afterDirect disk sink data) := by
  have hpending : sink.pending = [] := pending_eq_nil hempty
  have hpending' : (afterDirect disk sink data).pending = [] := pending_eq_nil hempty
  have htake := length_take_written (directCall disk sink data)
  refine ⟨rfl, ⟨h.opened, h.allocated, h.fits⟩, ?_, fun hlost => ?_⟩
  · rw [stored, stored, hpending, hpending']
    simp only [afterDirect, lostBytes, List.length_append, List.length_nil]
    simp only [directCall] at htake ⊢
    omega
  · have hdirect : (directCall disk sink data).lost = 0 := by simpa [lostBytes] using hlost
    have hall : data.take (directCall disk sink data).written = data := take_written _ hdirect
    rw [stored, stored, hpending, hpending']
    simp [afterDirect, hall]

/-- The sink after a chunk was copied behind the buffered bytes. -/
def afterCopy (sink : FileSink) (data : List UInt8) : FileSink :=
  { sink with
    writeBuffer := sink.writeBuffer.map (memcpy · sink.bufferedBytes data)
    bufferedBytes := sink.bufferedBytes + data.length }

theorem afterCopy_takes {data : List UInt8} (h : sink.Ready)
    (hfits : sink.bufferedBytes + data.length ≤ writeBufferSize) :
    sink.Takes data [] (afterCopy sink data) := by
  obtain ⟨mem, hmem⟩ := Option.isSome_iff_exists.mp h.allocated
  have hpending : (afterCopy sink data).pending = sink.pending ++ data := by
    simp [pending, buffered, afterCopy, hmem, readMemory_memcpy]
  refine ⟨by simp [afterCopy], ⟨h.opened, by simp [afterCopy, hmem], hfits⟩, ?_, fun _ => ?_⟩
  · rw [stored, stored, hpending]
    simp only [afterCopy, lostBytes, List.length_append]
    omega
  · rw [stored, stored, hpending]
    simp [afterCopy]

theorem Takes.of_flush {sink₁ sink₂ sink₃ : FileSink} {data : List UInt8}
    {calls calls' : List WriteCall} (h : sink₁.Takes [] calls sink₂)
    (h' : sink₂.Takes data calls' sink₃) : sink₁.Takes data (calls ++ calls') sink₃ := by
  simpa using h.trans h'

/-- `write_large_direct` succeeds exactly if its one call wrote the whole chunk. -/
theorem directCall_full_iff (disk : Nat → WriteOutcome) (data : List UInt8) :
    (directCall disk sink data).Full ↔
      (directCall disk sink data).outcome.ok = true ∧
        (directCall disk sink data).written = data.length := by
  have hbytes : (directCall disk sink data).bytes = data := rfl
  have htake := length_take_written (directCall disk sink data)
  have hle : (directCall disk sink data).written ≤ data.length := Nat.min_le_right _ _
  rw [hbytes, List.length_take, Nat.min_eq_left hle] at htake
  constructor
  · intro hfull
    obtain ⟨hok, hlost⟩ := hfull
    exact ⟨hok, by omega⟩
  · intro hwhole
    obtain ⟨hok, hwritten⟩ := hwhole
    exact ⟨hok, by omega⟩

/-- A chunk as large as the buffer: the buffer is drained, a no-op when it is empty, and the chunk
goes out directly. -/
theorem write_large (disk : Nat → WriteOutcome) {data : List UInt8} (h : sink.Ready)
    (hsize : data.length < 2 ^ 32) (hlarge : writeBufferSize ≤ data.length) :
    ((sink.write disk data).1 = true ↔ (directCall disk (sink.flushBuffer disk) data).Full) ∧
      (sink.write disk data).2 = afterDirect disk (sink.flushBuffer disk) data := by
  obtain ⟨mem, hmem⟩ := Option.isSome_iff_exists.mp h.allocated
  obtain ⟨calls, hflush, -⟩ := flushBuffer_takes disk h
  have hwrite : sink.write disk data =
      (let call := directCall disk (sink.flushBuffer disk) data
        if !call.outcome.ok then (false, afterDirect disk (sink.flushBuffer disk) data)
        else (decide (call.written = data.length),
          afterDirect disk (sink.flushBuffer disk) data)) := by
    unfold write
    simp only [h.opened, hmem, if_pos hlarge, flushBuffer_if_buffered, Nat.mod_eq_of_lt hsize,
      List.take_length, writeFile_direct hflush.ready]
  rw [hwrite, directCall_full_iff]
  dsimp only
  split
  · next hno => simp_all
  · next hyes => simp_all

theorem write_large_run (disk : Nat → WriteOutcome) {data : List UInt8} (h : sink.Ready)
    (hsize : data.length < 2 ^ 32) (hlarge : writeBufferSize ≤ data.length) :
    ∃ calls, sink.Takes data calls (sink.write disk data).2 ∧
      ((sink.write disk data).1 = true ↔
        ∀ call ∈ calls, call.origin = .direct → call.Full) := by
  obtain ⟨calls, hflush, hdrains⟩ := flushBuffer_takes disk h
  have hempty : (sink.flushBuffer disk).bufferedBytes = 0 := flushBuffer_bufferedBytes
  obtain ⟨hfst, hsnd⟩ := write_large disk h hsize hlarge
  refine ⟨calls ++ [directCall disk (sink.flushBuffer disk) data], ?_, ?_⟩
  · rw [hsnd]
    exact hflush.of_flush (afterDirect_takes hflush.ready hempty)
  · rw [hfst]
    constructor
    · intro hcall call hmem horigin
      rcases List.mem_append.mp hmem with hmem | hmem
      · rw [hdrains call hmem] at horigin
        cases horigin
      · rwa [List.mem_singleton.mp hmem]
    · intro hall
      exact hall _ (by simp) rfl

/-- A smaller chunk is copied, after a drain if it does not fit. -/
theorem write_small (disk : Nat → WriteOutcome) {data : List UInt8} (h : sink.Ready)
    (hsmall : ¬ writeBufferSize ≤ data.length) :
    ∃ mid calls, sink.Takes [] calls mid ∧ (∀ call ∈ calls, call.origin = .drain) ∧
      mid.bufferedBytes + data.length ≤ writeBufferSize ∧
      sink.write disk data = (true, afterCopy mid data) := by
  obtain ⟨mem, hmem⟩ := Option.isSome_iff_exists.mp h.allocated
  obtain ⟨calls, hflush, hdrains⟩ := flushBuffer_takes disk h
  have hempty : (sink.flushBuffer disk).bufferedBytes = 0 := flushBuffer_bufferedBytes
  by_cases hover : writeBufferSize < sink.bufferedBytes + data.length
  · refine ⟨sink.flushBuffer disk, calls, hflush, hdrains, by omega, ?_⟩
    unfold write
    simp only [h.opened, hmem, if_neg hsmall, if_pos hover]
    rfl
  · refine ⟨sink, [], Takes.refl h, by simp, by omega, ?_⟩
    unfold write
    simp only [h.opened, hmem, if_neg hsmall, if_neg hover]
    rw [afterCopy, hmem, h.opened]

/-- A write that returns true has taken the chunk in and its direct call, if any, wrote
everything; a write that returns false made a direct call that did not. -/
theorem write_run (disk : Nat → WriteOutcome) {data : List UInt8} (h : sink.Ready)
    (hsize : data.length < 2 ^ 32) :
    ∃ calls, sink.Takes data calls (sink.write disk data).2 ∧
      ((sink.write disk data).1 = true ↔
        ∀ call ∈ calls, call.origin = .direct → call.Full) := by
  by_cases hlarge : writeBufferSize ≤ data.length
  · exact write_large_run disk h hsize hlarge
  · obtain ⟨mid, calls, htakes, hdrains, hfits, hwrite⟩ := write_small disk h hlarge
    refine ⟨calls ++ [], ?_, ?_⟩
    · rw [hwrite]
      exact htakes.of_flush (afterCopy_takes htakes.ready hfits)
    · rw [hwrite, List.append_nil]
      apply iff_of_true rfl
      intro call hmem horigin
      rw [hdrains call hmem] at horigin
      cases horigin

end FileSink

end Vdi
