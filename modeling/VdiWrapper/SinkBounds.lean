import VdiWrapper.FileRun
import VdiWrapper.FileStream

/-!
# What a `FileSink` touches

The methods of `class FileSink` taken apart into what they do one after the other: each
`WriteFile`, each `memcpy` into `write_buffer_`, each assignment to `buffered_bytes_`.  A `Safe`
action respects the bounds of the buffer, the null pointer and the width of a `DWORD`.  A safe
action keeps a `Sound` sink sound, and a method called on a sound sink makes only safe ones, so
both hold between any two actions of any stream of calls and of the destructor after it.
-/

namespace Vdi

open Runs

/-- What a method of `class FileSink` does at one point of its body. -/
inductive SinkAction
  /-- `WriteFile(file_handle_, write_buffer_, static_cast<DWORD>(buffered_bytes_), ..)`. -/
  | drain
  /-- `buffered_bytes_ = 0`. -/
  | reset
  /-- `WriteFile(file_handle_, data, static_cast<DWORD>(size), ..)`. -/
  | direct (data : List UInt8)
  /-- `memcpy(write_buffer_ + buffered_bytes_, data, size)`. -/
  | copy (data : List UInt8)
  /-- `buffered_bytes_ += size`. -/
  | advance (size : Nat)
  | flushFileBuffers
  | closeHandle
  /-- `_aligned_free(write_buffer_)`. -/
  | alignedFree
deriving DecidableEq

/-- The indices `memcpy(mem + offset, data, data.length)` writes to. -/
def memcpyIndices (offset : Nat) (data : List UInt8) : List Nat :=
  List.range' offset data.length

/-- Memory elsewhere is left alone. -/
theorem memcpy_of_notMem {mem : Nat → UInt8} {offset i : Nat} {data : List UInt8}
    (h : i ∉ memcpyIndices offset data) : memcpy mem offset data i = mem i := by
  apply if_neg
  rw [memcpyIndices, List.mem_range'_1] at h
  exact h

namespace FileSink

variable {disk : Nat → WriteOutcome} {sink : FileSink}

/-- The sink after an action. -/
def act (disk : Nat → WriteOutcome) (sink : FileSink) : SinkAction → FileSink
  | .drain => (sink.writeFile disk .drain (sink.buffered (sink.bufferedBytes % 2 ^ 32))).2.2
  | .reset => { sink with bufferedBytes := 0 }
  | .direct data => (sink.writeFile disk .direct (data.take (data.length % 2 ^ 32))).2.2
  | .copy data =>
      { sink with writeBuffer := sink.writeBuffer.map (memcpy · sink.bufferedBytes data) }
  | .advance size => { sink with bufferedBytes := (sink.bufferedBytes + size) % 2 ^ 64 }
  | .flushFileBuffers => sink
  | .closeHandle => { sink with fileHandle := false }
  | .alignedFree => { sink with writeBuffer := none }

/-- The sink after some actions. -/
def after (disk : Nat → WriteOutcome) (sink : FileSink) (actions : List SinkAction) : FileSink :=
  actions.foldl (act disk) sink

@[simp] theorem after_append {actions actions' : List SinkAction} :
    after disk sink (actions ++ actions') = after disk (after disk sink actions) actions' :=
  List.foldl_append

/-! ## The methods -/

/-- `FileSink::flush_buffer`. -/
def flushBufferActions (sink : FileSink) : List SinkAction :=
  if sink.bufferedBytes = 0 then [] else [.drain, .reset]

/-- `FileSink::write`; the sum of two `size_t` is taken modulo `2 ^ 64`. -/
def writeActions (sink : FileSink) (data : List UInt8) : List SinkAction :=
  if !sink.fileHandle || sink.writeBuffer.isNone then []
  else if writeBufferSize ≤ data.length then
    (if 0 < sink.bufferedBytes then sink.flushBufferActions else []) ++ [.direct data]
  else
    (if writeBufferSize < (sink.bufferedBytes + data.length) % 2 ^ 64 then
        sink.flushBufferActions
      else []) ++
      [.copy data, .advance data.length]

/-- `FileSink::flush`. -/
def flushActions (sink : FileSink) : List SinkAction :=
  sink.flushBufferActions ++ if sink.fileHandle then [.flushFileBuffers] else []

/-- `FileSink::~FileSink`. -/
def destroyActions (sink : FileSink) : List SinkAction :=
  sink.flushBufferActions ++ (if sink.fileHandle then [.closeHandle] else []) ++
    if sink.writeBuffer.isSome then [.alignedFree] else []

/-- One call. -/
def callActions (sink : FileSink) : SinkCall → List SinkAction
  | .write data => sink.writeActions data
  | .flush => sink.flushActions

/-- The calls in order. -/
def streamActions (disk : Nat → WriteOutcome) (sink : FileSink) : List SinkCall → List SinkAction
  | [] => []
  | call :: calls =>
      sink.callActions call ++ streamActions disk (after disk sink (sink.callActions call)) calls

/-- The calls in order and then the destructor. -/
def lifeActions (disk : Nat → WriteOutcome) (sink : FileSink) (calls : List SinkCall) :
    List SinkAction :=
  streamActions disk sink calls ++ (after disk sink (streamActions disk sink calls)).destroyActions

/-! ## Bounds -/

/-- The buffer is never overfull, and never used unless the file and the buffer are there. -/
structure Bounded (sink : FileSink) : Prop where
  fits : sink.bufferedBytes ≤ writeBufferSize
  opened : 0 < sink.bufferedBytes → sink.fileHandle = true
  allocated : 0 < sink.bufferedBytes → sink.writeBuffer.isSome

theorem Sound.bounded (h : sink.Sound) : sink.Bounded :=
  ⟨h.fits, fun hpos => (h.ready (by omega)).opened, fun hpos => (h.ready (by omega)).allocated⟩

/-- What an action needs of the sink it is made on. -/
def Safe (sink : FileSink) : SinkAction → Prop
  -- `WriteFile` gets a handle, a pointer and the whole of `buffered_bytes_`
  | .drain => sink.fileHandle = true ∧ sink.writeBuffer.isSome ∧
      sink.bufferedBytes % 2 ^ 32 = sink.bufferedBytes
  | .reset => True
  | .direct _ => sink.fileHandle = true
  | .copy data => sink.writeBuffer.isSome ∧
      ∀ i ∈ memcpyIndices sink.bufferedBytes data, i < writeBufferSize
  | .advance size => sink.fileHandle = true ∧ sink.writeBuffer.isSome ∧
      sink.bufferedBytes + size ≤ writeBufferSize
  | .flushFileBuffers => sink.fileHandle = true
  -- nothing is buffered any more when the handle is closed and the memory freed
  | .closeHandle => sink.fileHandle = true ∧ sink.bufferedBytes = 0
  | .alignedFree => sink.writeBuffer.isSome ∧ sink.bufferedBytes = 0

/-- All the actions are safe, each on the sink it is made on. -/
def SafeRun (disk : Nat → WriteOutcome) (sink : FileSink) (actions : List SinkAction) : Prop :=
  Always (fun pre action => (after disk sink pre).Safe action) actions

theorem safeRun_nil : SafeRun disk sink [] := always_nil

theorem safeRun_single {action : SinkAction} (h : sink.Safe action) :
    SafeRun disk sink [action] :=
  always_cons.mpr ⟨h, always_nil⟩

theorem safeRun_append {actions actions' : List SinkAction} :
    SafeRun disk sink (actions ++ actions') ↔
      SafeRun disk sink actions ∧ SafeRun disk (after disk sink actions) actions' :=
  always_foldl_append

/-- A safe action keeps the invariant. -/
theorem Sound.act (disk : Nat → WriteOutcome) {action : SinkAction} (h : sink.Sound)
    (hsafe : sink.Safe action) : (sink.act disk action).Sound := by
  cases action with
  | drain => exact (writeFile_sublist disk h .drain _).1
  | reset => exact ⟨Nat.zero_le _, fun _ => rfl⟩
  | direct data => exact (writeFile_sublist disk h .direct _).1
  | copy data =>
      refine ⟨h.fits, fun hbroken => h.idle ?_⟩
      simpa [FileSink.act] using hbroken
  | advance size =>
      obtain ⟨hopened, hallocated, hfits⟩ := hsafe
      refine ⟨(Nat.mod_le _ _).trans hfits, fun hbroken => ?_⟩
      have hworks : ¬ (sink.fileHandle = false ∨ sink.writeBuffer = none) := by
        rw [hopened]
        simpa [Option.isSome_iff_ne_none] using hallocated
      exact absurd hbroken hworks
  | flushFileBuffers => exact h
  | closeHandle => exact ⟨h.fits, fun _ => hsafe.2⟩
  | alignedFree => exact ⟨h.fits, fun _ => hsafe.2⟩

/-- The memory behind the buffer of `sink'` is as it was in `sink`. -/
def UntouchedBehind (sink sink' : FileSink) : Prop :=
  ∀ mem', sink'.writeBuffer = some mem' →
    ∃ mem, sink.writeBuffer = some mem ∧ ∀ i, writeBufferSize ≤ i → mem' i = mem i

theorem UntouchedBehind.refl (sink : FileSink) : sink.UntouchedBehind sink :=
  fun mem' hmem => ⟨mem', hmem, fun _ _ => rfl⟩

/-- `WriteFile` leaves the handle and the pointer alone. -/
theorem writeFile_handles (disk : Nat → WriteOutcome) (sink : FileSink) (origin : WriteOrigin)
    (bytes : List UInt8) :
    (sink.writeFile disk origin bytes).2.2.fileHandle = sink.fileHandle ∧
      (sink.writeFile disk origin bytes).2.2.writeBuffer = sink.writeBuffer := by
  unfold writeFile
  split
  · exact ⟨rfl, rfl⟩
  · exact ⟨rfl, rfl⟩

/-- A safe action writes to no memory behind the buffer. -/
theorem UntouchedBehind.act (disk : Nat → WriteOutcome) {sink₀ : FileSink} {action : SinkAction}
    (h : sink₀.UntouchedBehind sink) (hsafe : sink.Safe action) :
    sink₀.UntouchedBehind (sink.act disk action) := by
  intro mem' hmem'
  cases action with
  | drain => exact h mem' ((writeFile_handles disk sink .drain _).2.symm.trans hmem')
  | direct data => exact h mem' ((writeFile_handles disk sink .direct _).2.symm.trans hmem')
  | copy data =>
      obtain ⟨mem₁, hmem₁, rfl⟩ := Option.map_eq_some_iff.mp hmem'
      obtain ⟨mem, hmem, hsame⟩ := h mem₁ hmem₁
      refine ⟨mem, hmem, fun i hi => ?_⟩
      have hout : i ∉ memcpyIndices sink.bufferedBytes data :=
        fun hin => absurd (hsafe.2 i hin) (Nat.not_lt.mpr hi)
      rw [memcpy_of_notMem hout]
      exact hsame i hi
  | alignedFree => cases hmem'
  | reset | advance | flushFileBuffers | closeHandle => exact h mem' hmem'

/-- **Safe actions keep the invariant**, at every point of the run. -/
theorem SafeRun.sound {actions : List SinkAction} (hsafe : SafeRun disk sink actions)
    (h : sink.Sound) : Throughout (fun pre => (after disk sink pre).Sound) actions :=
  Always.throughout_foldl (fun _ _ => Sound.act disk) h hsafe

theorem SafeRun.untouchedBehind {actions : List SinkAction} (hsafe : SafeRun disk sink actions) :
    Throughout (fun pre => sink.UntouchedBehind (after disk sink pre)) actions :=
  Always.throughout_foldl (fun _ _ => UntouchedBehind.act disk) (.refl sink) hsafe

/-! ## Each method -/

/-- The actions of `flush_buffer` do what it does. -/
@[simp] theorem after_flushBufferActions :
    after disk sink sink.flushBufferActions = sink.flushBuffer disk := by
  unfold flushBufferActions flushBuffer
  split
  · rfl
  · rfl

/-- What precedes a direct write leaves the buffer empty. -/
theorem after_drainActions :
    after disk sink (if 0 < sink.bufferedBytes then sink.flushBufferActions else []) =
      sink.flushBuffer disk := by
  rw [← flushBuffer_if_buffered]
  split
  · exact after_flushBufferActions
  · rfl

theorem Sound.flushBufferActions_safe (h : sink.Sound) :
    SafeRun disk sink sink.flushBufferActions := by
  unfold flushBufferActions
  split
  · exact safeRun_nil
  · next hbuffered =>
    have hready := h.ready hbuffered
    have hdrain : sink.Safe .drain :=
      ⟨hready.opened, hready.allocated, hready.bufferedBytes_mod⟩
    exact always_cons.mpr ⟨hdrain, safeRun_single trivial⟩

theorem flushBuffer_handles (disk : Nat → WriteOutcome) (sink : FileSink) :
    (sink.flushBuffer disk).fileHandle = sink.fileHandle ∧
      (sink.flushBuffer disk).writeBuffer = sink.writeBuffer := by
  by_cases hzero : sink.bufferedBytes = 0
  · rw [flushBuffer_of_empty disk hzero]
    exact ⟨rfl, rfl⟩
  · rw [flushBuffer, if_neg hzero]
    exact writeFile_handles disk sink .drain _

/-- Copying a chunk that fits behind the buffered bytes. -/
theorem Ready.copy_safe {data : List UInt8} (h : sink.Ready)
    (hfits : sink.bufferedBytes + data.length ≤ writeBufferSize) :
    SafeRun disk sink [.copy data, .advance data.length] := by
  have hcopy : sink.Safe (.copy data) := by
    refine ⟨h.allocated, fun i hi => ?_⟩
    rw [memcpyIndices, List.mem_range'_1] at hi
    omega
  have hadvance : (after disk sink [.copy data]).Safe (.advance data.length) := by
    refine ⟨h.opened, ?_, hfits⟩
    have hallocated := h.allocated
    simpa [after, act] using hallocated
  exact always_cons.mpr ⟨hcopy, always_cons.mpr ⟨hadvance, always_nil⟩⟩

/-- The sum that `write` compares with the size of the buffer does not wrap. -/
theorem Sound.sum_mod {data : List UInt8} (h : sink.Sound)
    (hsmall : data.length < writeBufferSize) :
    (sink.bufferedBytes + data.length) % 2 ^ 64 = sink.bufferedBytes + data.length := by
  have hfits := h.fits
  unfold writeBufferSize at hfits hsmall
  exact Nat.mod_eq_of_lt (by omega)

theorem after_copy {data : List UInt8} (h : sink.Sound) (hsmall : data.length < writeBufferSize) :
    after disk sink [.copy data, .advance data.length] = afterCopy sink data := by
  have hsum := h.sum_mod hsmall
  simp only [after, List.foldl_cons, List.foldl_nil, act, afterCopy, hsum]

theorem Sound.writeActions_safe (disk : Nat → WriteOutcome) (h : sink.Sound) (data : List UInt8) :
    SafeRun disk sink (sink.writeActions data) := by
  unfold writeActions
  split
  · exact safeRun_nil
  · next hworks =>
    obtain ⟨hopened, hallocated⟩ : sink.fileHandle = true ∧ sink.writeBuffer.isSome := by
      simpa [Option.isSome_iff_ne_none] using hworks
    have hready : sink.Ready := ⟨hopened, hallocated, h.fits⟩
    obtain ⟨_, htakes, -⟩ := flushBuffer_takes disk hready
    have hready' : (sink.flushBuffer disk).Ready := htakes.ready
    have hflush : SafeRun disk sink sink.flushBufferActions := h.flushBufferActions_safe
    split
    · -- a direct write needs only the handle
      refine safeRun_append.mpr ⟨?_, safeRun_single ?_⟩
      · split
        · exact hflush
        · exact safeRun_nil
      · rw [after_drainActions]
        exact hready'.opened
    · next hlarge =>
      have hsmall : data.length < writeBufferSize := Nat.lt_of_not_le hlarge
      rw [h.sum_mod hsmall]
      -- the chunk fits behind what is left in the buffer: nothing, or what leaves room for it
      split
      · next hover =>
        refine safeRun_append.mpr ⟨hflush, ?_⟩
        rw [after_flushBufferActions]
        apply hready'.copy_safe
        rw [flushBuffer_bufferedBytes]
        omega
      · next hroom =>
        exact safeRun_append.mpr ⟨safeRun_nil, hready.copy_safe (Nat.le_of_not_lt hroom)⟩

/-- The actions of `write` do what it does. -/
theorem Sound.after_writeActions (disk : Nat → WriteOutcome) (h : sink.Sound)
    (data : List UInt8) :
    after disk sink (sink.writeActions data) = (sink.write disk data).2 := by
  have hflushed : (sink.flushBuffer disk).Sound := (flushBuffer_sublist disk h).1
  unfold writeActions write
  cases hhandle : sink.fileHandle with
  | false => rfl
  | true =>
      cases hbuffer : sink.writeBuffer with
      | none => rfl
      | some mem =>
          simp only [Bool.not_true, Option.isNone_some, Bool.or_self, Bool.false_eq_true,
            if_false]
          split
          · rw [after_append, after_drainActions, flushBuffer_if_buffered]
            -- whether the `WriteFile` failed decides the result of `write`, not the sink
            split
            · rfl
            · rfl
          · next hlarge =>
            have hsmall : data.length < writeBufferSize := Nat.lt_of_not_le hlarge
            rw [h.sum_mod hsmall, after_append]
            split
            · rw [after_flushBufferActions]
              exact after_copy hflushed hsmall
            · exact after_copy h hsmall

theorem Sound.flushActions_safe (disk : Nat → WriteOutcome) (h : sink.Sound) :
    SafeRun disk sink sink.flushActions := by
  refine safeRun_append.mpr ⟨h.flushBufferActions_safe, ?_⟩
  split
  · next hopened =>
    apply safeRun_single
    rw [after_flushBufferActions]
    exact (flushBuffer_handles disk sink).1.trans hopened
  · exact safeRun_nil

theorem after_flushActions : after disk sink sink.flushActions = sink.flush disk := by
  unfold flushActions
  rw [after_append, after_flushBufferActions]
  split
  · rfl
  · rfl

theorem after_closeHandle :
    after disk sink (if sink.fileHandle then [.closeHandle] else []) =
      { sink with fileHandle := false } := by
  split
  · rfl
  · next hclosed =>
    have hfalse : sink.fileHandle = false := by simpa using hclosed
    rw [← hfalse]
    rfl

theorem after_alignedFree :
    after disk sink (if sink.writeBuffer.isSome then [.alignedFree] else []) =
      { sink with writeBuffer := none } := by
  split
  · rfl
  · next hnull =>
    have hnone : sink.writeBuffer = none := by simpa using hnull
    rw [← hnone]
    rfl

theorem Sound.destroyActions_safe (disk : Nat → WriteOutcome) (h : sink.Sound) :
    SafeRun disk sink sink.destroyActions := by
  obtain ⟨hhandle, hbuffer⟩ := flushBuffer_handles disk sink
  have hempty : (sink.flushBuffer disk).bufferedBytes = 0 := flushBuffer_bufferedBytes
  unfold destroyActions
  rw [← hhandle, ← hbuffer]
  refine safeRun_append.mpr ⟨safeRun_append.mpr ⟨h.flushBufferActions_safe, ?_⟩, ?_⟩
  · rw [after_flushBufferActions]
    split
    · next hopened => exact safeRun_single ⟨hopened, hempty⟩
    · exact safeRun_nil
  · rw [after_append, after_flushBufferActions, after_closeHandle]
    split
    · next hallocated => exact safeRun_single ⟨hallocated, hempty⟩
    · exact safeRun_nil

/-- The actions of the destructor do what it does. -/
theorem after_destroyActions : after disk sink sink.destroyActions = sink.destroy disk := by
  obtain ⟨hhandle, hbuffer⟩ := flushBuffer_handles disk sink
  unfold destroyActions
  rw [← hhandle, ← hbuffer, after_append, after_append, after_flushBufferActions,
    after_closeHandle]
  exact after_alignedFree

/-! ## Streams -/

theorem Sound.callActions_safe (disk : Nat → WriteOutcome) (h : sink.Sound) (call : SinkCall) :
    SafeRun disk sink (sink.callActions call) := by
  cases call with
  | write data => exact h.writeActions_safe disk data
  | flush => exact h.flushActions_safe disk

theorem Sound.after_callActions (disk : Nat → WriteOutcome) (h : sink.Sound) (call : SinkCall) :
    after disk sink (sink.callActions call) = ((asSink disk).step sink call).2 := by
  cases call with
  | write data => exact h.after_writeActions disk data
  | flush => exact after_flushActions

/-- **The actions of a stream do what it does.** -/
theorem Sound.after_streamActions (disk : Nat → WriteOutcome) (h : sink.Sound)
    (calls : List SinkCall) :
    after disk sink (streamActions disk sink calls) = ((asSink disk).serve sink calls).2 := by
  induction calls generalizing sink with
  | nil => rfl
  | cons call calls ih =>
      have hsound : (after disk sink (sink.callActions call)).Sound :=
        ((h.callActions_safe disk call).sound h).final
      rw [streamActions, after_append, ih hsound, h.after_callActions disk call]
      rfl

theorem Sound.streamActions_safe (disk : Nat → WriteOutcome) (h : sink.Sound)
    (calls : List SinkCall) : SafeRun disk sink (streamActions disk sink calls) := by
  induction calls generalizing sink with
  | nil => exact safeRun_nil
  | cons call calls ih =>
      have hcall := h.callActions_safe disk call
      exact safeRun_append.mpr ⟨hcall, ih (hcall.sound h).final⟩

/-- **From the constructor's sink to the destructor's.** -/
theorem Sound.lifeActions_safe (disk : Nat → WriteOutcome) (h : sink.Sound)
    (calls : List SinkCall) : SafeRun disk sink (lifeActions disk sink calls) := by
  have hstream := h.streamActions_safe disk calls
  exact safeRun_append.mpr ⟨hstream, (hstream.sound h).final.destroyActions_safe disk⟩

theorem direct_notMem_flushBufferActions {data : List UInt8} :
    .direct data ∉ sink.flushBufferActions := by
  unfold flushBufferActions
  split
  · simp
  · simp

theorem direct_mem_callActions {data : List UInt8} {call : SinkCall}
    (h : .direct data ∈ sink.callActions call) : call = .write data := by
  have hflush {p : Prop} [Decidable p] :
      .direct data ∉ if p then sink.flushBufferActions else [] := by
    split
    · exact direct_notMem_flushBufferActions
    · exact List.not_mem_nil
  cases call with
  | write data' =>
      have hwrite : .direct data ∈ sink.writeActions data' := h
      unfold writeActions at hwrite
      split at hwrite
      · exact absurd hwrite List.not_mem_nil
      · split at hwrite
        · have hdirect := (List.mem_append.mp hwrite).resolve_left hflush
          cases List.mem_singleton.mp hdirect
          rfl
        · have hcopy := (List.mem_append.mp hwrite).resolve_left hflush
          simp at hcopy
  | flush =>
      have hfile := (List.mem_append.mp h).resolve_left direct_notMem_flushBufferActions
      split at hfile
      · simp at hfile
      · exact absurd hfile List.not_mem_nil

/-- Only a `write` makes a direct write, and of its own data. -/
theorem write_mem_of_direct {data : List UInt8} {calls : List SinkCall}
    (h : .direct data ∈ streamActions disk sink calls) : .write data ∈ calls := by
  induction calls generalizing sink with
  | nil => cases h
  | cons call calls ih =>
      rcases List.mem_append.mp h with hcall | hcalls
      · rw [direct_mem_callActions hcall]
        exact List.mem_cons_self
      · exact List.mem_cons_of_mem _ (ih hcalls)

end FileSink

/-! ## The writes of `process_commands` -/

/-- The call of `write` or `flush` that an event records. -/
def servedCall : Event → Option SinkCall
  | .sinkWrite cmd _ => some (.write cmd.payload)
  | .sinkFlush => some .flush
  | _ => none

/-- The calls of `write` and `flush` that a trace records. -/
def servedCalls (es : List Event) : List SinkCall := es.filterMap servedCall

variable {ω : Type} {com : Com ω} {clock : Nat → UInt64} {disk : Nat → WriteOutcome}
  {o o' : Outside ω FileSink}

/-- **A run does to its sink what the calls it records do.** -/
theorem path_serve {es : List Event} (h : Path (fileEnv com clock disk).Answers o es o') :
    o'.sink = ((FileSink.asSink disk).serve o.sink (servedCalls es)).2 := by
  induction h with
  | nil => rfl
  | @cons o o₁ o' e es head tail ih =>
      rw [ih]
      cases e with
      | sinkWrite cmd ok =>
          obtain ⟨s, hs, rfl⟩ := head
          have hwrite : (FileSink.asSink disk).write o.sink cmd.payload = (ok, s) := hs
          have hstep : ((FileSink.asSink disk).step o.sink (.write cmd.payload)).2 = s := by
            rw [Sink.step, hwrite]
          change _ = (Sink.serve _ ((FileSink.asSink disk).step o.sink _).2 (servedCalls es)).2
          rw [hstep]
      | sinkFlush =>
          rw [show o₁ = { o with sink := (FileSink.asSink disk).flush o.sink } from head]
          rfl
      | _ =>
          rw [answers_sink_eq head trivial]
          rfl

/-- The writes of a run are those of valid chunks. -/
theorem payload_of_mem_servedCalls {es : List Event} {data : List UInt8}
    (hsane : ∀ cmd ok, .sinkWrite cmd ok ∈ es → cmd.Sane)
    (h : .write data ∈ servedCalls es) : data.length < 2 ^ 32 := by
  obtain ⟨e, hmem, hcall⟩ := List.mem_filterMap.mp h
  cases e with
  | sinkWrite cmd ok =>
      cases hcall
      exact (hsane cmd ok hmem).payload_lt
  | _ => cases hcall

/-- **The bounds of the buffer.**  Whatever the constructor could open and allocate, whatever calls
of `write` and `flush` are made and whatever every `WriteFile` does: at every moment, until the
destructor has returned, `buffered_bytes_` is at most the size of the buffer and is zero unless the
file is open and the buffer allocated; every action is safe where it is made, so that a `memcpy`
stays in the buffer and `flush_buffer` hands `WriteFile` a handle, a pointer and all of
`buffered_bytes_`; and the memory behind the buffer is as it was.  A call of `process_commands` on
the sink makes such a stream of calls too, and the size of each chunk it writes directly is a
`DWORD`. -/
theorem fileSink_bounds (disk : Nat → WriteOutcome) (opened : Bool)
    (allocated : Option (Nat → UInt8)) (calls : List SinkCall) (com : Com ω)
    (clock : Nat → UInt64) (fuel : Nat) (client : Client) (outside : Outside ω FileSink) :
    let new := FileSink.new opened allocated
    let actions := FileSink.lifeActions disk new calls
    let sink := ((FileSink.asSink disk).serve new calls).2
    let run := runCommands (fileEnv com clock disk) fuel client { outside with sink := sink }
    let written := FileSink.streamActions disk sink (servedCalls run.2.trace)
    (new.after disk actions = sink.destroy disk ∧
        Throughout (fun pre => (new.after disk pre).Bounded) actions ∧
        Always (fun pre action => (new.after disk pre).Safe action) actions ∧
        Throughout (fun pre => new.UntouchedBehind (new.after disk pre)) actions) ∧
      run.2.outside.sink = sink.after disk written ∧
      ∀ data, .direct data ∈ written → data.length % 2 ^ 32 = data.length := by
  intro new actions sink run written
  have hnew : new.Sound := FileSink.sound_new opened allocated
  have hsink : sink = new.after disk (FileSink.streamActions disk new calls) :=
    (hnew.after_streamActions disk calls).symm
  have hsound : sink.Sound := (FileSink.serve_sublist disk hnew calls).1
  have hsafe : FileSink.SafeRun disk new actions := hnew.lifeActions_safe disk calls
  refine ⟨⟨?_, ?_, hsafe, hsafe.untouchedBehind⟩, ?_, ?_⟩
  · change new.after disk (FileSink.streamActions disk new calls ++ _) = _
    rw [FileSink.after_append, ← hsink]
    exact FileSink.after_destroyActions
  · exact (hsafe.sound hnew).imp fun pre hpre => hpre.bounded
  · have hpath := runCommands_path (fileEnv com clock disk) fuel client
      { outside with sink := sink }
    exact (path_serve hpath).trans (hsound.after_streamActions disk _).symm
  · intro data hdirect
    have hrun := runCommands_commandRun (fileEnv com clock disk) fuel client
      { outside with sink := sink }
    exact Nat.mod_eq_of_lt
      (payload_of_mem_servedCalls hrun.stocked.sane (FileSink.write_mem_of_direct hdirect))

end Vdi
