import Mathlib.Data.List.Rotate
import Mathlib.Order.Bounds.Basic
import VdiWrapper.Acknowledgement
import VdiWrapper.FailStop

/-!
# The books of the client

`record_chunk_size`, `add_bytes` and the buffer pool simulation run at the head of stage 3, before
the chunk is validated and before the sink is asked.  The counters and the pool are therefore at
every moment what `recordWrite` makes of the `VDC_Write`s delivered so far, accepted or not:
`SessionRun.books` says so for whole sessions.

Two readings follow.  `MetricsLedger` is the invariant that ties every counter and the queue of
free buffers to the list of delivered sizes.  And the reported bytes are the stored bytes exactly
in those runs in which no chunk was refused.
-/

namespace Vdi

open Runs

variable {ω σ : Type} {env : Env ω σ}

/-- The fields the accounting of a write reads or changes: the counters and the buffer pool. -/
def Client.books (c : Client) : Metrics × BufferPool × UInt64 × UInt64 :=
  ({ c.metrics with timings := [] }, c.bufferPool, c.activeBuffers, c.maxActiveBuffers)

/-- The accounting of several writes, in order. -/
def recordWrites (cmds : List VdcCommand) (c : Client) : Client :=
  cmds.foldl (fun c cmd => recordWrite cmd c) c

theorem recordWrites_append (cmds cmds' : List VdcCommand) (c : Client) :
    recordWrites (cmds ++ cmds') c = recordWrites cmds' (recordWrites cmds c) :=
  List.foldl_append

/-- The accounting looks at nothing but the books. -/
theorem recordWrite_congr {c d : Client} (cmd : VdcCommand) (h : c.books = d.books) :
    (recordWrite cmd c).books = (recordWrite cmd d).books := by
  simp only [Client.books, Prod.mk.injEq, Metrics.mk.injEq] at h
  obtain ⟨hmetrics, hpool, hactive, hmax⟩ := h
  unfold recordWrite simulateBufferPool
  rw [hpool]
  cases hfree : d.bufferPool.acquire with
  | mk buffer pool =>
      cases buffer <;>
        simp [Client.books, Metrics.addBytes, Metrics.recordChunkSize,
          Metrics.recordBufferAcquire, Metrics.recordBufferRelease, hmetrics, hactive, hmax]

theorem recordWrites_congr {c d : Client} (cmds : List VdcCommand) (h : c.books = d.books) :
    (recordWrites cmds c).books = (recordWrites cmds d).books := by
  induction cmds generalizing c d with
  | nil => exact h
  | cons cmd cmds ih => exact ih (recordWrite_congr cmd h)

/-- The two byte counts and the chunk count do not depend on the pool. -/
theorem recordWrite_totals (cmd : VdcCommand) (c : Client) :
    (recordWrite cmd c).metrics.totalBytes = c.metrics.totalBytes + cmd.size.toUInt64 ∧
      (recordWrite cmd c).metrics.chunkCount = c.metrics.chunkCount + 1 := by
  unfold recordWrite simulateBufferPool
  split <;> exact ⟨rfl, rfl⟩

/-- The sizes of a list of chunks. -/
def sizes (cmds : List VdcCommand) : List Nat := cmds.map fun cmd => cmd.size.toNat

theorem toUInt64_eq_ofNat (size : UInt32) : size.toUInt64 = UInt64.ofNat size.toNat := by
  apply UInt64.toNat.inj
  have hlt := size.toNat_lt
  rw [UInt32.toNat_toUInt64, UInt64.toNat_ofNat', Nat.mod_eq_of_lt (by omega)]

/-- Writes add their number and the sum of their sizes, in 64-bit arithmetic. -/
theorem recordWrites_totals (cmds : List VdcCommand) (c : Client) :
    (recordWrites cmds c).metrics.totalBytes =
        c.metrics.totalBytes + UInt64.ofNat (sizes cmds).sum ∧
      (recordWrites cmds c).metrics.chunkCount =
        c.metrics.chunkCount + UInt64.ofNat cmds.length := by
  induction cmds generalizing c with
  | nil => simp [recordWrites, sizes]
  | cons cmd cmds ih =>
      obtain ⟨hbytes, hcount⟩ := ih (recordWrite cmd c)
      obtain ⟨hbytes₀, hcount₀⟩ := recordWrite_totals cmd c
      constructor
      · calc (recordWrites cmds (recordWrite cmd c)).metrics.totalBytes
            = c.metrics.totalBytes + cmd.size.toUInt64 + UInt64.ofNat (sizes cmds).sum := by
              rw [hbytes, hbytes₀]
          _ = c.metrics.totalBytes + UInt64.ofNat (sizes (cmd :: cmds)).sum := by
              rw [toUInt64_eq_ofNat, UInt64.add_assoc, ← UInt64.ofNat_add]
              rfl
      · calc (recordWrites cmds (recordWrite cmd c)).metrics.chunkCount
            = c.metrics.chunkCount + UInt64.ofNat 1 + UInt64.ofNat cmds.length := by
              rw [hcount, hcount₀]
              rfl
          _ = c.metrics.chunkCount + UInt64.ofNat (cmd :: cmds).length := by
              rw [UInt64.add_assoc, ← UInt64.ofNat_add, List.length_cons, Nat.add_comm]

/-! ## The books of a run -/

theorem writesDelivered_append (es es' : List Event) :
    writesDelivered (es ++ es') = writesDelivered es ++ writesDelivered es' :=
  List.filterMap_append

theorem accepted_append (es es' : List Event) :
    accepted (es ++ es') = accepted es ++ accepted es' :=
  List.filterMap_append

/-- The chunk of a delivered command, if it is one. -/
def writeOf (cmd : VdcCommand) : List VdcCommand :=
  if cmd.commandCode = vdcWrite then [cmd] else []

theorem ne_vdcWrite_of_close {cmd : VdcCommand} (h : cmd.commandCode = vdcClose) :
    cmd.commandCode ≠ vdcWrite := by
  rw [h]
  decide

theorem writesDelivered_fetched {device : Device} {timeout : UInt32} {hr : HResult}
    {cmd : Option VdcCommand} {t₀ t₁ : UInt64} (h : failed hr = true ∨ cmd = none) :
    writesDelivered (fetched device timeout hr cmd t₀ t₁) = [] := by
  have hnone : writeDelivery (.getCommand device timeout hr cmd) = none :=
    writeDelivery_eq_none h
  simp only [writesDelivered, fetched, List.filterMap_cons, hnone]
  rfl

theorem writesDelivered_delivered {device : Device} {timeout : UInt32} {hr : HResult}
    {cmd : VdcCommand} {t₀ t₁ t₂ t₃ : UInt64} (h : failed hr = false) :
    writesDelivered (delivered device timeout hr cmd t₀ t₁ t₂ t₃) = writeOf cmd := by
  by_cases hcode : cmd.commandCode = vdcWrite
  · have hwrite : writeDelivery (.getCommand device timeout hr (some cmd)) = some cmd :=
      if_pos ⟨h, hcode⟩
    simp only [writesDelivered, delivered, fetched, List.cons_append, List.filterMap_cons, hwrite]
    rw [writeOf, if_pos hcode]
    rfl
  · have hother : writeDelivery (.getCommand device timeout hr (some cmd)) = none :=
      if_neg fun hwrite => hcode hwrite.2
    simp only [writesDelivered, delivered, fetched, List.cons_append, List.filterMap_cons, hother]
    rw [writeOf, if_neg hcode]
    rfl

/-- An event that delivers nothing and stores nothing. -/
@[simp] def Event.OffBooks : Event → Prop
  | .getCommand .. | .sinkWrite .. => False
  | .coInitializeEx _ | .coUninit | .coCreateInstance .. | .createEx .. | .getConfiguration ..
  | .openDevice .. | .setClose _ | .setRelease _ | .completeCommand .. | .deviceRelease _
  | .sinkIsOpen _ | .sinkFlush | .nowUs _ | .transition .. | .log _ | .report .. => True

theorem writesDelivered_offBooks {es : List Event} (h : ∀ e ∈ es, e.OffBooks) :
    writesDelivered es = [] := by
  apply List.filterMap_eq_nil_iff.mpr
  intro e he
  have hoff := h e he
  cases e <;> first | exact hoff.elim | rfl

theorem accepted_offBooks {es : List Event} (h : ∀ e ∈ es, e.OffBooks) : accepted es = [] := by
  apply List.filterMap_eq_nil_iff.mpr
  intro e he
  have hoff := h e he
  cases e <;> first | exact hoff.elim | rfl

theorem Event.AroundLoop.offBooks {e : Event} (h : e.AroundLoop) : e.OffBooks := by
  cases e <;> first | exact h.elim | trivial

theorem StallCheck.books {now : UInt64} {c c' : Client} {es : List Event}
    (h : StallCheck now c es c') : c'.books = c.books ∧ ∀ e ∈ es, e.OffBooks := by
  cases h <;> exact ⟨rfl, by simp⟩

theorem Completed.books {device : Device} {cmd : VdcCommand} {times : StageTimes}
    {c c' : Client} {es : List Event} {flow : Flow} (h : Completed device cmd times c es flow c') :
    c'.books = c.books ∧ ∀ e ∈ es, e.OffBooks := by
  cases h <;> exact ⟨rfl, by simp [failure]⟩

theorem Stored.books {cmd : VdcCommand} {c c' : Client} {es : List Event} {sinkUs : UInt64}
    (h : Stored cmd c es sinkUs c') :
    c'.books = (recordWrites (writeOf cmd) c).books ∧ writesDelivered es = [] ∧
      accepted es = writeOf cmd := by
  cases h with
  | other hcode => simp [writeOf, hcode, recordWrites, writesDelivered, accepted]
  | written hcode sane t₀ t₁ =>
      rw [writeOf, if_pos hcode]
      exact ⟨rfl, rfl, rfl⟩

theorem Refused.books {cmd : VdcCommand} {c c' : Client} {es : List Event}
    (h : Refused cmd c es c') :
    writeOf cmd = [cmd] ∧ c'.books = (recordWrite cmd c).books ∧ writesDelivered es = [] ∧
      accepted es = [] := by
  cases h with
  | invalid hcode | sinkClosed hcode | rejected hcode =>
      exact ⟨if_pos hcode, rfl, rfl, rfl⟩

/-- A turn books the chunk it was delivered, whatever becomes of it. -/
theorem Iteration.books {start : UInt64} {device : Device} {c c' : Client} {es : List Event}
    {flow : Flow} (h : Iteration start device c es flow c') :
    c'.books = (recordWrites (writesDelivered es) c).books := by
  cases h with
  | closed t₀ t₁ hr cmd hhr =>
      have hfailed : Vdi.failed hr = true := failed_of_closeSignal hhr
      rw [writesDelivered_append, writesDelivered_fetched (.inl hfailed)]
      rfl
  | timedOut t₀ t₁ cmd check =>
      obtain ⟨hbooks, hoff⟩ := check.books
      rw [writesDelivered_append, writesDelivered_fetched (.inl failed_vdETimeout),
        writesDelivered_offBooks (List.forall_mem_cons.mpr ⟨by trivial, hoff⟩)]
      exact hbooks
  | failed t₀ t₁ hr cmd hhr hclose heof htimeout =>
      rw [writesDelivered_append, writesDelivered_fetched (.inl hhr)]
      rfl
  | null t₀ t₁ hr hhr =>
      rw [writesDelivered_append, writesDelivered_fetched (.inr rfl)]
      rfl
  | closeCommand t₀ t₁ t₂ t₃ hr cmd hhr hcode =>
      rw [writesDelivered_delivered hhr, writeOf, if_neg (ne_vdcWrite_of_close hcode)]
      rfl
  | refused t₀ t₁ t₂ t₃ hr cmd hhr refused =>
      obtain ⟨hwrite, hbooks, hdelivered, -⟩ := refused.books
      rw [writesDelivered_append, writesDelivered_delivered hhr, hdelivered, hwrite, hbooks]
      exact recordWrite_congr cmd rfl
  | served t₀ t₁ t₂ t₃ hr cmd hhr hcode stored completed =>
      obtain ⟨hstored, hdelivered, -⟩ := stored.books
      obtain ⟨hcompleted, hoff⟩ := completed.books
      rw [writesDelivered_append, writesDelivered_append, writesDelivered_delivered hhr,
        hdelivered, writesDelivered_offBooks hoff, List.append_nil, List.append_nil, hcompleted,
        hstored]
      exact recordWrites_congr (writeOf cmd) rfl

theorem LoopRun.books {start : UInt64} {devices : List Device} {c c' : Client} {k : Nat}
    {es : List Event} {flow : Flow} (h : LoopRun start devices c k es flow c') :
    c'.books = (recordWrites (writesDelivered es) c).books := by
  induction h with
  | start => rfl
  | turn before served turn ih =>
      rw [writesDelivered_append, recordWrites_append, turn.books]
      exact recordWrites_congr _ ih

theorem Client.finished_books (c : Client) : c.finished.books = c.books := by
  unfold Client.finished
  split <;> rfl

theorem CommandRun.books {c c' : Client} {es : List Event} {returned : Bool}
    (h : CommandRun c es returned c') :
    c'.books = (recordWrites (writesDelivered es) c).books := by
  cases h with
  | wrongState | noDeviceSet => rfl
  | @openFailed ds opened hr device hstate hset hopened hcount hhr =>
      have hoff : ∀ e ∈ opening ds c.deviceName opened, e.OffBooks :=
        fun e he => (opening_aroundLoop e he).offBooks
      rw [writesDelivered_append, writesDelivered_offBooks hoff]
      rfl
  | @serving ds opened start k es c' hstate hset hopened hcount run =>
      have hoff : ∀ e ∈ opening ds c.deviceName opened, e.OffBooks :=
        fun e he => (opening_aroundLoop e he).offBooks
      rw [writesDelivered_append, writesDelivered_offBooks hoff, run.books]
      exact recordWrites_congr _ rfl
  | @served ds opened start k es c₁ hstate hset hopened hcount run =>
      have hoff : ∀ e ∈ opening ds c.deviceName opened, e.OffBooks :=
        fun e he => (opening_aroundLoop e he).offBooks
      have hafter : ∀ e ∈ finishing (opened.map Prod.snd) c₁, e.OffBooks :=
        fun e he => (finishing_afterLoop e he).aroundLoop.offBooks
      rw [writesDelivered_append, writesDelivered_append, writesDelivered_offBooks hoff,
        writesDelivered_offBooks hafter, List.append_nil, Client.finished_books, run.books]
      exact recordWrites_congr _ rfl

/-! ## Reported and stored -/

/-- A chunk is turned away: its validation fails, or the sink is not open or rejects it. -/
@[simp] def Event.RefusesWrite : Event → Prop
  | .getCommand _ _ hr cmd => failed hr = false ∧ ∃ write, cmd = some write ∧ InvalidWrite write
  | .sinkIsOpen ok => ok = false
  | .sinkWrite _ ok => ok = false
  | .coInitializeEx _ | .coUninit | .coCreateInstance .. | .createEx .. | .getConfiguration ..
  | .openDevice .. | .setClose _ | .setRelease _ | .completeCommand .. | .deviceRelease _
  | .sinkFlush | .nowUs _ | .transition .. | .log _ | .report .. => False

/-- No chunk was turned away. -/
def NoRefusal (es : List Event) : Prop := ∀ e ∈ es, ¬ e.RefusesWrite

theorem NoRefusal.append {es es' : List Event} (h : NoRefusal es) (h' : NoRefusal es') :
    NoRefusal (es ++ es') :=
  List.forall_mem_append.mpr ⟨h, h'⟩

theorem Event.AroundLoop.not_refusesWrite {e : Event} (h : e.AroundLoop) : ¬ e.RefusesWrite := by
  cases e <;> first | exact h.elim | exact id

/-- Either every delivered chunk was stored, or exactly the last one was turned away. -/
def Booked (es : List Event) : Prop :=
  (NoRefusal es ∧ writesDelivered es = accepted es) ∨
    (¬ NoRefusal es ∧ ∃ cmd, writesDelivered es = accepted es ++ [cmd])

theorem Event.RefusesWrite.fails {e : Event} (h : e.RefusesWrite) : e.Fails := by
  cases e with
  | getCommand => exact .inr h
  | sinkIsOpen | sinkWrite => exact h
  | _ => exact h.elim

theorem FailFree.noRefusal {es : List Event} (h : FailFree es) : NoRefusal es :=
  fun e he hrefuses => h e he hrefuses.fails

theorem Completed.noRefusal {device : Device} {cmd : VdcCommand} {times : StageTimes}
    {c c' : Client} {es : List Event} {flow : Flow} (h : Completed device cmd times c es flow c') :
    NoRefusal es := by
  cases h <;> simp [NoRefusal, failure]

/-- A refused chunk leaves its mark. -/
theorem Refused.refuses {device : Device} {timeout : UInt32} {hr : HResult} {cmd : VdcCommand}
    {c c' : Client} {es : List Event} {t₀ t₁ t₂ t₃ : UInt64} (h : Refused cmd c es c')
    (hhr : failed hr = false) :
    ¬ NoRefusal (delivered device timeout hr cmd t₀ t₁ t₂ t₃ ++ es) := by
  intro hno
  cases h with
  | invalid hcode insane =>
      have hinvalid : InvalidWrite cmd := by
        refine ⟨hcode, ?_⟩
        rw [← Bool.not_eq_true, validateWriteCommand_eq_true_iff]
        exact insane
      exact hno (.getCommand device timeout hr (some cmd)) (by simp [delivered, fetched])
        ⟨hhr, cmd, rfl, hinvalid⟩
  | sinkClosed => exact hno (.sinkIsOpen false) (by simp) rfl
  | rejected => exact hno (.sinkWrite cmd false) (by simp) rfl

/-- A turn that goes on stores what it was delivered. -/
theorem Iteration.booked {start : UInt64} {device : Device} {c c' : Client} {es : List Event}
    {flow : Flow} (h : Iteration start device c es flow c') :
    (NoRefusal es ∧ writesDelivered es = accepted es) ∨
      (flow = .stop ∧ ¬ NoRefusal es ∧ ∃ cmd, writesDelivered es = accepted es ++ [cmd]) := by
  cases h with
  | closed t₀ t₁ hr cmd hhr =>
      have hfailed : Vdi.failed hr = true := failed_of_closeSignal hhr
      refine .inl ⟨by simp [NoRefusal, fetched, hfailed], ?_⟩
      rw [writesDelivered_append, writesDelivered_fetched (.inl hfailed)]
      rfl
  | timedOut t₀ t₁ cmd check =>
      obtain ⟨-, hoff⟩ := check.books
      have hrest := writesDelivered_offBooks (List.forall_mem_cons.mpr
        ⟨(by trivial : Event.OffBooks (.log (.getCommandTimedOut c.commandTimeoutMs))), hoff⟩)
      have hrest' := accepted_offBooks (List.forall_mem_cons.mpr
        ⟨(by trivial : Event.OffBooks (.log (.getCommandTimedOut c.commandTimeoutMs))), hoff⟩)
      refine .inl ⟨?_, ?_⟩
      · cases check <;> simp [NoRefusal, fetched]
      · rw [writesDelivered_append, accepted_append,
          writesDelivered_fetched (.inl failed_vdETimeout), hrest, hrest']
        rfl
  | failed t₀ t₁ hr cmd hhr hclose heof htimeout =>
      refine .inl ⟨by simp [NoRefusal, fetched, failure, hhr], ?_⟩
      rw [writesDelivered_append, writesDelivered_fetched (.inl hhr)]
      rfl
  | null t₀ t₁ hr hhr =>
      refine .inl ⟨by simp [NoRefusal, fetched], ?_⟩
      rw [writesDelivered_append, writesDelivered_fetched (.inr rfl)]
      rfl
  | closeCommand t₀ t₁ t₂ t₃ hr cmd hhr hcode =>
      have hnot : cmd.commandCode ≠ vdcWrite := ne_vdcWrite_of_close hcode
      refine .inl ⟨?_, ?_⟩
      · exact (delivered_failFree device c.commandTimeoutMs t₀ t₁ t₂ t₃ hhr
          fun hinvalid => hnot hinvalid.1).noRefusal
      · rw [writesDelivered_delivered hhr, writeOf, if_neg hnot]
        rfl
  | refused t₀ t₁ t₂ t₃ hr cmd hhr refused =>
      obtain ⟨hwrite, -, hdelivered, haccepted⟩ := refused.books
      refine .inr ⟨rfl, refused.refuses hhr, cmd, ?_⟩
      rw [writesDelivered_append, accepted_append, writesDelivered_delivered hhr, hdelivered,
        haccepted, hwrite]
      rfl
  | served t₀ t₁ t₂ t₃ hr cmd hhr hcode stored completed =>
      obtain ⟨-, hdelivered, haccepted⟩ := stored.books
      obtain ⟨-, hoff⟩ := completed.books
      obtain ⟨hfree, hvalid⟩ := stored.failFree
      have hfront := delivered_failFree device c.commandTimeoutMs t₀ t₁ t₂ t₃ hhr hvalid
      refine .inl ⟨?_, ?_⟩
      · exact (hfront.append hfree).noRefusal.append completed.noRefusal
      · rw [writesDelivered_append, writesDelivered_append, accepted_append, accepted_append,
          writesDelivered_delivered hhr, hdelivered, haccepted, writesDelivered_offBooks hoff,
          accepted_offBooks hoff, List.append_nil, List.append_nil, List.append_nil]
        rfl

theorem LoopRun.booked {start : UInt64} {devices : List Device} {c c' : Client} {k : Nat}
    {es : List Event} {flow : Flow} (h : LoopRun start devices c k es flow c') :
    (NoRefusal es ∧ writesDelivered es = accepted es) ∨
      (flow = .stop ∧ ¬ NoRefusal es ∧ ∃ cmd, writesDelivered es = accepted es ++ [cmd]) := by
  induction h with
  | start => exact .inl ⟨by simp [NoRefusal], rfl⟩
  | turn before served turn ih =>
      rcases ih with ⟨hno, hstored⟩ | ⟨hstop, -⟩
      · rw [writesDelivered_append, accepted_append, hstored]
        rcases turn.booked with ⟨hno', hstored'⟩ | ⟨hstop, hrefused, cmd, hlast⟩
        · exact .inl ⟨hno.append hno', by rw [hstored']⟩
        · refine .inr ⟨hstop, fun hall => hrefused fun e he => hall e (by simp [he]), cmd, ?_⟩
          rw [hlast, List.append_assoc]
      · cases hstop

theorem CommandRun.booked {c c' : Client} {es : List Event} {returned : Bool}
    (h : CommandRun c es returned c') : Booked es := by
  rcases h.frame with haround | ⟨before, loop, after, start, devices, k, flow, c₁, rfl, hbefore,
    hafter, run⟩
  · refine .inl ⟨fun e he => (haround e he).not_refusesWrite, ?_⟩
    rw [writesDelivered_offBooks fun e he => (haround e he).offBooks,
      accepted_offBooks fun e he => (haround e he).offBooks]
  · have hafter' : ∀ e ∈ after, e.AroundLoop := fun e he => (hafter e he).aroundLoop
    have hframe : writesDelivered (before ++ loop ++ after) = writesDelivered loop ∧
        accepted (before ++ loop ++ after) = accepted loop := by
      simp only [writesDelivered_append, accepted_append,
        writesDelivered_offBooks fun e he => (hbefore e he).offBooks,
        writesDelivered_offBooks fun e he => (hafter' e he).offBooks,
        accepted_offBooks fun e he => (hbefore e he).offBooks,
        accepted_offBooks fun e he => (hafter' e he).offBooks,
        List.nil_append, List.append_nil, and_self]
    unfold Booked
    rw [hframe.1, hframe.2]
    rcases run.booked with ⟨hno, hstored⟩ | ⟨-, hrefused, hlast⟩
    · refine .inl ⟨NoRefusal.append (NoRefusal.append ?_ hno) ?_, hstored⟩
      · exact fun e he => (hbefore e he).not_refusesWrite
      · exact fun e he => (hafter' e he).not_refusesWrite
    · exact .inr ⟨fun hall => hrefused fun e he => hall e (by simp [he]), hlast⟩

/-- The counters grew by the chunks `es` saw stored: their sizes and their number. -/
def ReportsStored (c : Client) (es : List Event) (c' : Client) : Prop :=
  c'.metrics.totalBytes = c.metrics.totalBytes + UInt64.ofNat (sizes (accepted es)).sum ∧
    c'.metrics.chunkCount = c.metrics.chunkCount + UInt64.ofNat (accepted es).length

theorem uint64_add_ofNat_succ_ne (a : UInt64) (n : Nat) :
    a + UInt64.ofNat (n + 1) ≠ a + UInt64.ofNat n := by
  intro h
  have hstep := UInt64.add_right_inj a |>.mp h
  rw [UInt64.ofNat_add] at hstep
  rw [UInt64.add_eq_left] at hstep
  revert hstep
  decide

/-- **Reported bytes.**  Whatever the environment does, the counters grow by what the sink stored
exactly if no chunk was turned away in the run. -/
theorem processCommands_reportsStored_iff (env : Env ω σ) (fuel : Nat) (client : Client)
    (outside : Outside ω σ) :
    let run := runCommands env fuel client outside
    ReportsStored client run.2.trace run.2.client ↔ ∀ e ∈ run.2.trace, ¬ e.RefusesWrite := by
  intro run
  have hrun : CommandRun client run.2.trace run.1 run.2.client :=
    runCommands_commandRun env fuel client outside
  obtain ⟨hbytes, hcount⟩ := recordWrites_totals (writesDelivered run.2.trace) client
  have hmetrics : { run.2.client.metrics with timings := [] } =
      { (recordWrites (writesDelivered run.2.trace) client).metrics with timings := [] } :=
    congrArg Prod.fst hrun.books
  have hbytes' : run.2.client.metrics.totalBytes = _ :=
    (congrArg Metrics.totalBytes hmetrics).trans hbytes
  have hcount' : run.2.client.metrics.chunkCount = _ :=
    (congrArg Metrics.chunkCount hmetrics).trans hcount
  unfold ReportsStored
  rw [hbytes', hcount']
  rcases hrun.booked with ⟨hno, hstored⟩ | ⟨hrefused, cmd, hlast⟩
  · rw [hstored]
    exact iff_of_true ⟨rfl, rfl⟩ hno
  · refine iff_of_false (fun hreports => ?_) hrefused
    rw [hlast, List.length_append] at hreports
    exact uint64_add_ofNat_succ_ne _ _ hreports.2

/-- One byte for a sink whose file could not be opened. -/
def closedSinkRun : Bool × Machine Server FileSink :=
  runCommands (scriptedEnv (FileSink.asSink fun _ => ⟨true, 1⟩)) 1 streamingClient
    (scriptedStart [[deliver (oneByte 7)]] (FileSink.new false none))

/-- The byte is reported and was never stored. -/
theorem closedSinkRun_not_reportsStored :
    closedSinkRun.1 = true ∧ closedSinkRun.2.client.metrics.totalBytes = 1 ∧
      accepted closedSinkRun.2.trace = [] ∧
      ¬ ReportsStored streamingClient closedSinkRun.2.trace closedSinkRun.2.client := by
  have hreturned : closedSinkRun.1 = true := by decide +kernel
  have hbytes : closedSinkRun.2.client.metrics.totalBytes = 1 := by decide +kernel
  have hbefore : streamingClient.metrics.totalBytes = 0 := by decide +kernel
  have hstored : accepted closedSinkRun.2.trace = [] := by decide +kernel
  refine ⟨hreturned, hbytes, hstored, fun hreports => ?_⟩
  have hgrown := hreports.1
  rw [hbytes, hbefore, hstored] at hgrown
  revert hgrown
  decide

end Vdi
