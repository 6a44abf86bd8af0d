import VdiWrapper.ProgramFile

/-!
# Surroundings in which everything works

A disk that keeps what it is given, and a SQL Server that serves a script of commands to whoever has
asked for a backup.  Along a run of the program in such surroundings every call succeeds
(`actions_succeed`), and the answers to `GetCommand` are those of the script (`path_plays`).
-/

namespace Vdi

open Runs

variable {ω : Type} {host : Host ω} {o o' : Outside ω ChosenSink}

/-! ## A disk that keeps everything -/

/-- Every `WriteFile` succeeds and writes whatever fits into a `DWORD`. -/
def KeepsAll (disk : Nat → WriteOutcome) : Prop :=
  ∀ k, (disk k).ok = true ∧ 2 ^ 32 ≤ (disk k).limit

theorem KeepsAll.full {disk : Nat → WriteOutcome} (h : KeepsAll disk) {call : WriteCall} {k : Nat}
    (houtcome : call.outcome = disk k) (hsize : call.bytes.length < 2 ^ 32) : call.Full := by
  obtain ⟨hok, hlimit⟩ := h k
  refine ⟨by rw [houtcome, hok], ?_⟩
  unfold WriteCall.lost WriteCall.written
  rw [houtcome]
  omega

namespace FileSink

variable {disk : Nat → WriteOutcome} {sink : FileSink}

/-- A sink that works and has lost nothing. -/
structure Intact (sink : FileSink) : Prop where
  ready : sink.Ready
  full : ∀ call ∈ sink.calls, call.Full

theorem Ready.length_pending (h : sink.Ready) : sink.pending.length = sink.bufferedBytes := by
  obtain ⟨mem, hmem⟩ := Option.isSome_iff_exists.mp h.allocated
  unfold pending buffered
  rw [hmem]
  exact length_readMemory mem sink.bufferedBytes

theorem Intact.flushBuffer (hdisk : KeepsAll disk) (h : sink.Intact) :
    (sink.flushBuffer disk).Intact := by
  obtain ⟨calls, htakes, -⟩ := flushBuffer_takes disk h.ready
  refine ⟨htakes.ready, ?_⟩
  by_cases hzero : sink.bufferedBytes = 0
  · rw [flushBuffer_of_empty disk hzero]
    exact h.full
  · rw [flushBuffer_of_buffered disk h.ready hzero]
    have hfits := h.ready.fits
    have hsize : (drainCall disk sink).bytes.length < 2 ^ 32 := by
      change sink.pending.length < 2 ^ 32
      rw [h.ready.length_pending]
      unfold writeBufferSize at hfits
      omega
    have hlast : (drainCall disk sink).Full := hdisk.full rfl hsize
    simpa [or_imp, forall_and] using And.intro h.full hlast

/-- On such a disk every write succeeds. -/
theorem Intact.write (hdisk : KeepsAll disk) (h : sink.Intact) {data : List UInt8}
    (hsize : data.length < 2 ^ 32) :
    (sink.write disk data).1 = true ∧ (sink.write disk data).2.Intact := by
  obtain ⟨calls, htakes, -⟩ := write_run disk h.ready hsize
  have hdrained := h.flushBuffer hdisk
  by_cases hlarge : writeBufferSize ≤ data.length
  · obtain ⟨hfst, hsnd⟩ := write_large disk h.ready hsize hlarge
    have hdirect : (directCall disk (sink.flushBuffer disk) data).Full := hdisk.full rfl hsize
    refine ⟨hfst.mpr hdirect, htakes.ready, ?_⟩
    rw [hsnd]
    have hcalls := And.intro hdrained.full hdirect
    simpa [afterDirect, or_imp, forall_and] using hcalls
  · obtain ⟨mem, hmem⟩ := Option.isSome_iff_exists.mp h.ready.allocated
    have hopened := h.ready.opened
    by_cases hover : writeBufferSize < sink.bufferedBytes + data.length
    · have hwrite : (sink.write disk data).1 = true ∧
          (sink.write disk data).2.calls = (sink.flushBuffer disk).calls := by
        unfold FileSink.write
        simp only [hopened, hmem, if_neg hlarge, if_pos hover, and_self]
      refine ⟨hwrite.1, htakes.ready, ?_⟩
      rw [hwrite.2]
      exact hdrained.full
    · have hwrite : (sink.write disk data).1 = true ∧
          (sink.write disk data).2.calls = sink.calls := by
        unfold FileSink.write
        simp only [hopened, hmem, if_neg hlarge, if_neg hover, and_self]
      refine ⟨hwrite.1, htakes.ready, ?_⟩
      rw [hwrite.2]
      exact h.full

end FileSink

/-- The chosen sink works; a `NullSink` always does. -/
def ChosenSink.Intact : ChosenSink → Prop
  | .inl _ => True
  | .inr s => s.Intact

/-- The file can be opened, the buffer allocated, and the disk keeps everything. -/
structure Host.Stores (host : Host ω) : Prop where
  opened : host.opened = true
  allocated : host.allocated.isSome
  disk : KeepsAll host.disk

theorem Host.Stores.newSink (hstores : host.Stores) (options : Options) :
    (host.newSink options).Intact := by
  unfold Host.newSink
  split
  · exact ⟨⟨hstores.opened, hstores.allocated, Nat.zero_le _⟩, by simp [FileSink.new]⟩
  · trivial

/-! ## A server that plays a script -/

/-- SQL Server serves: the set-up succeeds, once it is asked for a backup it has `script` to
play, and it plays it command by command; `left` is what it still has to play. -/
structure Host.Serves (host : Host ω) (left : ω → List Answer) (script : List Answer) : Prop where
  coInitializeEx : ∀ w, failed (host.com.coInitializeEx w).1 = false
  coCreateInstance : ∀ w, failed (host.com.coCreateInstance w).1.1 = false
  createEx : ∀ ds name config w, failed (host.com.createEx ds name config w).1 = false
  /-- `sqlcmd` was launched and issues the statement. -/
  launched : ∀ w, (host.wsystem (sqlcmdLine host.deviceName backupDb) w).1 = 0 →
    left (host.wsystem (sqlcmdLine host.deviceName backupDb) w).2 = script
  /-- Whoever presses Enter has issued it. -/
  entered : ∀ w, left (host.cinGet w) = script
  getConfiguration : ∀ ds timeout w, failed (host.com.getConfiguration ds timeout w).1 = false ∧
    left (host.com.getConfiguration ds timeout w).2 = left w
  openDevice : ∀ ds name w, failed (host.com.openDevice ds name w).1.1 = false ∧
    left (host.com.openDevice ds name w).2 = left w
  getCommand : ∀ device timeout w answer rest, left w = answer :: rest →
    (host.com.getCommand device timeout w).1 = answer ∧
      left (host.com.getCommand device timeout w).2 = rest
  completeCommand : ∀ device cmd code size position w,
    failed (host.com.completeCommand device cmd code size position w).1.1 = false ∧
      left (host.com.completeCommand device cmd code size position w).2 = left w

/-- The call recorded in the event went well. -/
@[simp] def Event.Succeeds : Event → Prop
  | .coInitializeEx hr | .coCreateInstance hr _ | .createEx _ _ _ hr | .getConfiguration _ _ hr
  | .openDevice _ _ hr _ | .completeCommand _ _ _ _ _ hr => failed hr = false
  | .sinkIsOpen ok | .sinkWrite _ ok => ok = true
  | .coUninit | .setClose _ | .setRelease _ | .getCommand .. | .deviceRelease _ | .sinkFlush
  | .nowUs _ | .transition .. | .log _ | .report .. => True

theorem ChosenSink.Intact.isOpen {sink : ChosenSink} (h : sink.Intact) : sink.isOpen = true := by
  cases sink with
  | inl s => rfl
  | inr s => exact h.ready.opened

theorem ChosenSink.Intact.write {sink : ChosenSink} (h : sink.Intact)
    {disk : Nat → WriteOutcome} (hdisk : KeepsAll disk) {data : List UInt8}
    (hsize : data.length < 2 ^ 32) :
    (sink.write disk data).1 = true ∧ (sink.write disk data).2.Intact := by
  cases sink with
  | inl s => exact ⟨rfl, trivial⟩
  | inr s => exact FileSink.Intact.write hdisk h hsize

theorem ChosenSink.Intact.flush {sink : ChosenSink} (h : sink.Intact)
    {disk : Nat → WriteOutcome} (hdisk : KeepsAll disk) : (sink.flush disk).Intact := by
  cases sink with
  | inl s => trivial
  | inr s => exact FileSink.Intact.flushBuffer hdisk h

section Path

variable {left : ω → List Answer} {script : List Answer}

/-- Where SQL Server serves and the disk keeps everything, every call goes well. -/
theorem answers_succeeds (hserves : host.Serves left script) (hstores : host.Stores) {e : Event}
    (h : host.env.Answers o e o') (hintact : o.sink.Intact)
    (hsane : ∀ cmd ok, e = .sinkWrite cmd ok → cmd.Sane) : e.Succeeds ∧ o'.sink.Intact := by
  cases e with
  | coInitializeEx hr =>
      obtain ⟨w, hw, rfl⟩ := h
      have hsame : failed (host.com.coInitializeEx o.world).1 = failed hr :=
        congrArg (failed ·.1) hw
      exact ⟨hsame.symm.trans (hserves.coInitializeEx o.world), hintact⟩
  | coCreateInstance hr ds =>
      obtain ⟨w, hw, rfl⟩ := h
      have hsame : failed (host.com.coCreateInstance o.world).1.1 = failed hr :=
        congrArg (failed ·.1.1) hw
      exact ⟨hsame.symm.trans (hserves.coCreateInstance o.world), hintact⟩
  | createEx ds name config hr =>
      obtain ⟨w, hw, rfl⟩ := h
      have hsame : failed (host.com.createEx ds name config o.world).1 = failed hr :=
        congrArg (failed ·.1) hw
      exact ⟨hsame.symm.trans (hserves.createEx ds name config o.world), hintact⟩
  | getConfiguration ds timeout hr =>
      obtain ⟨w, hw, rfl⟩ := h
      have hsame : failed (host.com.getConfiguration ds timeout o.world).1 = failed hr :=
        congrArg (failed ·.1) hw
      exact ⟨hsame.symm.trans (hserves.getConfiguration ds timeout o.world).1, hintact⟩
  | openDevice ds name hr device =>
      obtain ⟨w, hw, rfl⟩ := h
      have hsame : failed (host.com.openDevice ds name o.world).1.1 = failed hr :=
        congrArg (failed ·.1.1) hw
      exact ⟨hsame.symm.trans (hserves.openDevice ds name o.world).1, hintact⟩
  | completeCommand device cmd code size position hr =>
      obtain ⟨cmd', w, hw, rfl⟩ := h
      have hok := (hserves.completeCommand device cmd code size position o.world).1
      have hsame : failed (host.com.completeCommand device cmd code size position o.world).1.1 =
          failed hr := congrArg (failed ·.1.1) hw
      exact ⟨hsame.symm.trans hok, hintact⟩
  | getCommand =>
      obtain ⟨w, -, rfl⟩ := h
      exact ⟨trivial, hintact⟩
  | sinkIsOpen ok =>
      obtain ⟨s, hs, rfl⟩ := h
      have hanswer : (o.sink.isOpen, o.sink) = (ok, s) := hs
      obtain ⟨hok, rfl⟩ := Prod.mk.inj hanswer
      exact ⟨hok.symm.trans hintact.isOpen, hintact⟩
  | sinkWrite cmd ok =>
      obtain ⟨s, hs, rfl⟩ := h
      have hanswer : o.sink.write host.disk cmd.payload = (ok, s) := hs
      have hwrite := hintact.write hstores.disk (hsane cmd ok rfl).payload_lt
      rw [hanswer] at hwrite
      exact hwrite
  | sinkFlush =>
      have ho' : o' = { o with sink := o.sink.flush host.disk } := h
      rw [ho']
      exact ⟨trivial, hintact.flush hstores.disk⟩
  | nowUs =>
      obtain ⟨-, rfl⟩ := h
      exact ⟨trivial, hintact⟩
  | coUninit | setClose | setRelease | deviceRelease | transition | log | report =>
      rw [h]
      exact ⟨trivial, hintact⟩

theorem actions_succeed (hserves : host.Serves left script) (hstores : host.Stores)
    {acts : List Action} (h : Path host.Answers o acts o') (hintact : o.sink.Intact)
    (hsane : ∀ cmd ok, .sinkWrite cmd ok ∈ clientEvents acts → cmd.Sane) :
    (∀ e ∈ clientEvents acts, e.Succeeds) ∧ o'.sink.Intact := by
  induction h with
  | nil => exact ⟨by simp [clientEvents], hintact⟩
  | @cons o o₁ o' action acts head tail ih =>
      have hsplit : clientEvents (action :: acts) = clientEvents [action] ++ clientEvents acts :=
        clientEvents_append [action] acts
      rw [hsplit] at hsane ⊢
      have htail : ∀ cmd ok, .sinkWrite cmd ok ∈ clientEvents acts → cmd.Sane :=
        fun cmd ok he => hsane cmd ok (List.mem_append_right _ he)
      cases action with
      | client e =>
          obtain ⟨hhead, hintact₁⟩ := answers_succeeds hserves hstores head hintact
            fun cmd ok he => hsane cmd ok (by simp [clientEvents, Action.event?, he])
          obtain ⟨hrest, hintact'⟩ := ih hintact₁ htail
          have hevents : clientEvents [.client e] = [e] := rfl
          rw [hevents]
          exact ⟨List.forall_mem_cons.mpr ⟨hhead, hrest⟩, hintact'⟩
      | wsystem cmdline rc =>
          obtain ⟨w, -, rfl⟩ := head
          exact ih hintact htail
      | cinGet | out | err =>
          have ho₁ : o₁.sink = o.sink := by rw [head]
          exact ih (by rw [ho₁]; exact hintact) htail

/-! ## What is left to play -/

/-- Between the statement and the end of the command loop nothing else happens. -/
@[simp] def Event.DuringService : Event → Prop
  | .getConfiguration .. | .openDevice .. | .getCommand .. | .completeCommand .. | .sinkIsOpen _
  | .sinkWrite .. | .sinkFlush | .nowUs _ | .transition .. | .log _ => True
  | .coInitializeEx _ | .coUninit | .coCreateInstance .. | .createEx .. | .setClose _
  | .setRelease _ | .deviceRelease _ | .report .. => False

/-- Only `GetCommand` moves the script on. -/
theorem answers_left (hserves : host.Serves left script) {e : Event}
    (h : host.env.Answers o e o') (hservice : e.DuringService) (hpoll : e.NoPoll) :
    left o'.world = left o.world := by
  cases e with
  | getConfiguration ds timeout hr =>
      obtain ⟨w, hw, rfl⟩ := h
      have hworld : (host.com.getConfiguration ds timeout o.world).2 = w := congrArg Prod.snd hw
      rw [← hworld]
      exact (hserves.getConfiguration ds timeout o.world).2
  | openDevice ds name hr device =>
      obtain ⟨w, hw, rfl⟩ := h
      have hworld : (host.com.openDevice ds name o.world).2 = w := congrArg Prod.snd hw
      rw [← hworld]
      exact (hserves.openDevice ds name o.world).2
  | completeCommand device cmd code size position hr =>
      obtain ⟨cmd', w, hw, rfl⟩ := h
      have hworld : (host.com.completeCommand device cmd code size position o.world).2 = w :=
        congrArg Prod.snd hw
      rw [← hworld]
      exact (hserves.completeCommand device cmd code size position o.world).2
  | getCommand => exact hpoll.elim
  | sinkIsOpen | sinkWrite =>
      obtain ⟨s, -, rfl⟩ := h
      rfl
  | nowUs =>
      obtain ⟨-, rfl⟩ := h
      rfl
  | sinkFlush | transition | log => rw [h]
  | coInitializeEx | coUninit | coCreateInstance | createEx | setClose | setRelease
  | deviceRelease | report => exact hservice.elim

theorem path_left (hserves : host.Serves left script) {es : List Event}
    (h : Path host.env.Answers o es o') (hservice : ∀ e ∈ es, e.DuringService ∧ e.NoPoll) :
    left o'.world = left o.world := by
  induction h with
  | nil => rfl
  | cons head tail ih =>
      obtain ⟨hhead, htail⟩ := List.forall_mem_cons.mp hservice
      exact (ih htail).trans (answers_left hserves head hhead.1 hhead.2)

/-- The answers of a stretch of service are the next ones of the script, unless it ran out. -/
theorem path_plays (hserves : host.Serves left script) {es : List Event}
    (h : Path host.env.Answers o es o') (hservice : ∀ e ∈ es, e.DuringService) :
    left o.world = pollAnswers es ++ left o'.world ∨ left o.world <+: pollAnswers es := by
  induction h with
  | nil => exact .inl rfl
  | @cons o o₁ o' e es head tail ih =>
      obtain ⟨hhead, htail⟩ := List.forall_mem_cons.mp hservice
      have hrest := ih htail
      by_cases hpoll : e.NoPoll
      · have hnone : pollAnswers (e :: es) = pollAnswers es := by
          have hsingle : pollAnswers [e] = [] := pollAnswers_eq_nil (by simpa using hpoll)
          have hsplit := pollAnswers_append [e] es
          rwa [hsingle] at hsplit
        rw [hnone, ← answers_left hserves head hhead hpoll]
        exact hrest
      · cases e with
        | getCommand device timeout hr cmd =>
            obtain ⟨w, hw, rfl⟩ := head
            have hsplit : pollAnswers (.getCommand device timeout hr cmd :: es) =
                (hr, cmd) :: pollAnswers es := rfl
            rw [hsplit]
            cases hleft : left o.world with
            | nil => exact .inr List.nil_prefix
            | cons answer rest =>
                obtain ⟨hanswer, hnext⟩ :=
                  hserves.getCommand device timeout o.world answer rest hleft
                have hcall : host.com.getCommand device timeout o.world = ((hr, cmd), w) := hw
                rw [hcall] at hanswer hnext
                have hnext : left w = rest := hnext
                rw [← hanswer]
                obtain hplayed | hover := hrest
                · left
                  rw [← hnext, List.cons_append]
                  exact congrArg _ hplayed
                · right
                  rw [← hnext]
                  exact List.cons_prefix_cons.mpr ⟨rfl, hover⟩
        | _ => exact absurd trivial hpoll

end Path

end Vdi
