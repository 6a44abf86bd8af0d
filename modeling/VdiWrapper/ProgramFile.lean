import VdiWrapper.ProgramLife

/-!
# The file the program leaves behind

With `--sink file` the sink of `main` is a `FileSink`.  Whichever way `main` ends, the destructor of
the sink is the last to run, so that what a session that failed left in the buffer is still
written.  `runMain_file` says what `backup_stream.bin` holds when the process is gone, if it could
be opened and the buffer of the sink was allocated.
-/

namespace Vdi

open Runs

variable {ω : Type} {host : Host ω} {o o' : Outside ω ChosenSink} {s : FileSink}

/-- The same surroundings with `s` for a sink. -/
def Outside.withSink (o : Outside ω ChosenSink) (s : FileSink) : Outside ω FileSink where
  world := o.world
  sink := s
  ticks := o.ticks

/-- A chosen `FileSink` behaves as one. -/
theorem answers_chosen {e : Event} (h : host.env.Answers o e o') (hs : o.sink = .inr s) :
    ∃ s', o'.sink = .inr s' ∧
      (fileEnv host.com host.clock host.disk).Answers (o.withSink s) e (o'.withSink s') := by
  cases e with
  | sinkWrite cmd ok =>
      obtain ⟨t, ht, ho'⟩ := h
      have hwrite : ChosenSink.write host.disk o.sink cmd.payload = (ok, t) := ht
      rw [hs] at hwrite
      obtain ⟨hok, ht'⟩ := Prod.mk.inj hwrite
      rw [ho']
      exact ⟨(s.write host.disk cmd.payload).2, ht'.symm, _, Prod.ext hok rfl, rfl⟩
  | sinkFlush =>
      have ho' : o' = { o with sink := ChosenSink.flush host.disk o.sink } := h
      rw [ho', hs]
      exact ⟨s.flush host.disk, rfl, rfl⟩
  | sinkIsOpen ok =>
      obtain ⟨t, ht, ho'⟩ := h
      have hopen : (ChosenSink.isOpen o.sink, o.sink) = (ok, t) := ht
      obtain ⟨hok, ht'⟩ := Prod.mk.inj hopen
      rw [hs] at hok ht'
      rw [ho']
      exact ⟨s, ht'.symm, s, Prod.ext hok rfl, rfl⟩
  | nowUs t =>
      obtain ⟨ht, ho'⟩ := h
      rw [ho']
      exact ⟨s, hs, ht, rfl⟩
  | coUninit | setClose | setRelease | deviceRelease | transition | log | report =>
      rw [h]
      exact ⟨s, hs, rfl⟩
  | coInitializeEx | coCreateInstance | createEx | getConfiguration | openDevice | getCommand =>
      obtain ⟨w, hw, ho'⟩ := h
      rw [ho']
      exact ⟨s, hs, w, hw, rfl⟩
  | completeCommand =>
      obtain ⟨cmd', w, hw, ho'⟩ := h
      rw [ho']
      exact ⟨s, hs, cmd', w, hw, rfl⟩

/-- What an action does to the sink. -/
theorem action_takes {action : Action} (h : host.Answers o action o') (hs : o.sink = .inr s)
    (hready : s.Ready) (hsane : ∀ cmd ok, .sinkWrite cmd ok ∈ clientEvents [action] → cmd.Sane) :
    ∃ s' calls, o'.sink = .inr s' ∧
      s.Takes (payloads (offered (clientEvents [action]))) calls s' ∧
      RejectsShort calls (clientEvents [action]) := by
  cases action with
  | client e =>
      obtain ⟨s', hs', hanswers⟩ := answers_chosen h hs
      obtain ⟨calls, htakes, hshort⟩ := answers_takes hanswers hready
        fun cmd ok he => hsane cmd ok (by simp [clientEvents, Action.event?, he])
      exact ⟨s', calls, hs', htakes, hshort⟩
  | wsystem cmdline rc =>
      obtain ⟨w, -, ho'⟩ := h
      rw [ho']
      exact ⟨s, [], hs, .refl hready, iff_of_true (by simp) (by simp [clientEvents, Action.event?])⟩
  | cinGet | out | err =>
      rw [h]
      exact ⟨s, [], hs, .refl hready, iff_of_true (by simp) (by simp [clientEvents, Action.event?])⟩

/-- What a run of the program does to the sink. -/
theorem actions_take {acts : List Action} (h : Path host.Answers o acts o') (hs : o.sink = .inr s)
    (hready : s.Ready) (hsane : ∀ cmd ok, .sinkWrite cmd ok ∈ clientEvents acts → cmd.Sane) :
    ∃ s' calls, o'.sink = .inr s' ∧ s.Takes (payloads (offered (clientEvents acts))) calls s' ∧
      RejectsShort calls (clientEvents acts) := by
  induction h generalizing s with
  | nil => exact ⟨s, [], hs, .refl hready, iff_of_true (by simp) (by simp [clientEvents])⟩
  | @cons o o₁ o' action acts head tail ih =>
      have hsplit : clientEvents (action :: acts) = clientEvents [action] ++ clientEvents acts :=
        clientEvents_append [action] acts
      rw [hsplit] at hsane ⊢
      obtain ⟨s₁, calls, hs₁, htakes, hshort⟩ := action_takes head hs hready
        fun cmd ok he => hsane cmd ok (List.mem_append_left _ he)
      obtain ⟨s', calls', hs', htakes', hshort'⟩ := ih hs₁ htakes.ready
        fun cmd ok he => hsane cmd ok (List.mem_append_right _ he)
      refine ⟨s', calls ++ calls', hs', ?_, hshort.append hshort'⟩
      rw [offered_append, payloads_append]
      exact htakes.trans htakes'

/-! ## The books of the program -/

section Books

variable {name : String} {options : Options} {fuel : Nat} {c c' : Client} {acts : List Action}
  {code : Option Int}

theorem ConnectRun.offChunk {count : Int} {es : List Event} (h : ConnectRun name count c es c') :
    ∀ e ∈ es, e.OffChunk := by
  have huninit : ∀ hr, ∀ e ∈ uninit hr, e.OffChunk := by
    intro hr
    unfold uninit
    split <;> simp
  cases h with
  | comFailed => simp [failure]
  | createFailed hr | createExFailed hr | connected hr =>
      refine List.forall_mem_append.mpr ⟨?_, huninit hr⟩
      simp [failure]

theorem OpenRun.offChunk {es : List Event} (h : OpenRun c es c') : ∀ e ∈ es, e.OffChunk := by
  cases h <;> simp [failure]

theorem closing_offChunk : ∀ e ∈ closing c, e.OffChunk :=
  fun e he => (closing_afterLoop e he).aroundLoop.offChunk

theorem closeCall_offChunk {es : List Event} {flow : Flow} (h : CallRun c .close es flow c') :
    ∀ e ∈ es, e.OffChunk := by
  cases h with
  | closedAgain => simp
  | close => exact closing_offChunk

theorem DestroyRun.offChunk {es : List Event} (h : DestroyRun c es c') : ∀ e ∈ es, e.OffChunk := by
  cases h with
  | nothing => simp
  | closedAgain => simp
  | close => exact List.forall_mem_cons.mpr ⟨trivial, closing_offChunk⟩

/-- The books are in order when `main` is left. -/
theorem MainRun.stocked (h : MainRun name options fuel c acts code c') :
    Stocked (clientEvents acts) := by
  have hnil : Stocked [] := ⟨always_nil, always_nil, by simp⟩
  cases h with
  | connectFailed connect hfailed destroyed =>
      have hall := (hnil.append_offChunk connect.offChunk).append_offChunk destroyed.offChunk
      simpa using hall
  | openFailed connect hconnected requested opened hfailed closed destroyed =>
      have hsetup := (hnil.append_offChunk connect.offChunk).append_offChunk opened.offChunk
      have hall := (hsetup.append_offChunk (closeCall_offChunk closed)).append_offChunk
        destroyed.offChunk
      simpa [requested.clientEvents] using hall
  | serving connect hconnected requested opened hstreaming run polled =>
      have hfront := stocked_of_offChunk
        (List.forall_mem_append.mpr ⟨connect.offChunk, opened.offChunk⟩)
      have hall := hfront.1.append hfront.2 run.stocked
      simpa [requested.clientEvents] using hall
  | served connect hconnected requested opened hstreaming run closed destroyed =>
      have hfront := stocked_of_offChunk
        (List.forall_mem_append.mpr ⟨connect.offChunk, opened.offChunk⟩)
      have hserved := hfront.1.append hfront.2 run.stocked
      have hall := (hserved.append_offChunk (closeCall_offChunk closed)).append_offChunk
        destroyed.offChunk
      simpa [requested.clientEvents] using hall

end Books

section Program

variable (host : Host ω) (world : ω) (injected : FaultInjector) (fuel : Nat) (args : List String)

/-- The destructor of the sink has put everything in the file that was offered and not lost. -/
theorem runMain_stored (hsink : (Options.parse {} args).useFileSink = true)
    (hopened : host.opened = true) (hallocated : host.allocated.isSome)
    (hcode : (runMain host world injected fuel args).1.isSome) :
    let p := (runMain host world injected fuel args).2
    ∃ sink : FileSink, p.machine.outside.sink = .inr sink ∧
      (sink.file = payloads (offered p.machine.trace) ↔ ∀ call ∈ sink.calls, call.lost = 0) ∧
      ((∀ call ∈ sink.calls, call.Full) → ∀ cmd, .sinkWrite cmd false ∉ p.machine.trace) := by
  intro p
  obtain ⟨mid, performs, hleft, run, htrace⟩ := runMain_mainRun host world injected fuel args
  have hstocked := run.stocked
  rw [← htrace] at hstocked
  have hnew : (FileSink.new host.opened host.allocated).Ready :=
    ⟨hopened, hallocated, Nat.zero_le _⟩
  have hstart : (host.newProcess world injected (Options.parse {} args)).machine.outside.sink =
      .inr (FileSink.new host.opened host.allocated) := if_pos hsink
  have hpath := performs.path
  obtain ⟨s, calls, hs, htakes, hshort⟩ := actions_take hpath hstart hnew
    (by rw [← htrace]; exact hstocked.sane)
  rw [← htrace] at htakes hshort
  obtain ⟨drained, hdrain, hdrains⟩ := FileSink.flushBuffer_takes host.disk htakes.ready
  have hlast : p.machine.outside.sink = .inr (s.destroy host.disk) := by
    have hdestroyed := hleft.sink hcode
    rw [hs] at hdestroyed
    exact hdestroyed
  have hwhole := htakes.trans hdrain
  rw [List.append_nil] at hwhole
  have hmade : (s.destroy host.disk).calls = calls ++ drained := hwhole.called
  have hempty : (s.flushBuffer host.disk).pending = [] :=
    FileSink.pending_eq_nil FileSink.flushBuffer_bufferedBytes
  have hnothing : (FileSink.new host.opened host.allocated).stored = [] :=
    FileSink.stored_of_empty rfl
  refine ⟨s.destroy host.disk, hlast, ?_, fun hfull => ?_⟩
  · have hiff := hwhole.file_eq_iff hempty
    rw [hnothing, List.nil_append] at hiff
    rw [hmade]
    exact hiff
  · rw [hmade] at hfull
    exact hshort.mp fun call hcall _ => hfull call (List.mem_append_left _ hcall)

end Program

/-- A server that delivers one byte and then breaks down: the session fails with the byte in the
buffer. -/
def brokenScript : List Answer := [deliver (oneByte 7), (0x80004005, none)]

end Vdi
