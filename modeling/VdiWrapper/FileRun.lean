import VdiWrapper.Acknowledgement
import VdiWrapper.FileSink

/-!
# Runs on a `FileSink`

The client in front of a `FileSink` on an arbitrary disk.  The trace of a run tells which chunks
were offered to the sink and when it was flushed; `path_takes` follows the sink along it: what was
offered is stored afterwards, unless some `WriteFile` lost it, and an offer is rejected exactly
when its own `WriteFile` did not do everything.
-/

namespace Vdi

open Runs

variable {ω : Type}

/-- An environment with a `FileSink`. -/
def fileEnv (com : Com ω) (clock : Nat → UInt64) (disk : Nat → WriteOutcome) : Env ω FileSink where
  com := com
  sink := FileSink.asSink disk
  clock := clock

/-- The bytes of the chunks `cmds`, one after the other. -/
def payloads (cmds : List VdcCommand) : List UInt8 := cmds.flatMap VdcCommand.payload

@[simp] theorem payloads_append (cmds cmds' : List VdcCommand) :
    payloads (cmds ++ cmds') = payloads cmds ++ payloads cmds' :=
  List.flatMap_append

/-- The chunks offered to the sink, accepted or not. -/
def offered (es : List Event) : List VdcCommand := es.filterMap offer

@[simp] theorem offered_append (es es' : List Event) :
    offered (es ++ es') = offered es ++ offered es' :=
  List.filterMap_append

/-- An event in which the sink has no part, or is only asked whether it is open. -/
@[simp] def Event.OffSink : Event → Prop
  | .sinkWrite .. | .sinkFlush => False
  | _ => True

variable {com : Com ω} {clock : Nat → UInt64} {disk : Nat → WriteOutcome}
  {o o' : Outside ω FileSink}

theorem answers_sink_eq {e : Event} (h : (fileEnv com clock disk).Answers o e o')
    (he : e.OffSink) : o'.sink = o.sink := by
  cases e with
  | sinkWrite | sinkFlush => exact he.elim
  | coUninit | setClose | setRelease | deviceRelease | transition | log | report => rw [h]
  | coInitializeEx | coCreateInstance | createEx | getConfiguration | openDevice | getCommand =>
      obtain ⟨w, -, rfl⟩ := h
      rfl
  | completeCommand =>
      obtain ⟨cmd', w, -, rfl⟩ := h
      rfl
  | sinkIsOpen ok =>
      obtain ⟨s, hs, rfl⟩ := h
      cases hs
      rfl
  | nowUs t =>
      obtain ⟨-, rfl⟩ := h
      rfl

/-- A valid chunk fits into the 32 bits of a `DWORD`. -/
theorem VdcCommand.Sane.payload_lt {cmd : VdcCommand} (h : cmd.Sane) :
    cmd.payload.length < 2 ^ 32 := by
  have hle := h.le
  rw [VdcCommand.payload_length h.buffer]
  omega

/-- The direct calls among `calls` did everything exactly if none of `es` is a rejected write. -/
def RejectsShort (calls : List WriteCall) (es : List Event) : Prop :=
  (∀ call ∈ calls, call.origin = .direct → call.Full) ↔ ∀ cmd, .sinkWrite cmd false ∉ es

theorem RejectsShort.append {calls calls' : List WriteCall} {es es' : List Event}
    (h : RejectsShort calls es) (h' : RejectsShort calls' es') :
    RejectsShort (calls ++ calls') (es ++ es') := by
  unfold RejectsShort at h h' ⊢
  rw [List.forall_mem_append, h, h']
  simp only [List.mem_append, not_or, forall_and]

/-- The `WriteFile` calls made between two states of a sink. -/
def writeCalls (sink sink' : FileSink) : List WriteCall := sink'.calls.drop sink.calls.length

theorem FileSink.Takes.writeCalls_eq {sink sink' : FileSink} {data : List UInt8}
    {calls : List WriteCall} (h : sink.Takes data calls sink') : writeCalls sink sink' = calls := by
  rw [writeCalls, h.called, List.drop_left]

/-- What one event does to the sink. -/
theorem answers_takes {e : Event} (h : (fileEnv com clock disk).Answers o e o')
    (hready : o.sink.Ready) (hsane : ∀ cmd ok, e = .sinkWrite cmd ok → cmd.Sane) :
    ∃ calls, o.sink.Takes (payloads (offered [e])) calls o'.sink ∧ RejectsShort calls [e] := by
  by_cases he : e.OffSink
  · have hoffered : offered [e] = [] := by
      cases e <;> first | exact he.elim | rfl
    rw [answers_sink_eq h he, hoffered]
    refine ⟨[], .refl hready, iff_of_true (by simp) fun cmd hmem => ?_⟩
    rw [← List.mem_singleton.mp hmem] at he
    exact he
  · cases e with
    | sinkWrite cmd ok =>
        obtain ⟨s, hs, rfl⟩ := h
        obtain ⟨calls, htakes, hok⟩ :=
          FileSink.write_run disk hready (hsane cmd ok rfl).payload_lt
        have hwrite : o.sink.write disk cmd.payload = (ok, s) := hs
        rw [hwrite] at htakes hok
        refine ⟨calls, ?_, ?_⟩
        · simpa [offered, offer, payloads] using htakes
        · apply hok.symm.trans
          simp
    | sinkFlush =>
        obtain ⟨calls, htakes, hdrains⟩ := FileSink.flushBuffer_takes disk hready
        rw [show o' = { o with sink := (FileSink.asSink disk).flush o.sink } from h]
        refine ⟨calls, htakes, iff_of_true (fun call hmem horigin => ?_) (by simp)⟩
        rw [hdrains call hmem] at horigin
        cases horigin
    | _ => exact absurd trivial he

/-- **What a run does to the sink.** -/
theorem path_takes {es : List Event} (h : Path (fileEnv com clock disk).Answers o es o')
    (hready : o.sink.Ready) (hsane : ∀ cmd ok, .sinkWrite cmd ok ∈ es → cmd.Sane) :
    ∃ calls, o.sink.Takes (payloads (offered es)) calls o'.sink ∧ RejectsShort calls es := by
  induction h with
  | nil => exact ⟨[], .refl hready, iff_of_true (by simp) (by simp)⟩
  | @cons o o₁ o' e es head tail ih =>
      obtain ⟨calls, htakes, hshort⟩ :=
        answers_takes head hready fun cmd ok he => hsane cmd ok (by simp [he])
      obtain ⟨calls', htakes', hshort'⟩ :=
        ih htakes.ready fun cmd ok hmem => hsane cmd ok (List.mem_cons_of_mem e hmem)
      refine ⟨calls ++ calls', ?_, hshort.append hshort'⟩
      have hoffered : offered (e :: es) = offered [e] ++ offered es := offered_append [e] es
      rw [hoffered, payloads_append]
      exact htakes.trans htakes'

/-- Every write was followed by a flush. -/
def FlushedSinceWrite (es : List Event) : Prop :=
  ∀ before cmd ok after, es = before ++ .sinkWrite cmd ok :: after → .sinkFlush ∈ after

theorem FlushedSinceWrite.tail {e : Event} {es : List Event} (h : FlushedSinceWrite (e :: es)) :
    FlushedSinceWrite es :=
  fun before cmd ok after heq => h (e :: before) cmd ok after (by rw [heq]; rfl)

/-- **A flush after the last write empties the buffer.** -/
theorem path_settled {es : List Event} (h : Path (fileEnv com clock disk).Answers o es o')
    (hes : FlushedSinceWrite es) (hstart : o.sink.bufferedBytes = 0 ∨ .sinkFlush ∈ es) :
    o'.sink.bufferedBytes = 0 := by
  induction h with
  | nil => simpa using hstart
  | @cons o o₁ o' e es head tail ih =>
      apply ih hes.tail
      cases e with
      | sinkWrite cmd ok => exact .inr (hes [] cmd ok es rfl)
      | sinkFlush =>
          rw [show o₁ = { o with sink := (FileSink.asSink disk).flush o.sink } from head]
          exact .inl FileSink.flushBuffer_bufferedBytes
      | _ =>
          rw [answers_sink_eq head trivial]
          simpa using hstart

/-- The trace of a call of `process_commands` leads the environment from where it was to where the
call left it. -/
theorem runCommands_path {σ : Type} (env : Env ω σ) (fuel : Nat) (client : Client)
    (outside : Outside ω σ) :
    Path env.Answers outside (commandTrace env fuel client outside)
      (runCommands env fuel client outside).2.outside := by
  have htraced : Traced env (processCommands env fuel) := processCommands_traced
  obtain ⟨es, htrace, hpath⟩ :=
    htraced { client, outside, trace := [] } _ _
      (Prod.eta (runCommands env fuel client outside)).symm
  rw [List.nil_append] at htrace
  rw [commandTrace, htrace]
  exact hpath

end Vdi
