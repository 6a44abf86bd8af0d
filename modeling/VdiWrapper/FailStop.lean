import VdiWrapper.Scripted

/-!
# Fail-stop

`process_commands` returns in `FAILED` exactly if something failed: an `OpenDevice`, a
`GetCommand` with another code than the three it knows, the validation of a chunk, the sink, a
`CompleteCommand` or, on purpose, the fault injector.  The first such event is the last thing the
session does with the server and the sink: only releases and the device set's `Close` follow, in
this call and in every later one.
-/

namespace Vdi

open Runs

variable {ω σ : Type} {env : Env ω σ}

/-- A `VDC_Write` that fails its validation. -/
def InvalidWrite (cmd : VdcCommand) : Prop :=
  cmd.commandCode = vdcWrite ∧ validateWriteCommand (some cmd) = false

theorem not_invalidWrite_of_sane {cmd : VdcCommand} (h : cmd.Sane) : ¬ InvalidWrite cmd := by
  rintro ⟨-, hinvalid⟩
  rw [validateWriteCommand_eq_true_iff.mpr h] at hinvalid
  cases hinvalid

/-- What a `GetCommand` that fails the session answers: an unknown failure, or an invalid chunk. -/
def FailingAnswer (hr : HResult) (cmd : Option VdcCommand) : Prop :=
  (failed hr = true ∧ hr ≠ vdEClose ∧ hr ≠ vdEEof ∧ hr ≠ vdETimeout) ∨
    (failed hr = false ∧ ∃ write, cmd = some write ∧ InvalidWrite write)

/-- The failures that end a session. -/
@[simp] def Event.Fails : Event → Prop
  | .openDevice _ _ hr _ => failed hr = true
  | .getCommand _ _ hr cmd => FailingAnswer hr cmd
  | .sinkIsOpen ok => ok = false
  | .sinkWrite _ ok => ok = false
  | .completeCommand _ _ _ _ _ hr => failed hr = true
  | .log line => ∃ chunks, line = .faultInjectorTriggered chunks
  | .coInitializeEx _ | .coUninit | .coCreateInstance .. | .createEx .. | .getConfiguration ..
  | .setClose _ | .setRelease _ | .deviceRelease _ | .sinkFlush | .nowUs _ | .transition ..
  | .report .. => False

/-- What may follow a failure: releases, the device set's `Close`, and what is no call at all. -/
@[simp] def Event.WindsDown : Event → Prop
  | .deviceRelease _ | .setClose _ | .setRelease _ | .nowUs _ | .transition .. | .report .. => True
  | .log line => ∀ chunks, line ≠ .faultInjectorTriggered chunks
  | .coInitializeEx _ | .coUninit | .coCreateInstance .. | .createEx .. | .getConfiguration ..
  | .openDevice .. | .getCommand .. | .completeCommand .. | .sinkIsOpen _ | .sinkWrite ..
  | .sinkFlush => False

theorem Event.WindsDown.not_fails {e : Event} (h : e.WindsDown) : ¬ e.Fails := by
  cases e with
  | log line => exact fun ⟨chunks, hline⟩ => h chunks hline
  | openDevice | getCommand | sinkIsOpen | sinkWrite | completeCommand => exact h.elim
  | _ => exact id

/-- Nothing failed. -/
def FailFree (es : List Event) : Prop := ∀ e ∈ es, ¬ e.Fails

theorem FailFree.append {es es' : List Event} (h : FailFree es) (h' : FailFree es') :
    FailFree (es ++ es') :=
  List.forall_mem_append.mpr ⟨h, h'⟩

/-- One failure, and nothing but the winding down after it. -/
abbrev FailStop (es : List Event) : Prop := StopsAt Event.Fails Event.WindsDown es

/-! ## One turn -/

theorem delivered_failFree (device : Device) (timeout : UInt32) {hr : HResult} {cmd : VdcCommand}
    (t₀ t₁ t₂ t₃ : UInt64) (hhr : failed hr = false) (hvalid : ¬ InvalidWrite cmd) :
    FailFree (delivered device timeout hr cmd t₀ t₁ t₂ t₃) := by
  have hknown : ¬ FailingAnswer hr (some cmd) := by
    rintro (⟨hfailed, -⟩ | ⟨-, write, hcmd, hinvalid⟩)
    · rw [hhr] at hfailed
      cases hfailed
    · cases hcmd
      exact hvalid hinvalid
  simp [FailFree, delivered, fetched, hknown]

theorem Stored.failFree {cmd : VdcCommand} {c c' : Client} {es : List Event} {sinkUs : UInt64}
    (h : Stored cmd c es sinkUs c') : FailFree es ∧ ¬ InvalidWrite cmd := by
  cases h with
  | other hcode => exact ⟨by simp [FailFree], fun hinvalid => hcode hinvalid.1⟩
  | written hcode sane => exact ⟨by simp [FailFree], not_invalidWrite_of_sane sane⟩

/-- A refused chunk was invalid, or valid and then failed by the sink. -/
theorem Refused.failStop {cmd : VdcCommand} {c c' : Client} {es : List Event}
    (h : Refused cmd c es c') :
    (InvalidWrite cmd ∧ ∀ e ∈ es, e.WindsDown) ∨ (¬ InvalidWrite cmd ∧ FailStop es) := by
  cases h with
  | invalid hcode insane =>
      refine .inl ⟨⟨hcode, ?_⟩, by simp [failure]⟩
      rw [← Bool.not_eq_true, validateWriteCommand_eq_true_iff]
      exact insane
  | sinkClosed hcode sane =>
      refine .inr ⟨not_invalidWrite_of_sane sane, [], _, _, rfl, rfl, by simp, ?_⟩
      simp [failure]
  | rejected hcode sane t₀ =>
      refine .inr ⟨not_invalidWrite_of_sane sane, [.sinkIsOpen true, .nowUs t₀], _, _, rfl, rfl,
        by simp, ?_⟩
      simp [failure]

theorem Completed.failStop {device : Device} {cmd : VdcCommand} {times : StageTimes}
    {c c' : Client} {es : List Event} {flow : Flow} (h : Completed device cmd times c es flow c') :
    (FailFree es ∧ c'.state = c.state) ∨ (flow = .stop ∧ c'.state = .failed ∧ FailStop es) := by
  cases h with
  | failed t₀ t₁ hr hhr =>
      refine .inr ⟨rfl, rfl, [.nowUs t₀], _, _, rfl, hhr, by simp, by simp [failure]⟩
  | faulted t₀ t₁ hr hhr hfired =>
      refine .inr ⟨rfl, rfl, [.nowUs t₀, .completeCommand device cmd errorSuccess cmd.size
        cmd.position hr, .nowUs t₁], _, _, rfl, ⟨_, rfl⟩, by simp [hhr], by simp⟩
  | done t₀ t₁ hr hhr => exact .inl ⟨by simp [FailFree, hhr], rfl⟩

/-- A turn either goes well or fails once and stops the loop in `FAILED`. -/
theorem Iteration.failStop {start : UInt64} {device : Device} {c c' : Client} {es : List Event}
    {flow : Flow} (h : Iteration start device c es flow c') (hstate : c.state ≠ .failed) :
    (FailFree es ∧ c'.state ≠ .failed) ∨ (flow = .stop ∧ c'.state = .failed ∧ FailStop es) := by
  cases h with
  | closed t₀ t₁ hr cmd hhr =>
      have hknown : ¬ FailingAnswer hr cmd := by
        rintro (⟨-, hclose, heof, -⟩ | ⟨hok, -⟩)
        · exact hhr.elim hclose heof
        · rw [failed_of_closeSignal hhr] at hok
          cases hok
      exact .inl ⟨by simp [FailFree, fetched, hknown], by simp⟩
  | timedOut t₀ t₁ cmd check =>
      have hknown : ¬ FailingAnswer vdETimeout cmd := by
        rintro (⟨-, -, -, htimeout⟩ | ⟨hok, -⟩)
        · exact htimeout rfl
        · simp at hok
      refine .inl ⟨?_, check.state_session.1 ▸ hstate⟩
      cases check <;> simp [FailFree, fetched, hknown]
  | failed t₀ t₁ hr cmd hhr hclose heof htimeout =>
      refine .inr ⟨rfl, rfl, [.nowUs t₀], _, _, rfl, .inl ⟨hhr, hclose, heof, htimeout⟩,
        by simp, ?_⟩
      simp [failure]
  | null t₀ t₁ hr hhr =>
      have hknown : ¬ FailingAnswer hr none := by
        rintro (⟨hfailed, -⟩ | ⟨-, cmd, hcmd, -⟩)
        · rw [hhr] at hfailed
          cases hfailed
        · cases hcmd
      exact .inl ⟨by simp [FailFree, fetched, hknown], hstate⟩
  | closeCommand t₀ t₁ t₂ t₃ hr cmd hhr hcode =>
      have hvalid : ¬ InvalidWrite cmd := by
        rintro ⟨hwrite, -⟩
        rw [hcode] at hwrite
        revert hwrite
        decide
      exact .inl ⟨delivered_failFree device c.commandTimeoutMs t₀ t₁ t₂ t₃ hhr hvalid, hstate⟩
  | refused t₀ t₁ t₂ t₃ hr cmd hhr refused =>
      refine .inr ⟨rfl, refused.state_session.1, ?_⟩
      rcases refused.failStop with ⟨hinvalid, hwinds⟩ | ⟨hvalid, hstops⟩
      · refine ⟨[.nowUs t₀], _, _, rfl, .inr ⟨hhr, cmd, rfl, hinvalid⟩, by simp, ?_⟩
        exact List.forall_mem_append.mpr ⟨by simp, hwinds⟩
      · exact hstops.prepend (delivered_failFree device c.commandTimeoutMs t₀ t₁ t₂ t₃ hhr hvalid)
  | served t₀ t₁ t₂ t₃ hr cmd hhr hcode stored completed =>
      obtain ⟨hstored, hvalid⟩ := stored.failFree
      have hfront := FailFree.append
        (delivered_failFree device c.commandTimeoutMs t₀ t₁ t₂ t₃ hhr hvalid) hstored
      rcases completed.failStop with ⟨hfree, hkept⟩ | ⟨hstop, hfailed, hcompleted⟩
      · refine .inl ⟨hfront.append hfree, ?_⟩
        rw [hkept, stored.state_session.1]
        exact hstate
      · exact .inr ⟨hstop, hfailed, hcompleted.prepend hfront⟩

/-- Any number of turns. -/
theorem LoopRun.failStop {start : UInt64} {devices : List Device} {c c' : Client} {k : Nat}
    {es : List Event} {flow : Flow} (h : LoopRun start devices c k es flow c')
    (hstate : c.state ≠ .failed) :
    (FailFree es ∧ c'.state ≠ .failed) ∨ (flow = .stop ∧ c'.state = .failed ∧ FailStop es) := by
  induction h with
  | start => exact .inl ⟨by simp [FailFree], hstate⟩
  | turn before served turn ih =>
      rcases ih with ⟨hfree, hgoes⟩ | ⟨hstop, -⟩
      · rcases turn.failStop hgoes with ⟨hturn, hstate'⟩ | ⟨hstop, hfailed, hturn⟩
        · exact .inl ⟨hfree.append hturn, hstate'⟩
        · exact .inr ⟨hstop, hfailed, hturn.prepend hfree⟩
      · cases hstop

/-! ## One call -/

theorem opening_failFree {ds : DeviceSet} {name : String} {opened : List (HResult × Device)}
    (h : ∀ p ∈ opened, failed p.1 = false) : FailFree (opening ds name opened) := by
  intro e he
  obtain ⟨p, hp, rfl⟩ := List.mem_map.mp he
  simp [h p hp]

/-- `close` flushes nothing unless the session was streaming. -/
theorem closing_windsDown {c : Client} (h : c.state = .failed ∨ c.state = .closed) :
    ∀ e ∈ closing c, e.WindsDown := by
  have hflush : closingFlush c = [] := by
    rw [closingFlush, if_neg]
    rcases h with h | h <;> simp [h]
  rw [closing, hflush, closingSet]
  cases c.deviceSet <;> simp

theorem finishing_windsDown {devices : List Device} {c : Client} (h : c.state = .failed) :
    ∀ e ∈ finishing devices c, e.WindsDown := by
  have hreleases : ∀ e ∈ devices.map Event.deviceRelease, e.WindsDown := by simp
  rw [finishing, if_neg (by simp [h]), List.append_nil]
  exact List.forall_mem_append.mpr ⟨hreleases, by simp⟩

theorem finishing_failFree {devices : List Device} {c : Client} :
    FailFree (finishing devices c) := by
  intro e he
  have hafter := finishing_afterLoop e he
  cases e <;> first | exact hafter.elim | exact id

/-- A call made in `STREAMING` goes well, or fails once and returns in `FAILED`. -/
theorem CommandRun.failStop {c c' : Client} {es : List Event} {returned : Bool}
    (h : CommandRun c es returned c') (hstate : c.state = .streaming) :
    (FailFree es ∧ c'.state ≠ .failed) ∨ (returned = true ∧ c'.state = .failed ∧ FailStop es) := by
  have hgood : c.state ≠ .failed := by
    rw [hstate]
    exact SessionState.noConfusion
  cases h with
  | wrongState hwrong => exact absurd hstate hwrong
  | noDeviceSet => exact .inl ⟨by simp [FailFree], by simp [hstate]⟩
  | @openFailed ds opened hr device _ hset hopened hcount hhr =>
      refine .inr ⟨rfl, rfl, ?_⟩
      exact StopsAt.prepend (opening_failFree hopened)
        ⟨[], _, _, rfl, hhr, by simp, by simp [failure]⟩
  | @serving ds opened start k es c' _ hset hopened hcount run =>
      rcases run.failStop hgood with ⟨hfree, hgoes⟩ | ⟨hstop, -⟩
      · exact .inl ⟨(opening_failFree hopened).append (List.forall_mem_cons.mpr ⟨id, hfree⟩), hgoes⟩
      · cases hstop
  | @served ds opened start k es c₁ _ hset hopened hcount run =>
      have hfront : FailFree (opening ds c.deviceName opened ++ [.nowUs start]) :=
        (opening_failFree hopened).append (by simp [FailFree])
      rw [← List.singleton_append, ← List.append_assoc]
      rcases run.failStop hgood with ⟨hfree, hgoes⟩ | ⟨-, hfailed, hstops⟩
      · refine .inl ⟨(hfront.append hfree).append finishing_failFree, ?_⟩
        · unfold Client.finished
          split
          · simp [Client.closed]
          · exact hgoes
      · refine .inr ⟨rfl, ?_, (hstops.prepend hfront).append (finishing_windsDown hfailed)⟩
        rw [Client.finished, if_neg (by simp [hfailed])]
        exact hfailed

/-! ## The calls after it -/

/-- A session that failed, or was closed after it. -/
def Over (c : Client) : Prop := c.state = .failed ∨ c.state = .closed

theorem Over.ne {c : Client} (h : Over c) :
    c.state ≠ .init ∧ c.state ≠ .connected ∧ c.state ≠ .streaming := by
  rcases h with h | h <;> simp [h]

theorem CallRun.over {c c' : Client} {call : ApiCall} {es : List Event} {flow : Flow}
    (h : CallRun c call es flow c') (hover : Over c) :
    Over c' ∧ ∀ e ∈ es, e.WindsDown := by
  obtain ⟨hinit, hconnected, hstreaming⟩ := hover.ne
  cases h with
  | connectRefused | openRefused => exact ⟨hover, by simp⟩
  | connect hstate => exact absurd hstate hinit
  | openDevices hstate => exact absurd hstate hconnected
  | served run =>
      cases run with
      | wrongState => exact ⟨hover, by simp⟩
      | noDeviceSet hstate | openFailed hstate | served hstate => exact absurd hstate hstreaming
  | serving run =>
      cases run with
      | serving hstate => exact absurd hstate hstreaming
  | setCommandTimeout | setFailAfterNChunks => exact ⟨hover, by simp⟩
  | closedAgain => exact ⟨hover, by simp⟩
  | close => exact ⟨.inr rfl, closing_windsDown hover⟩

theorem SessionRun.over {c c' : Client} {es : List Event} {flow : Flow}
    (h : SessionRun c es flow c') (hover : Over c) : Over c' ∧ ∀ e ∈ es, e.WindsDown := by
  induction h with
  | start => exact ⟨hover, by simp⟩
  | call before run ih =>
      obtain ⟨hover', hwinds⟩ := ih
      obtain ⟨hover'', hwinds'⟩ := run.over hover'
      exact ⟨hover'', List.forall_mem_append.mpr ⟨hwinds, hwinds'⟩⟩

theorem LifetimeRun.over {c c' : Client} {es : List Event} {flow : Flow}
    (h : LifetimeRun c es flow c') (hover : Over c) : ∀ e ∈ es, e.WindsDown := by
  cases h with
  | serving run => exact (run.over hover).2
  | destroyed run destroyed =>
      obtain ⟨hover', hwinds⟩ := run.over hover
      refine List.forall_mem_append.mpr ⟨hwinds, ?_⟩
      cases destroyed with
      | nothing => simp
      | closedAgain => simp
      | close hstate hopen => exact List.forall_mem_cons.mpr ⟨by simp, closing_windsDown hover'⟩

/-! ## The theorem -/

/-- What happens after a failure: nothing but the winding down, until the client is gone. -/
def OnlyWindsDown (env : Env ω σ) (m : Machine ω σ) : Prop :=
  ∀ calls, ∃ es, ((runLifetime env calls).run m).2.trace = m.trace ++ es ∧
    ∀ e ∈ es, e.WindsDown

/-- **Fail-stop.**  A call of `process_commands` made in `STREAMING` returns in `FAILED` exactly
if something failed in it.  Such a failure is the first and only one, and after it this call and
every later one, the destructor included, only wind the session down. -/
theorem processCommands_failStop (env : Env ω σ) (fuel : Nat) (client : Client)
    (outside : Outside ω σ) (hstate : client.state = .streaming) :
    let run := runCommands env fuel client outside
    ((run.1 = true ∧ run.2.client.state = .failed) ↔ ∃ e ∈ run.2.trace, e.Fails) ∧
      ∀ pre e post, run.2.trace = pre ++ e :: post → e.Fails →
        (∀ e' ∈ pre, ¬ e'.Fails) ∧ (∀ e' ∈ post, e'.WindsDown ∧ ¬ e'.Fails) ∧
          OnlyWindsDown env run.2 := by
  intro run
  have hrun : CommandRun client run.2.trace run.1 run.2.client :=
    runCommands_commandRun env fuel client outside
  rcases hrun.failStop hstate with ⟨hfree, hgoes⟩ | ⟨hreturned, hfailed, hstops⟩
  · refine ⟨iff_of_false (fun h => hgoes h.2) ?_, fun pre e post heq he => ?_⟩
    · rintro ⟨e, he, hfails⟩
      exact hfree e he hfails
    · exact absurd he (hfree e (by rw [heq]; simp))
  · refine ⟨iff_of_true ⟨hreturned, hfailed⟩ hstops.exists_mem, fun pre e post heq he => ?_⟩
    obtain ⟨hpre, hpost⟩ := hstops.at_split (fun _ h => h.not_fails) heq he
    refine ⟨hpre, fun e' he' => ⟨hpost e' he', (hpost e' he').not_fails⟩, fun calls => ?_⟩
    obtain ⟨es, htrace, life⟩ :=
      runLifetime_lifetimeRun (Prod.eta ((runLifetime env calls).run run.2)).symm
    exact ⟨es, htrace, life.over (.inl hfailed)⟩

/-- The run of a client whose first `GetCommand` fails with `VD_E_ABORT`. -/
def abortedRun : Bool × Machine Server Unit :=
  runCommands (scriptedEnv nullSink) 1 streamingClient (scriptedStart [[(0x80770004, none)]] ())

theorem failStop_aborted :
    abortedRun.2.client.state = .failed ∧ ∃ e ∈ abortedRun.2.trace, e.Fails := by
  have hfailed : abortedRun.1 = true ∧ abortedRun.2.client.state = .failed := by decide +kernel
  refine ⟨hfailed.2, ?_⟩
  unfold abortedRun at hfailed ⊢
  exact (processCommands_failStop (scriptedEnv nullSink) 1 streamingClient
    (scriptedStart [[(0x80770004, none)]] ()) (by decide +kernel)).1.mp hfailed

end Vdi
