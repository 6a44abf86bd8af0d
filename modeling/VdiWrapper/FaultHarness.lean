import VdiWrapper.FaultCut
import VdiWrapper.SessionCoupling

/-!
# The flag of the fault injector

Besides the schedule of `set_fail_after_n_chunks`, the injector has a flag for failing the next
command.  Only `should_fail` reads it, and the client never calls `should_fail`.  So between a test
and the client nothing passes through the flag, in either direction: whatever the test does with it,
every session runs as if it had not (`SameTest`), and whatever the session does, the flag is as the
test's own calls have left it (`pending`).
-/

namespace Vdi

open Runs

variable {ω σ α : Type}

/-! ## Tests -/

/-- A call on `fault_injector()`; `set_fail_after_n_chunks` is an `ApiCall`. -/
inductive InjectorCall
  | setFailNextCommand
  | reset
  | shouldFail
  | onChunkCompleted
  | chunkCount
  | isArmed
deriving DecidableEq

/-- What the injector tells a test. -/
inductive InjectorAnswer
  | shouldFail (fails : Bool)
  | onChunkCompleted (fires : Bool)
  | chunkCount (n : UInt64)
  | isArmed (armed : Bool)
deriving DecidableEq

/-- The answers of a call and what it leaves. -/
def InjectorCall.perform (injector : FaultInjector) :
    InjectorCall → List InjectorAnswer × FaultInjector
  | .setFailNextCommand => ([], injector.setFailNextCommand)
  | .reset => ([], injector.reset)
  | .shouldFail => ([.shouldFail injector.shouldFail.1], injector.shouldFail.2)
  | .onChunkCompleted =>
      ([.onChunkCompleted injector.onChunkCompleted.1], injector.onChunkCompleted.2)
  | .chunkCount => ([.chunkCount injector.chunkCount], injector)
  | .isArmed => ([.isArmed injector.isArmed], injector)

/-- A call of a test, on the client or on its injector. -/
inductive TestCall
  | api (call : ApiCall)
  | injector (call : InjectorCall)

/-- A test has a client and has been told something. -/
structure TestRun (ω σ : Type) where
  machine : Machine ω σ
  told : List InjectorAnswer

def onClient (x : VdiM ω σ α) : StateM (TestRun ω σ) α := fun t =>
  ((x.run t.machine).1, { t with machine := (x.run t.machine).2 })

def onInjector (call : InjectorCall) : StateM (TestRun ω σ) Unit := fun t =>
  let (answers, injector) := call.perform t.machine.client.faultInjector
  ((), { machine := { t.machine with client := { t.machine.client with faultInjector := injector } }
         told := t.told ++ answers })

def TestCall.run (env : Env ω σ) : TestCall → StateM (TestRun ω σ) Flow
  | .api call => onClient (call.run env)
  | .injector call => do
      onInjector call
      return .next

/-- One call as a step of the test. -/
def testStep (env : Env ω σ) (call : TestCall) (t : TestRun ω σ) : Flow × TestRun ω σ :=
  (call.run env).run t

/-- The calls, as long as they return, and the destructor once they have. -/
def runTest (env : Env ω σ) (calls : List TestCall) : StateM (TestRun ω σ) Flow := do
  match ← (forEach (testStep env) calls : StateM (TestRun ω σ) Flow) with
  | .stop => return .stop
  | .next => do
      onClient (destroy env)
      return .next

/-- A test of a client just constructed. -/
def freshTest (enableLogging : Bool) (injector : FaultInjector) (outside : Outside ω σ) :
    TestRun ω σ where
  machine := freshMachine enableLogging injector outside
  told := []

/-! ## The flag -/

def FaultInjector.withFlag (injector : FaultInjector) (flag : Bool) : FaultInjector :=
  { injector with failNextCommand := flag }

def Client.withFlag (c : Client) (flag : Bool) : Client :=
  { c with faultInjector := c.faultInjector.withFlag flag }

@[simp] theorem FaultInjector.withFlag_withFlag (injector : FaultInjector) (flag flag' : Bool) :
    (injector.withFlag flag).withFlag flag' = injector.withFlag flag' := rfl

/-- The hook neither reads nor writes the flag. -/
theorem FaultInjector.onChunkCompleted_withFlag (injector : FaultInjector) (flag : Bool) :
    (injector.withFlag flag).onChunkCompleted =
        (injector.onChunkCompleted.1, injector.onChunkCompleted.2.withFlag flag) ∧
      injector.onChunkCompleted.2.failNextCommand = injector.failNextCommand ∧
      injector.onChunkCompleted.2.enabled = injector.enabled := by
  obtain ⟨enabled, failAfterNChunks, chunkCounter, failNextCommand⟩ := injector
  cases enabled with
  | false => exact ⟨rfl, rfl, rfl⟩
  | true =>
      unfold onChunkCompleted withFlag
      rw [if_pos rfl, if_pos rfl]
      by_cases hpos : 0 < failAfterNChunks
      · rw [if_pos hpos, if_pos hpos]
        exact ⟨rfl, rfl, rfl⟩
      · rw [if_neg hpos, if_neg hpos]
        exact ⟨rfl, rfl, rfl⟩

theorem FaultInjector.setFailNextCommand_eq (injector : FaultInjector) :
    injector.setFailNextCommand =
      injector.withFlag (injector.failNextCommand || injector.enabled) := by
  obtain ⟨enabled, failAfterNChunks, chunkCounter, failNextCommand⟩ := injector
  cases enabled with
  | false => simp [setFailNextCommand, withFlag]
  | true => simp [setFailNextCommand, withFlag]

/-- `should_fail` takes the flag with it, and nothing else. -/
theorem FaultInjector.shouldFail_leaves (injector : FaultInjector) :
    injector.shouldFail.2 =
      injector.withFlag (injector.failNextCommand && !injector.enabled) := by
  obtain ⟨enabled, failAfterNChunks, chunkCounter, failNextCommand⟩ := injector
  unfold shouldFail withFlag
  cases enabled with
  | false => cases failNextCommand <;> rfl
  | true =>
      cases failNextCommand with
      | true => rfl
      | false => simp only [if_true, Bool.false_eq_true, if_false, apply_ite Prod.snd, ite_self,
          Bool.false_and]

theorem FaultInjector.reset_withFlag (injector : FaultInjector) (flag : Bool) :
    (injector.withFlag flag).reset.withFlag false = injector.reset.withFlag false ∧
      injector.reset.failNextCommand = (injector.failNextCommand && !injector.enabled) ∧
      injector.reset.enabled = injector.enabled := by
  unfold reset withFlag
  by_cases henabled : injector.enabled = true
  · simp [henabled]
  · simp [henabled]

/-- An answer that may depend on the flag. -/
def InjectorAnswer.ofFlag : InjectorAnswer → Bool
  | .shouldFail _ | .isArmed _ => true
  | .onChunkCompleted _ | .chunkCount _ => false

/-- The answers that tell nothing of the flag. -/
def flagless (answers : List InjectorAnswer) : List InjectorAnswer :=
  answers.filter fun answer => !answer.ofFlag

theorem flagless_append (answers answers' : List InjectorAnswer) :
    flagless (answers ++ answers') = flagless answers ++ flagless answers' :=
  List.filter_append answers answers'

/-- Apart from the flag, a call does the same whatever the flag is. -/
theorem InjectorCall.perform_withFlag (call : InjectorCall) (injector : FaultInjector)
    (flag : Bool) :
    flagless (call.perform (injector.withFlag flag)).1 = flagless (call.perform injector).1 ∧
      (call.perform (injector.withFlag flag)).2.withFlag false =
        (call.perform injector).2.withFlag false := by
  cases call with
  | setFailNextCommand =>
      refine ⟨rfl, ?_⟩
      simp only [perform, FaultInjector.setFailNextCommand_eq, FaultInjector.withFlag_withFlag]
  | reset => exact ⟨rfl, (injector.reset_withFlag flag).1⟩
  | shouldFail =>
      refine ⟨rfl, ?_⟩
      simp only [perform, FaultInjector.shouldFail_leaves, FaultInjector.withFlag_withFlag]
  | onChunkCompleted =>
      unfold perform
      rw [(injector.onChunkCompleted_withFlag flag).1]
      exact ⟨rfl, rfl⟩
  | chunkCount => exact ⟨rfl, rfl⟩
  | isArmed => exact ⟨rfl, rfl⟩

/-- The calls about the flag. -/
def InjectorCall.onFlag : InjectorCall → Bool
  | .setFailNextCommand | .shouldFail | .isArmed => true
  | .reset | .onChunkCompleted | .chunkCount => false

/-- A call about the flag leaves everything else, and tells nothing else. -/
theorem InjectorCall.perform_onFlag {call : InjectorCall} (hcall : call.onFlag = true)
    (injector : FaultInjector) :
    flagless (call.perform injector).1 = [] ∧
      (call.perform injector).2.withFlag false = injector.withFlag false := by
  cases call with
  | setFailNextCommand =>
      refine ⟨rfl, ?_⟩
      simp only [perform, FaultInjector.setFailNextCommand_eq, FaultInjector.withFlag_withFlag]
  | shouldFail =>
      refine ⟨rfl, ?_⟩
      simp only [perform, FaultInjector.shouldFail_leaves, FaultInjector.withFlag_withFlag]
  | isArmed => exact ⟨rfl, rfl⟩
  | reset => cases hcall
  | onChunkCompleted => cases hcall
  | chunkCount => cases hcall

/-- The flag after a call of the test. -/
def InjectorCall.pending (enabled flag : Bool) : InjectorCall → Bool
  | .setFailNextCommand => flag || enabled
  | .reset | .shouldFail => flag && !enabled
  | .onChunkCompleted | .chunkCount | .isArmed => flag

theorem InjectorCall.perform_pending (call : InjectorCall) (injector : FaultInjector) :
    (call.perform injector).2.failNextCommand =
        call.pending injector.enabled injector.failNextCommand ∧
      (call.perform injector).2.enabled = injector.enabled := by
  cases call with
  | setFailNextCommand =>
      simp only [perform, FaultInjector.setFailNextCommand_eq]
      exact ⟨rfl, rfl⟩
  | reset => exact (injector.reset_withFlag false).2
  | shouldFail =>
      simp only [perform, FaultInjector.shouldFail_leaves]
      exact ⟨rfl, rfl⟩
  | onChunkCompleted => exact (injector.onChunkCompleted_withFlag false).2
  | chunkCount => exact ⟨rfl, rfl⟩
  | isArmed => exact ⟨rfl, rfl⟩

/-! ## Sessions -/

/-- Two clients that differ at most in the flag, which is `flag` in the first and `flag'` in the
second. -/
structure FlagAgree (enabled flag flag' : Bool) (c d : Client) : Prop where
  client : d = c.withFlag flag'
  enabled : c.faultInjector.enabled = enabled
  flag : c.faultInjector.failNextCommand = flag

/-- Two machines with such clients. -/
structure FlagApart (enabled flag flag' : Bool) (m m' : Machine ω σ) : Prop where
  agree : FlagAgree enabled flag flag' m.client m'.client
  outside : m'.outside = m.outside
  trace : m'.trace = m.trace

section Session

variable {env : Env ω σ} {enabled flag flag' : Bool} {m m' : Machine ω σ}

/-- An assignment that neither reads nor writes the injector. -/
theorem FlagApart.assign (h : FlagApart enabled flag flag' m m') {f : Client → Client}
    (hinjector : (f m.client).faultInjector = m.client.faultInjector)
    (hflag : f (m.client.withFlag flag') = (f m.client).withFlag flag') :
    FlagApart enabled flag flag' { m with client := f m.client }
      { m' with client := f m'.client } where
  agree :=
    { client := (congrArg f h.agree.client).trans hflag
      enabled := (congrArg FaultInjector.enabled hinjector).trans h.agree.enabled
      flag := (congrArg FaultInjector.failNextCommand hinjector).trans h.agree.flag }
  outside := h.outside
  trace := h.trace

theorem FlagApart.event (h : FlagApart enabled flag flag' m m') (outside : Outside ω σ)
    (e : Event) :
    FlagApart enabled flag flag' { m with outside := outside, trace := m.trace ++ [e] }
      { m' with outside := outside, trace := m'.trace ++ [e] } :=
  ⟨h.agree, rfl, congrArg (· ++ [e]) h.trace⟩

theorem comCall_flagApart {answer : ω → α × ω} {event : α → Event} :
    Coupled (FlagApart (σ := σ) enabled flag flag') Eq (comCall answer event)
      (comCall answer event) := by
  intro m m' hm
  obtain ⟨client', outside', trace'⟩ := m'
  obtain rfl : outside' = m.outside := hm.outside
  exact ⟨rfl, hm.event _ _⟩

theorem sinkCall_flagApart {answer : σ → α × σ} {event : α → Event} :
    Coupled (FlagApart (ω := ω) enabled flag flag') Eq (sinkCall answer event)
      (sinkCall answer event) := by
  intro m m' hm
  obtain ⟨client', outside', trace'⟩ := m'
  obtain rfl : outside' = m.outside := hm.outside
  exact ⟨rfl, hm.event _ _⟩

theorem nowUs_flagApart : Coupled (FlagApart enabled flag flag') Eq (nowUs env) (nowUs env) := by
  intro m m' hm
  obtain ⟨client', outside', trace'⟩ := m'
  obtain rfl : outside' = m.outside := hm.outside
  exact ⟨rfl, hm.event _ _⟩

theorem emit_flagApart {e : Event} :
    Coupled (FlagApart (ω := ω) (σ := σ) enabled flag flag') Eq (emit e) (emit e) := by
  intro m m' hm
  obtain ⟨client', outside', trace'⟩ := m'
  obtain rfl : outside' = m.outside := hm.outside
  exact ⟨rfl, hm.event _ _⟩

theorem self_flagApart :
    Coupled (FlagApart (ω := ω) (σ := σ) enabled flag flag') (FlagAgree enabled flag flag') self
      self :=
  fun _ _ hm => ⟨hm.agree, hm⟩

theorem setState_flagApart {state : SessionState} :
    Coupled (FlagApart (ω := ω) (σ := σ) enabled flag flag') Eq (setState state)
      (setState state) := by
  intro m m' hm
  obtain ⟨client', outside', trace'⟩ := m'
  obtain rfl : outside' = m.outside := hm.outside
  have hstate : client'.state = m.client.state := by
    rw [show client' = _ from hm.agree.client]
    rfl
  have hevent := hm.event m.outside (.transition m.client.state state)
  refine ⟨rfl, ?_⟩
  unfold setState
  simp only [StateT.run, hstate]
  exact hevent.assign (f := fun c => { c with state := state }) rfl rfl

theorem assign_flagApart {f : Client → Client}
    (hinjector : ∀ c, (f c).faultInjector = c.faultInjector)
    (hflag : ∀ c, f (c.withFlag flag') = (f c).withFlag flag') :
    Coupled (FlagApart (ω := ω) (σ := σ) enabled flag flag') Eq (update f) (update f) :=
  fun m _ hm => ⟨rfl, hm.assign (hinjector m.client) (hflag m.client)⟩

theorem update_flagApart {f : Client → Client} (hf : Bookkeeping f) :
    Coupled (FlagApart (ω := ω) (σ := σ) enabled flag flag') Eq (update f) (update f) := by
  refine assign_flagApart (fun c => (hf.kept c).2) fun c => ?_
  cases hf with
  | booked cmd =>
      unfold Client.withFlag
      rw [recordWrite_faultInjector]
      exact recordWrite_setInjector cmd c _
  | _ => rfl

/-- The injectors move on, and their flags stay. -/
theorem setInjector_flagApart {f g : FaultInjector → FaultInjector}
    (h : ∀ injector, injector.enabled = enabled → injector.failNextCommand = flag →
      g (injector.withFlag flag') = (f injector).withFlag flag' ∧
        (f injector).failNextCommand = flag ∧ (f injector).enabled = enabled) :
    Coupled (FlagApart (ω := ω) (σ := σ) enabled flag flag') Eq
      (update fun c => { c with faultInjector := f c.faultInjector })
      (update fun c => { c with faultInjector := g c.faultInjector }) := by
  intro m m' hm
  obtain ⟨hsame, hflag, henabled⟩ := h m.client.faultInjector hm.agree.enabled hm.agree.flag
  refine ⟨rfl, ⟨?_, henabled, hflag⟩, hm.outside, hm.trace⟩
  change { m'.client with faultInjector := g m'.client.faultInjector } =
    { m.client with faultInjector := (f m.client.faultInjector).withFlag flag' }
  rw [← hsame, hm.agree.client]
  rfl

theorem flagApart_primitives :
    Primitives (FlagApart enabled flag flag') (FlagAgree enabled flag flag') env env where
  control c d h := by
    rw [h.client]
    exact ⟨rfl, rfl, rfl, rfl, rfl, rfl, rfl, rfl, rfl⟩
  self := self_flagApart
  update _ hf := update_flagApart hf
  log _ _ := emit_flagApart
  setState _ := setState_flagApart
  report c d h := by
    rw [h.client]
    exact emit_flagApart
  nowUs := nowUs_flagApart
  openDevice _ _ := comCall_flagApart
  setClose _ := comCall_flagApart
  setRelease _ := comCall_flagApart
  getCommand _ _ := comCall_flagApart
  deviceRelease _ := comCall_flagApart
  sinkIsOpen := sinkCall_flagApart
  sinkWrite _ := sinkCall_flagApart
  sinkFlush := sinkCall_flagApart

theorem completeStage_flagApart {device : Device} {cmd : VdcCommand} {times : StageTimes} :
    Coupled (FlagApart enabled flag flag') Eq (completeStage env device cmd times)
      (completeStage env device cmd times) := by
  have hfails : ∀ line : LogLine, Coupled (FlagApart enabled flag flag') Eq
      (do log line; setState .failed; return Flow.stop : VdiM ω σ Flow)
      (do log line; setState .failed; return Flow.stop) :=
    fun line => emit_flagApart.andThen (setState_flagApart.andThen (.pure rfl))
  apply nowUs_flagApart.bindEq
  intro ccStart
  apply comCall_flagApart.bindEq
  intro answer
  apply nowUs_flagApart.bindEq
  intro ccEnd
  refine .ite .rfl (fun _ => hfails _) fun _ => ?_
  apply self_flagApart.bind
  intro c d hcd
  obtain ⟨hcall, hflag, henabled⟩ := c.faultInjector.onChunkCompleted_withFlag flag'
  rw [show d.faultInjector = c.faultInjector.withFlag flag' from
    congrArg Client.faultInjector hcd.client, hcall]
  apply (setInjector_flagApart (f := fun _ => c.faultInjector.onChunkCompleted.2)
    (g := fun _ => c.faultInjector.onChunkCompleted.2.withFlag flag')
    fun _ _ _ => ⟨rfl, hflag.trans hcd.flag, henabled.trans hcd.enabled⟩).andThen
  refine .ite .rfl (fun _ => hfails _) fun _ => ?_
  refine Coupled.andThen (Q := Eq) ?_ (.pure rfl)
  exact assign_flagApart (fun _ => rfl) fun _ => rfl

theorem flagApart_session :
    SessionPrimitives (FlagApart enabled flag flag') (FlagAgree enabled flag flag') env env where
  toPrimitives := flagApart_primitives
  assign f hf := by
    cases hf with
    | failAfter n =>
        refine setInjector_flagApart (f := fun injector => injector.setFailAfterNChunks n)
          (g := fun injector => injector.setFailAfterNChunks n) fun injector henabled hflag => ?_
        unfold FaultInjector.setFailAfterNChunks FaultInjector.withFlag
        by_cases h : injector.enabled = true
        · rw [if_pos h, if_pos h]
          exact ⟨rfl, hflag, henabled⟩
        · rw [if_neg h, if_neg h]
          exact ⟨rfl, hflag, henabled⟩
    | _ => exact assign_flagApart (fun _ => rfl) fun _ => rfl
  coInitializeEx := comCall_flagApart
  coUninit := comCall_flagApart
  coCreateInstance := comCall_flagApart
  createEx _ _ _ := comCall_flagApart
  getConfiguration _ _ := comCall_flagApart
  completeStage _ _ _ := completeStage_flagApart

end Session

/-! ## Whole tests -/

section Test

variable {env : Env ω σ}

/-- Two tests that differ at most in the flag and in what they have been told of it. -/
structure SameTest (t t' : TestRun ω σ) : Prop where
  client : t.machine.client.withFlag false = t'.machine.client.withFlag false
  outside : t.machine.outside = t'.machine.outside
  trace : t.machine.trace = t'.machine.trace
  told : flagless t.told = flagless t'.told

theorem SameTest.flagApart {t t' : TestRun ω σ} (h : SameTest t t') :
    FlagApart t.machine.client.faultInjector.enabled t.machine.client.faultInjector.failNextCommand
      t'.machine.client.faultInjector.failNextCommand t.machine t'.machine where
  agree := ⟨(congrArg (fun c : Client =>
    c.withFlag t'.machine.client.faultInjector.failNextCommand) h.client).symm, rfl, rfl⟩
  outside := h.outside.symm
  trace := h.trace.symm

theorem FlagApart.sameTest {enabled flag flag' : Bool} {m m' : Machine ω σ}
    {told told' : List InjectorAnswer} (h : FlagApart enabled flag flag' m m')
    (htold : flagless told = flagless told') :
    SameTest { machine := m, told := told } { machine := m', told := told' } where
  client := (congrArg (fun c : Client => c.withFlag false) h.agree.client).symm
  outside := h.outside.symm
  trace := h.trace.symm
  told := htold

/-- What the client does is the same in both, whatever the flags are. -/
theorem onClient_sameTest {x : VdiM ω σ α}
    (h : ∀ enabled flag flag', Coupled (FlagApart enabled flag flag') Eq x x) :
    Coupled SameTest Eq (onClient x) (onClient x) := by
  intro t t' ht
  obtain ⟨hresult, hapart⟩ := h _ _ _ _ _ ht.flagApart
  exact ⟨hresult, hapart.sameTest ht.told⟩

theorem onInjector_sameTest (call : InjectorCall) :
    Coupled SameTest Eq (onInjector call : StateM (TestRun ω σ) Unit) (onInjector call) := by
  intro t t' ht
  obtain ⟨htold, hleft⟩ := call.perform_withFlag t.machine.client.faultInjector
    t'.machine.client.faultInjector.failNextCommand
  have hinjector : t'.machine.client.faultInjector =
      t.machine.client.faultInjector.withFlag t'.machine.client.faultInjector.failNextCommand :=
    congrArg Client.faultInjector ht.flagApart.agree.client
  rw [← hinjector] at htold hleft
  refine ⟨rfl, ?_, ht.outside, ht.trace, ?_⟩
  · have hclient := congrArg (fun c : Client =>
      { c with faultInjector := (call.perform t.machine.client.faultInjector).2.withFlag false })
      ht.client
    refine hclient.trans ?_
    rw [← hleft]
    rfl
  · change flagless (t.told ++ (call.perform t.machine.client.faultInjector).1) =
      flagless (t'.told ++ (call.perform t'.machine.client.faultInjector).1)
    rw [flagless_append, flagless_append, ht.told, htold]

theorem testCall_sameTest (call : TestCall) :
    Coupled SameTest Eq (call.run env) (call.run env) := by
  cases call with
  | api call => exact onClient_sameTest fun _ _ _ => flagApart_session.apiCall_coupled call
  | injector call => exact (onInjector_sameTest call).andThen (.pure rfl)

/-- A call about the flag shows nowhere else. -/
theorem onFlag_sameTest {call : InjectorCall} (hcall : call.onFlag = true) {t t' : TestRun ω σ}
    (h : SameTest t t') : SameTest ((onInjector call).run t).2 t' := by
  obtain ⟨htold, hleft⟩ := call.perform_onFlag hcall t.machine.client.faultInjector
  refine ⟨?_, h.outside, h.trace, ?_⟩
  · refine Eq.trans ?_ h.client
    change { t.machine.client with
      faultInjector := (call.perform t.machine.client.faultInjector).2.withFlag false } = _
    rw [hleft]
    rfl
  · change flagless (t.told ++ (call.perform t.machine.client.faultInjector).1) = _
    rw [flagless_append, htold, List.append_nil]
    exact h.told

def TestCall.onFlag : TestCall → Bool
  | .api _ => false
  | .injector call => call.onFlag

/-- The test without its calls about the flag. -/
def unflagged (calls : List TestCall) : List TestCall := calls.filter fun call => !call.onFlag

theorem runTest_sameTest (calls : List TestCall) :
    Coupled SameTest Eq (runTest env calls)
      (runTest env (unflagged calls)) := by
  have hcalls : Coupled SameTest Eq
      (forEach (testStep env) calls : StateM (TestRun ω σ) Flow)
      (forEach (testStep env) (unflagged calls)) := by
    refine Coupled.forEach_filter (fun call _ => testCall_sameTest call) ?_ calls
    intro call hcall t t' ht
    cases call with
    | api call => cases hcall
    | injector call => exact ⟨rfl, onFlag_sameTest (by simpa [TestCall.onFlag] using hcall) ht⟩
  apply hcalls.bindEq
  intro flow
  cases flow with
  | stop => exact .pure rfl
  | next =>
      exact (onClient_sameTest fun _ _ _ => flagApart_session.destroy_coupled).andThen (.pure rfl)

/-! ### What is left of the flag -/

/-- The flag after a call, on an injector that is `enabled` or not. -/
def TestCall.pending (enabled flag : Bool) : TestCall → Bool
  | .api _ => flag
  | .injector call => call.pending enabled flag

/-- The flag is as the test's own calls `calls` have left it. -/
def FlagLeft (start : FaultInjector) (calls : List TestCall) (t : TestRun ω σ) : Prop :=
  t.machine.client.faultInjector.enabled = start.enabled ∧
    t.machine.client.faultInjector.failNextCommand =
      calls.foldl (TestCall.pending start.enabled) start.failNextCommand

/-- The client leaves the flag alone. -/
theorem onClient_flagLeft {start : FaultInjector} {calls : List TestCall} {x : VdiM ω σ α}
    {t : TestRun ω σ} (h : ∀ enabled flag, Coupled (FlagApart enabled flag flag) Eq x x)
    (ht : FlagLeft start calls t) : FlagLeft start calls ((onClient x).run t).2 := by
  obtain ⟨henabled, hflag⟩ := ht
  obtain ⟨-, hapart⟩ := h _ _ t.machine t.machine ⟨⟨rfl, rfl, rfl⟩, rfl, rfl⟩
  exact ⟨hapart.agree.enabled.trans henabled, hapart.agree.flag.trans hflag⟩

theorem testCall_flagLeft (env : Env ω σ) {start : FaultInjector} {calls : List TestCall}
    {t : TestRun ω σ} (ht : FlagLeft start calls t) (call : TestCall) :
    FlagLeft start (calls ++ [call]) ((call.run env).run t).2 := by
  unfold FlagLeft
  rw [List.foldl_append, List.foldl_cons, List.foldl_nil]
  cases call with
  | api call => exact onClient_flagLeft (fun _ _ => flagApart_session.apiCall_coupled call) ht
  | injector call =>
      obtain ⟨henabled, hflag⟩ := ht
      obtain ⟨hleft, hkept⟩ := call.perform_pending t.machine.client.faultInjector
      rw [henabled, hflag] at hleft
      exact ⟨hkept.trans henabled, hleft⟩

/-- Some of the calls have been made, all of them if each has returned. -/
theorem runCalls_flagLeft (env : Env ω σ) {start : FaultInjector} {made : List TestCall}
    (calls : List TestCall) {t : TestRun ω σ} (ht : FlagLeft start made t) :
    ∃ more, more <+: calls ∧ FlagLeft start (made ++ more) (forEach (testStep env) calls t).2 ∧
      ((forEach (testStep env) calls t).1 = .next → more = calls) := by
  induction calls generalizing made t with
  | nil => exact ⟨[], List.prefix_rfl, by rwa [List.append_nil], fun _ => rfl⟩
  | cons call calls ih =>
      have hcall := testCall_flagLeft env ht call
      match hstep : testStep env call t with
      | (.next, t') =>
          rw [show ((call.run env).run t).2 = t' from congrArg Prod.snd hstep] at hcall
          obtain ⟨more, hmore, hleft, hall⟩ := ih hcall
          rw [forEach_cons_next hstep]
          refine ⟨call :: more, List.cons_prefix_cons.mpr ⟨rfl, hmore⟩, ?_, fun h => ?_⟩
          · rwa [List.append_cons]
          · rw [hall h]
      | (.stop, t') =>
          rw [show ((call.run env).run t).2 = t' from congrArg Prod.snd hstep] at hcall
          rw [forEach_cons_stop hstep]
          exact ⟨[call], List.prefix_append [call] calls, hcall, fun h => by cases h⟩

theorem runTest_flagLeft (env : Env ω σ) {start : FaultInjector} (calls : List TestCall)
    {t : TestRun ω σ} (ht : FlagLeft start [] t) :
    ∃ made, made <+: calls ∧ FlagLeft start made ((runTest env calls).run t).2 ∧
      (((runTest env calls).run t).1 = .next → made = calls) := by
  obtain ⟨made, hmade, hleft, hall⟩ := runCalls_flagLeft env calls ht
  refine ⟨made, hmade, ?_⟩
  match hrun : forEach (testStep env) calls t with
  | (.stop, t') =>
      have hwhole : (runTest env calls).run t = (.stop, t') := by
        simp only [runTest, StateT.run_bind]
        unfold StateT.run
        rw [hrun]
        rfl
      rw [hrun] at hleft
      rw [hwhole]
      exact ⟨hleft, fun h => by cases h⟩
  | (.next, t') =>
      have hwhole : (runTest env calls).run t = (.next, ((onClient (destroy env)).run t').2) := by
        simp only [runTest, StateT.run_bind]
        unfold StateT.run
        rw [hrun]
        rfl
      rw [hrun] at hleft hall
      rw [hwhole]
      exact ⟨onClient_flagLeft (fun _ _ => flagApart_session.destroy_coupled) hleft,
        fun _ => hall rfl⟩

/-- **Nothing passes through the flag.**  In every test, made of any public calls on a client in any
environment and any calls on its injector, the session, what it does outside and the fields of the
client are those of the test without the calls about the flag; what the injector tells of its
schedule is the same, too.  And the flag itself is where the test's own calls have left it: no
command that was served in between has failed because of it, or used it up. -/
theorem failNextCommand_isolated (env : Env ω σ) (enableLogging : Bool) (injector : FaultInjector)
    (outside : Outside ω σ) (calls : List TestCall) :
    let test := (runTest env calls).run (freshTest enableLogging injector outside)
    let plain := (runTest env (unflagged calls)).run (freshTest enableLogging injector outside)
    (test.1 = plain.1 ∧ SameTest test.2 plain.2) ∧
      ∃ made, made <+: calls ∧ (test.1 = .next → made = calls) ∧
        test.2.machine.client.faultInjector.failNextCommand =
          made.foldl (TestCall.pending injector.enabled) injector.failNextCommand := by
  intro test plain
  have hfresh : FlagLeft injector [] (freshTest enableLogging injector outside) := ⟨rfl, rfl⟩
  obtain ⟨made, hmade, hleft, hall⟩ := runTest_flagLeft env calls hfresh
  exact ⟨runTest_sameTest calls _ _ ⟨rfl, rfl, rfl, rfl⟩, made, hmade, hall, hleft.2⟩

end Test

end Vdi
