import VdiWrapper.CommandRun

/-!
# Sessions

A session is any sequence of public calls on one `VdiClient`, made one after the other from its
construction, possibly ended by its destruction.  A `process_commands` that is still serving when
its watch ends is the last call of its session.

`CallRun` lists every way through one call, `SessionRun` chains them and `LifetimeRun` adds the
destructor; `session_sessionRun` and `lifetime_lifetimeRun` prove the lists complete.  An
invariant of sessions is a case analysis over `CallRun`.
-/

namespace Vdi

open Runs

variable {ω σ : Type} {env : Env ω σ} {m m' : Machine ω σ}

/-! ## Public calls -/

/-- A public call; `processCommands fuel` is watched for `fuel` rounds of its loop. -/
inductive ApiCall
  | connect (deviceName : String) (deviceCount : Int)
  | openDevices
  | processCommands (fuel : Nat)
  | setCommandTimeout (timeoutMs : UInt32)
  /-- `fault_injector().set_fail_after_n_chunks(n)`. -/
  | setFailAfterNChunks (n : UInt64)
  | close

/-- Make the call; `.stop` means that it has not returned. -/
def ApiCall.run (env : Env ω σ) : ApiCall → VdiM ω σ Flow
  | .connect deviceName deviceCount => do
      let _ ← Vdi.connect env deviceName deviceCount
      return .next
  | .openDevices => do
      let _ ← Vdi.openDevices env
      return .next
  | .processCommands fuel => do
      let returned ← Vdi.processCommands env fuel
      if returned then return .next else return .stop
  | .setCommandTimeout timeoutMs => do
      Vdi.setCommandTimeout timeoutMs
      return .next
  | .setFailAfterNChunks n => do
      update fun c => { c with faultInjector := c.faultInjector.setFailAfterNChunks n }
      return .next
  | .close => do
      Vdi.close env
      return .next

/-- One call as a step of the machine. -/
def callStep (env : Env ω σ) (call : ApiCall) (m : Machine ω σ) : Flow × Machine ω σ :=
  (call.run env).run m

/-- Make the calls in order, as long as they return. -/
def runCalls (env : Env ω σ) (calls : List ApiCall) : VdiM ω σ Flow :=
  forEach (callStep env) calls

/-- The calls, and the destructor once they have returned. -/
def runLifetime (env : Env ω σ) (calls : List ApiCall) : VdiM ω σ Flow := do
  match ← runCalls env calls with
  | .stop => return .stop
  | .next => do
      destroy env
      return .next

/-- A client just constructed in an arbitrary environment. -/
def freshMachine (enableLogging : Bool) (faultInjector : FaultInjector) (outside : Outside ω σ) :
    Machine ω σ where
  client := Client.new enableLogging faultInjector
  outside := outside
  trace := []

/-! ## Every way through a call -/

/-- What `~ComRuntime` does for a `CoInitializeEx` that returned `hr`. -/
def uninit (hr : HResult) : List Event := if hr = sFalse then [] else [.coUninit]

/-- `connect` on a client that has not been used yet. -/
inductive ConnectRun (name : String) (count : Int) (c : Client) : List Event → Client → Prop
  | comFailed (hr : HResult) (hhr : failed hr = true) :
      ConnectRun name count c (.coInitializeEx hr :: failure .comInitializationFailed c)
        { c with deviceName := name, deviceCount := count, state := .failed }
  | createFailed (hr hr' : HResult) (ds : DeviceSet) (hhr : failed hr = false)
      (hhr' : failed hr' = true) :
      ConnectRun name count c
        ([.coInitializeEx hr, .coCreateInstance hr' ds] ++
          failure (.coCreateInstanceFailed hr') c ++ uninit hr)
        { c with deviceName := name, deviceCount := count, state := .failed }
  | createExFailed (hr hr' hr'' : HResult) (ds : DeviceSet) (hhr : failed hr = false)
      (hhr' : failed hr' = false) (hhr'' : failed hr'' = true) :
      ConnectRun name count c
        ([.coInitializeEx hr, .coCreateInstance hr' ds, .createEx ds name (vdConfig count) hr'',
          .log (.createExFailed hr''), .setRelease ds, .transition c.state .failed] ++ uninit hr)
        { c with deviceName := name, deviceCount := count, deviceSet := none, state := .failed }
  | connected (hr hr' hr'' : HResult) (ds : DeviceSet) (hhr : failed hr = false)
      (hhr' : failed hr' = false) (hhr'' : failed hr'' = false) :
      ConnectRun name count c
        ([.coInitializeEx hr, .coCreateInstance hr' ds, .createEx ds name (vdConfig count) hr'',
          .transition c.state .connected] ++ uninit hr)
        { c with
          deviceName := name, deviceCount := count, deviceSet := some ds, state := .connected }

/-- `open_devices` on a connected client. -/
inductive OpenRun (c : Client) : List Event → Client → Prop
  | noDeviceSet (hset : c.deviceSet = none) :
      OpenRun c (failure .noDeviceSet c) { c with state := .failed }
  | failed (ds : DeviceSet) (hset : c.deviceSet = some ds) (hr : HResult)
      (hhr : failed hr = true) :
      OpenRun c (.getConfiguration ds 60000 hr :: failure (.getConfigurationFailed hr) c)
        { c with state := .failed }
  | opened (ds : DeviceSet) (hset : c.deviceSet = some ds) (hr : HResult)
      (hhr : Vdi.failed hr = false) :
      OpenRun c [.getConfiguration ds 60000 hr, .transition c.state .streaming]
        { c with state := .streaming }

/-- Every way through a public call. -/
inductive CallRun (c : Client) : ApiCall → List Event → Flow → Client → Prop
  | connectRefused (name : String) (count : Int) (hstate : c.state ≠ .init) :
      CallRun c (.connect name count) [.log (.wrongState "connect" c.state)] .next c
  | connect {name : String} {count : Int} {es : List Event} {c' : Client}
      (hstate : c.state = .init) (run : ConnectRun name count c es c') :
      CallRun c (.connect name count) es .next c'
  | openRefused (hstate : c.state ≠ .connected) :
      CallRun c .openDevices [.log (.wrongState "open_devices" c.state)] .next c
  | openDevices {es : List Event} {c' : Client} (hstate : c.state = .connected)
      (run : OpenRun c es c') : CallRun c .openDevices es .next c'
  | served {fuel : Nat} {es : List Event} {c' : Client} (run : CommandRun c es true c') :
      CallRun c (.processCommands fuel) es .next c'
  | serving {fuel : Nat} {es : List Event} {c' : Client} (run : CommandRun c es false c') :
      CallRun c (.processCommands fuel) es .stop c'
  | setCommandTimeout (timeoutMs : UInt32) :
      CallRun c (.setCommandTimeout timeoutMs) [] .next { c with commandTimeoutMs := timeoutMs }
  | setFailAfterNChunks (n : UInt64) :
      CallRun c (.setFailAfterNChunks n) [] .next
        { c with faultInjector := c.faultInjector.setFailAfterNChunks n }
  | closedAgain (hclosed : c.devicesClosed = true) : CallRun c .close [] .next c
  | close (hopen : c.devicesClosed = false) : CallRun c .close (closing c) .next c.closed

/-- The calls made so far. -/
inductive SessionRun (c : Client) : List Event → Flow → Client → Prop
  | start : SessionRun c [] .next c
  | call {es es' : List Event} {c' c'' : Client} {call : ApiCall} {flow : Flow}
      (before : SessionRun c es .next c') (run : CallRun c' call es' flow c'') :
      SessionRun c (es ++ es') flow c''

/-- The destructor. -/
inductive DestroyRun (c : Client) : List Event → Client → Prop
  | nothing (hstate : c.state = .closed ∨ c.state = .init) : DestroyRun c [] c
  | closedAgain (hstate : c.state ≠ .closed ∧ c.state ≠ .init) (hclosed : c.devicesClosed = true) :
      DestroyRun c [.log .destroyedWithoutClose] c
  | close (hstate : c.state ≠ .closed ∧ c.state ≠ .init) (hopen : c.devicesClosed = false) :
      DestroyRun c (.log .destroyedWithoutClose :: closing c) c.closed

/-- A whole life: the calls, and the destructor once they have returned. -/
inductive LifetimeRun (c : Client) : List Event → Flow → Client → Prop
  | serving {es : List Event} {c' : Client} (run : SessionRun c es .stop c') :
      LifetimeRun c es .stop c'
  | destroyed {es es' : List Event} {c' c'' : Client} (run : SessionRun c es .next c')
      (destroyed : DestroyRun c' es' c'') : LifetimeRun c (es ++ es') .next c''

/-! ## Completeness -/

theorem comRuntimeDestroy_run {hr : HResult} {com : ComRuntime} {u : Unit}
    (hcom : com = { initialized := true, alreadyInit := decide (hr = sFalse) })
    (h : (com.destroy env).run m = (u, m')) :
    m'.client = m.client ∧ m'.trace = m.trace ++ uninit hr := by
  unfold ComRuntime.destroy at h
  rw [hcom] at h
  by_cases hfalse : hr = sFalse
  · rw [if_neg (by simp [hfalse])] at h
    obtain ⟨-, rfl⟩ := pure_run h
    exact ⟨rfl, by simp [uninit, hfalse]⟩
  · rw [if_pos (by simp [hfalse])] at h
    obtain ⟨hclient, htrace⟩ := comCall_run h
    exact ⟨hclient, by simp [htrace, uninit, hfalse]⟩

/-- The body of `connect` on the client whose name and count were just stored, and the destructor
of the local `com` after it. -/
theorem connectBody_run {name : String} {count : Int} {c : Client} {ok : Bool}
    (hclient : m.client = { c with deviceName := name, deviceCount := count })
    (h : (do let com ← ComRuntime.new env
             let ok ← connectWith env name count com
             com.destroy env
             return ok).run m = (ok, m')) :
    ∃ es, m'.trace = m.trace ++ es ∧ ConnectRun name count c es m'.client := by
  obtain ⟨com, m₁, hnew, h⟩ := bind_run h
  obtain ⟨hr, m₂, hinit, hnew⟩ := bind_run hnew
  obtain ⟨hclient₂, htrace₂⟩ := comCall_run hinit
  rw [hclient] at hclient₂
  obtain ⟨ok', m₃, hwith, h⟩ := bind_run h
  obtain ⟨_, m₄, hdestroy, h⟩ := bind_run h
  obtain ⟨rfl, rfl⟩ := pure_run h
  unfold connectWith at hwith
  split at hnew
  · next hok =>
    have hhr : failed hr = false := succeeded_eq_true_iff.mp hok
    obtain ⟨rfl, rfl⟩ := pure_run hnew
    obtain ⟨hclient₄, htrace₄⟩ := comRuntimeDestroy_run rfl hdestroy
    rw [hclient₄]
    rw [if_neg (by simp)] at hwith
    obtain ⟨⟨hr', ds⟩, m₅, hcreate, hwith⟩ := bind_run hwith
    obtain ⟨hclient₅, htrace₅⟩ := comCall_run hcreate
    rw [hclient₂] at hclient₅
    dsimp only at hwith
    split at hwith
    · next hhr' =>
      obtain ⟨-, hclient₃, htrace₃⟩ := failure_run hwith
      rw [hclient₃, hclient₅]
      refine ⟨_, ?_, .createFailed hr hr' ds hhr hhr'⟩
      simp [htrace₄, htrace₃, htrace₅, htrace₂, hclient₅, failure]
    · next hhr' =>
      have hhr' : failed hr' = false := by simpa using hhr'
      obtain ⟨_, m₆, hset, hwith⟩ := bind_run hwith
      have h₆ := update_run hset
      obtain ⟨hr'', m₇, hcreateEx, hwith⟩ := bind_run hwith
      obtain ⟨hclient₇, htrace₇⟩ := comCall_run hcreateEx
      rw [h₆, hclient₅] at hclient₇
      split at hwith
      · next hhr'' =>
        obtain ⟨_, m₈, hlog, hwith⟩ := bind_run hwith
        have h₈ := log_run hlog
        obtain ⟨_, m₉, hrelease, hwith⟩ := bind_run hwith
        obtain ⟨hclient₉, htrace₉⟩ := comCall_run hrelease
        obtain ⟨_, m₁₀, hclear, hwith⟩ := bind_run hwith
        have h₁₀ := update_run hclear
        obtain ⟨_, m₁₁, hstate, hwith⟩ := bind_run hwith
        obtain ⟨-, rfl⟩ := pure_run hwith
        obtain ⟨hclient₁₁, htrace₁₁⟩ := setState_run hstate
        rw [hclient₁₁, h₁₀, hclient₉, h₈, hclient₇]
        refine ⟨_, ?_, .createExFailed hr hr' hr'' ds hhr hhr' hhr''⟩
        simp [htrace₄, htrace₁₁, h₁₀, htrace₉, hclient₉, h₈, htrace₇, hclient₇, h₆, htrace₅,
          htrace₂]
      · next hhr'' =>
        have hhr'' : failed hr'' = false := by simpa using hhr''
        obtain ⟨_, m₈, hstate, hwith⟩ := bind_run hwith
        obtain ⟨-, rfl⟩ := pure_run hwith
        obtain ⟨hclient₈, htrace₈⟩ := setState_run hstate
        rw [hclient₈, hclient₇]
        refine ⟨_, ?_, .connected hr hr' hr'' ds hhr hhr' hhr''⟩
        simp [htrace₄, htrace₈, htrace₇, hclient₇, h₆, htrace₅, htrace₂]
  · next hno =>
    have hhr : failed hr = true := by simpa [succeeded] using hno
    obtain ⟨rfl, rfl⟩ := pure_run hnew
    obtain ⟨-, hclient₃, htrace₃⟩ := failure_run hwith
    obtain ⟨-, rfl⟩ := pure_run hdestroy
    rw [hclient₃, hclient₂]
    refine ⟨_, ?_, .comFailed hr hhr⟩
    simp [htrace₃, htrace₂, hclient₂, failure]

theorem connect_run {name : String} {count : Int} {ok : Bool}
    (h : (connect env name count).run m = (ok, m')) :
    ∃ es, m'.trace = m.trace ++ es ∧
      CallRun m.client (.connect name count) es .next m'.client := by
  obtain ⟨c, m₁, hself, h⟩ := bind_run h
  obtain ⟨rfl, rfl⟩ := self_run hself
  split at h
  · next hstate =>
    obtain ⟨_, m₂, hlog, h⟩ := bind_run h
    obtain ⟨rfl, rfl⟩ := pure_run h
    rw [log_run hlog]
    exact ⟨_, rfl, .connectRefused name count hstate⟩
  · next hstate =>
    have hstate : m₁.client.state = .init := by simpa using hstate
    obtain ⟨_, m₂, hstore, h⟩ := bind_run h
    have h₂ := update_run hstore
    obtain ⟨es, htrace, run⟩ := connectBody_run (by rw [h₂]) h
    exact ⟨es, by rw [htrace, h₂], .connect hstate run⟩

theorem openDevices_run {ok : Bool} (h : (openDevices env).run m = (ok, m')) :
    ∃ es, m'.trace = m.trace ++ es ∧ CallRun m.client .openDevices es .next m'.client := by
  obtain ⟨c, m₁, hself, h⟩ := bind_run h
  obtain ⟨rfl, rfl⟩ := self_run hself
  split at h
  · next hstate =>
    obtain ⟨_, m₂, hlog, h⟩ := bind_run h
    obtain ⟨rfl, rfl⟩ := pure_run h
    rw [log_run hlog]
    exact ⟨_, rfl, .openRefused hstate⟩
  · next hstate =>
    have hstate : m₁.client.state = .connected := by simpa using hstate
    cases hset : m₁.client.deviceSet with
    | none =>
        rw [hset] at h
        obtain ⟨-, hclient, htrace⟩ := failure_run h
        rw [hclient]
        exact ⟨_, htrace, .openDevices hstate (.noDeviceSet hset)⟩
    | some ds =>
        rw [hset] at h
        obtain ⟨hr, m₂, hget, h⟩ := bind_run h
        obtain ⟨hclient₂, htrace₂⟩ := comCall_run hget
        split at h
        · next hhr =>
          obtain ⟨-, hclient, htrace⟩ := failure_run h
          rw [hclient, hclient₂]
          refine ⟨_, ?_, .openDevices hstate (.failed ds hset hr hhr)⟩
          simp [htrace, htrace₂, hclient₂, failure]
        · next hhr =>
          have hhr : failed hr = false := by simpa using hhr
          obtain ⟨_, m₃, hset', h⟩ := bind_run h
          obtain ⟨-, rfl⟩ := pure_run h
          obtain ⟨hclient, htrace⟩ := setState_run hset'
          rw [hclient, hclient₂]
          refine ⟨_, ?_, .openDevices hstate (.opened ds hset hr hhr)⟩
          simp [htrace, htrace₂, hclient₂]

/-- **Completeness.**  Whatever the environment answers, a public call is one of the ways of
`CallRun`. -/
theorem apiCall_callRun {call : ApiCall} {flow : Flow} (h : (call.run env).run m = (flow, m')) :
    ∃ es, m'.trace = m.trace ++ es ∧ CallRun m.client call es flow m'.client := by
  cases call with
  | connect name count =>
      obtain ⟨ok, m₁, hconnect, h⟩ := bind_run h
      obtain ⟨rfl, rfl⟩ := pure_run h
      exact connect_run hconnect
  | openDevices =>
      obtain ⟨ok, m₁, hopen, h⟩ := bind_run h
      obtain ⟨rfl, rfl⟩ := pure_run h
      exact openDevices_run hopen
  | processCommands fuel =>
      obtain ⟨returned, m₁, hprocess, h⟩ := bind_run h
      obtain ⟨es, htrace, run⟩ := processCommands_commandRun hprocess
      cases returned with
      | true =>
          obtain ⟨rfl, rfl⟩ := pure_run h
          exact ⟨es, htrace, .served run⟩
      | false =>
          obtain ⟨rfl, rfl⟩ := pure_run h
          exact ⟨es, htrace, .serving run⟩
  | setCommandTimeout timeoutMs =>
      obtain ⟨_, m₁, hset, h⟩ := bind_run h
      obtain ⟨rfl, rfl⟩ := pure_run h
      rw [update_run hset]
      exact ⟨[], by simp, .setCommandTimeout timeoutMs⟩
  | setFailAfterNChunks n =>
      obtain ⟨_, m₁, hset, h⟩ := bind_run h
      obtain ⟨rfl, rfl⟩ := pure_run h
      rw [update_run hset]
      exact ⟨[], by simp, .setFailAfterNChunks n⟩
  | close =>
      obtain ⟨_, m₁, hclose, h⟩ := bind_run h
      obtain ⟨rfl, rfl⟩ := pure_run h
      rcases close_run hclose with ⟨hclosed, rfl⟩ | ⟨hopen, hclient, htrace⟩
      · exact ⟨[], by simp, .closedAgain hclosed⟩
      · rw [hclient]
        exact ⟨_, htrace, .close hopen⟩

/-- The calls of a session chain. -/
theorem runCalls_sessionRun {calls : List ApiCall} {flow : Flow}
    (h : (runCalls env calls).run m = (flow, m')) :
    ∃ es, m'.trace = m.trace ++ es ∧ SessionRun m.client es flow m'.client := by
  suffices hgen : ∀ {calls : List ApiCall} {mid : Machine ω σ} {es : List Event},
      mid.trace = m.trace ++ es → SessionRun m.client es .next mid.client →
      (runCalls env calls).run mid = (flow, m') →
      ∃ es, m'.trace = m.trace ++ es ∧ SessionRun m.client es flow m'.client from
    hgen (List.append_nil _).symm .start h
  intro calls
  induction calls with
  | nil =>
      intro mid es htrace run h
      cases h
      exact ⟨es, htrace, run⟩
  | cons call calls ih =>
      intro mid es htrace run h
      match hcall : callStep env call mid with
      | (.next, mid') =>
          obtain ⟨es', htrace', run'⟩ := apiCall_callRun hcall
          have hrest : (runCalls env (call :: calls)).run mid = (runCalls env calls).run mid' :=
            forEach_cons_next hcall
          refine ih ?_ (run.call run') (hrest.symm.trans h)
          rw [htrace', htrace, List.append_assoc]
      | (.stop, mid') =>
          obtain ⟨es', htrace', run'⟩ := apiCall_callRun hcall
          have hend : (runCalls env (call :: calls)).run mid = (.stop, mid') :=
            forEach_cons_stop hcall
          cases hend.symm.trans h
          exact ⟨es ++ es', by rw [htrace', htrace, List.append_assoc], run.call run'⟩

theorem apiCall_traced {call : ApiCall} : Traced env (call.run env) := by
  cases call with
  | connect => exact .bind connect_traced fun _ => .pure _
  | openDevices => exact .bind openDevices_traced fun _ => .pure _
  | processCommands => exact .bind processCommands_traced fun _ => .ite (.pure _) (.pure _)
  | setCommandTimeout => exact .bind (.update _) fun _ => .pure _
  | setFailAfterNChunks => exact .bind (.update _) fun _ => .pure _
  | close => exact .bind close_traced fun _ => .pure _

/-- The calls of a session are traced because each of them is. -/
theorem runCalls_traced {calls : List ApiCall} : Traced env (runCalls env calls) := by
  induction calls with
  | nil => exact .pure _
  | cons call calls ih =>
      intro m flow m' h
      match hcall : callStep env call m with
      | (.next, mid) =>
          obtain ⟨es, htrace, hpath⟩ := apiCall_traced _ _ _ hcall
          have hrest : (runCalls env (call :: calls)).run m = (runCalls env calls).run mid :=
            forEach_cons_next hcall
          obtain ⟨es', htrace', hpath'⟩ := ih _ _ _ (hrest.symm.trans h)
          exact ⟨es ++ es', by rw [htrace', htrace, List.append_assoc], hpath.append hpath'⟩
      | (.stop, mid) =>
          have hend : (runCalls env (call :: calls)).run m = (.stop, mid) :=
            forEach_cons_stop hcall
          cases hend.symm.trans h
          exact apiCall_traced _ _ _ hcall

theorem destroy_run {u : Unit} (h : (destroy env).run m = (u, m')) :
    ∃ es, m'.trace = m.trace ++ es ∧ DestroyRun m.client es m'.client := by
  obtain ⟨c, m₁, hself, h⟩ := bind_run h
  obtain ⟨rfl, rfl⟩ := self_run hself
  split at h
  · next hstate =>
    obtain ⟨_, m₂, hlog, h⟩ := bind_run h
    have h₂ := log_run hlog
    rcases close_run h with ⟨hclosed, rfl⟩ | ⟨hopen, hclient, htrace⟩
    · rw [h₂] at hclosed ⊢
      exact ⟨_, rfl, .closedAgain hstate hclosed⟩
    · rw [h₂] at hopen hclient htrace
      rw [hclient]
      exact ⟨_, by simp [htrace], .close hstate hopen⟩
  · next hstate =>
    obtain ⟨-, rfl⟩ := pure_run h
    refine ⟨[], by simp, .nothing ?_⟩
    by_contra hno
    exact hstate ⟨fun h => hno (.inl h), fun h => hno (.inr h)⟩

theorem runLifetime_lifetimeRun {calls : List ApiCall} {flow : Flow}
    (h : (runLifetime env calls).run m = (flow, m')) :
    ∃ es, m'.trace = m.trace ++ es ∧ LifetimeRun m.client es flow m'.client := by
  obtain ⟨flow', m₁, hcalls, h⟩ := bind_run h
  obtain ⟨es, htrace, run⟩ := runCalls_sessionRun hcalls
  cases flow' with
  | stop =>
      obtain ⟨rfl, rfl⟩ := pure_run h
      exact ⟨es, htrace, .serving run⟩
  | next =>
      obtain ⟨_, m₂, hdestroy, h⟩ := bind_run h
      obtain ⟨rfl, rfl⟩ := pure_run h
      obtain ⟨es', htrace', run'⟩ := destroy_run hdestroy
      exact ⟨es ++ es', by rw [htrace', htrace, List.append_assoc], .destroyed run run'⟩

/-- The machine after the calls on a fresh client. -/
def session (env : Env ω σ) (enableLogging : Bool) (faultInjector : FaultInjector)
    (outside : Outside ω σ) (calls : List ApiCall) : Machine ω σ :=
  ((runCalls env calls).run (freshMachine enableLogging faultInjector outside)).2

/-- The machine after the calls and, if they have returned, the destructor. -/
def lifetime (env : Env ω σ) (enableLogging : Bool) (faultInjector : FaultInjector)
    (outside : Outside ω σ) (calls : List ApiCall) : Machine ω σ :=
  ((runLifetime env calls).run (freshMachine enableLogging faultInjector outside)).2

/-- The calls have all returned. -/
def Returned (env : Env ω σ) (enableLogging : Bool) (faultInjector : FaultInjector)
    (outside : Outside ω σ) (calls : List ApiCall) : Prop :=
  ((runCalls env calls).run (freshMachine enableLogging faultInjector outside)).1 = .next

instance {enableLogging : Bool} {faultInjector : FaultInjector} {outside : Outside ω σ}
    {calls : List ApiCall} :
    Decidable (Returned env enableLogging faultInjector outside calls) :=
  inferInstanceAs (Decidable (_ = _))

variable (env : Env ω σ) (enableLogging : Bool) (faultInjector : FaultInjector)
  (outside : Outside ω σ) (calls : List ApiCall)

/-- The trace of a session of a fresh client is that of a `SessionRun`. -/
theorem session_sessionRun : ∃ flow,
    SessionRun (Client.new enableLogging faultInjector)
      (session env enableLogging faultInjector outside calls).trace flow
      (session env enableLogging faultInjector outside calls).client ∧
    (Returned env enableLogging faultInjector outside calls → flow = .next) := by
  obtain ⟨es, htrace, run⟩ := runCalls_sessionRun
    (Prod.eta ((runCalls env calls).run (freshMachine enableLogging faultInjector outside))).symm
  rw [freshMachine, List.nil_append] at htrace
  rw [← htrace] at run
  exact ⟨_, run, id⟩

/-- The trace of a session leads the environment from where it was to where the session left it. -/
theorem session_path : Path env.Answers outside
    (session env enableLogging faultInjector outside calls).trace
    (session env enableLogging faultInjector outside calls).outside := by
  obtain ⟨es, htrace, hpath⟩ := runCalls_traced _ _ _
    (Prod.eta ((runCalls env calls).run (freshMachine enableLogging faultInjector outside))).symm
  rw [freshMachine, List.nil_append] at htrace
  rw [← htrace] at hpath
  exact hpath

/-- The trace of a lifetime of a fresh client is that of a `LifetimeRun`. -/
theorem lifetime_lifetimeRun : ∃ flow,
    LifetimeRun (Client.new enableLogging faultInjector)
      (lifetime env enableLogging faultInjector outside calls).trace flow
      (lifetime env enableLogging faultInjector outside calls).client ∧
    (Returned env enableLogging faultInjector outside calls → flow = .next) := by
  obtain ⟨es, htrace, run⟩ := runLifetime_lifetimeRun
    (Prod.eta ((runLifetime env calls).run
      (freshMachine enableLogging faultInjector outside))).symm
  rw [freshMachine, List.nil_append] at htrace
  rw [← htrace] at run
  refine ⟨_, run, fun hreturned => ?_⟩
  have hcalls : (runCalls env calls).run (freshMachine enableLogging faultInjector outside) =
      (.next, session env enableLogging faultInjector outside calls) := Prod.ext hreturned rfl
  unfold runLifetime
  rw [run_bind hcalls]
  rfl

end Vdi
