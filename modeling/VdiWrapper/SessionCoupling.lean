import VdiWrapper.LoopCoupling
import VdiWrapper.Session

/-!
# Coupling sessions

`LoopCoupling` couples `process_commands` with itself.  The other public calls are coupled in the
same way once a relation says something of the COM calls of `connect` and `open_devices` and of the
assignments made outside the loop (`SessionPrimitives`).  Then every public call is coupled with
itself (`apiCall_coupled`), and so is the destructor (`destroy_coupled`).
-/

namespace Vdi

open Runs

variable {ω σ ω' σ' : Type}

/-- The assignments of the public calls, `process_commands` apart. -/
inductive PublicAssignment : (Client → Client) → Prop
  | named (name : String) (count : Int) :
      PublicAssignment fun c => { c with deviceName := name, deviceCount := count }
  | created (ds : DeviceSet) : PublicAssignment fun c => { c with deviceSet := some ds }
  | timeout (timeoutMs : UInt32) :
      PublicAssignment fun c => { c with commandTimeoutMs := timeoutMs }
  | failAfter (n : UInt64) :
      PublicAssignment fun c => { c with faultInjector := c.faultInjector.setFailAfterNChunks n }

/-- What a relation has to say of a session, the loop of `process_commands` included. -/
structure SessionPrimitives (R : Machine ω σ → Machine ω' σ' → Prop)
    (Agree : Client → Client → Prop) (env : Env ω σ) (env' : Env ω' σ') : Prop
    extends Primitives R Agree env env' where
  assign : ∀ f, PublicAssignment f → Coupled R Eq (Vdi.update f) (Vdi.update f)
  coInitializeEx : Coupled R Eq (coInitializeEx env) (coInitializeEx env')
  coUninit : Coupled R Eq (coUninit env) (coUninit env')
  coCreateInstance : Coupled R Eq (coCreateInstance env) (coCreateInstance env')
  createEx : ∀ ds name config,
    Coupled R Eq (createEx env ds name config) (createEx env' ds name config)
  getConfiguration : ∀ ds timeout,
    Coupled R Eq (getConfiguration env ds timeout) (getConfiguration env' ds timeout)
  completeStage : ∀ device cmd times,
    Coupled R Eq (completeStage env device cmd times) (completeStage env' device cmd times)

namespace SessionPrimitives

variable {R : Machine ω σ → Machine ω' σ' → Prop} {Agree : Client → Client → Prop}
  {env : Env ω σ} {env' : Env ω' σ'}

/-! ## The public calls -/

/-- Both sides see the same `HRESULT`, and so build the same `ComRuntime`. -/
theorem comRuntime_coupled (prims : SessionPrimitives R Agree env env') :
    Coupled R Eq (ComRuntime.new env) (ComRuntime.new env') := by
  apply prims.coInitializeEx.bindEq
  intro hr
  exact .ite .rfl (fun _ => .pure rfl) fun _ => .pure rfl

/-- And both uninitialise COM, or neither does. -/
theorem comRuntimeDestroy_coupled (prims : SessionPrimitives R Agree env env')
    (com : ComRuntime) : Coupled R Eq (com.destroy env) (com.destroy env') :=
  .ite .rfl (fun _ => prims.coUninit) fun _ => .pure rfl

/-- Every way out of `connect` is taken on both sides at once. -/
theorem connectWith_coupled (prims : SessionPrimitives R Agree env env') {name : String}
    {count : Int} (com : ComRuntime) :
    Coupled R Eq (connectWith env name count com) (connectWith env' name count com) := by
  refine .ite .rfl (fun _ => prims.failure_coupled (by trivial)) fun _ => ?_
  apply prims.coCreateInstance.bindEq
  intro answer
  refine .ite .rfl (fun _ => prims.failure_coupled (by trivial)) fun _ => ?_
  apply (prims.assign _ (.created answer.2)).andThen
  apply (prims.createEx answer.2 name (vdConfig count)).bindEq
  intro hr
  refine .ite .rfl (fun _ => ?_) fun _ => (prims.setState .connected).andThen (.pure rfl)
  exact (prims.log _ (by trivial)).andThen ((prims.setRelease _).andThen
    ((prims.update _ .setGone).andThen ((prims.setState .failed).andThen (.pure rfl))))

/-- `connect` with its check of the state, which related clients agree on. -/
theorem connect_coupled (prims : SessionPrimitives R Agree env env') {name : String}
    {count : Int} : Coupled R Eq (connect env name count) (connect env' name count) := by
  apply prims.self.bind
  intro c d hcd
  rw [(prims.control c d hcd).state]
  refine .ite .rfl (fun _ => (prims.log _ (by trivial)).andThen (.pure rfl)) fun _ => ?_
  apply (prims.assign _ (.named name count)).andThen
  apply prims.comRuntime_coupled.bindEq
  intro com
  apply (prims.connectWith_coupled com).bindEq
  intro ok
  exact (prims.comRuntimeDestroy_coupled com).andThen (.pure rfl)

/-- Related clients have the same device set, or both have none. -/
theorem openDevices_coupled (prims : SessionPrimitives R Agree env env') :
    Coupled R Eq (openDevices env) (openDevices env') := by
  apply prims.self.bind
  intro c d hcd
  have hsame := prims.control c d hcd
  rw [hsame.state, hsame.deviceSet]
  refine .ite .rfl (fun _ => (prims.log _ (by trivial)).andThen (.pure rfl)) fun _ => ?_
  cases d.deviceSet with
  | none => exact prims.failure_coupled (by trivial)
  | some ds =>
      apply (prims.getConfiguration ds 60000).bindEq
      intro hr
      refine .ite .rfl (fun _ => prims.failure_coupled (by trivial)) fun _ => ?_
      exact (prims.setState .streaming).andThen (.pure rfl)

/-- `process_commands` is coupled by its own primitives and the completion stage. -/
theorem serve_coupled (prims : SessionPrimitives R Agree env env') {fuel : Nat} :
    Coupled R Eq (processCommands env fuel) (processCommands env' fuel) :=
  prims.toPrimitives.processCommands_coupled prims.completeStage

/-- The destructor closes on both sides, or on neither. -/
theorem destroy_coupled (prims : SessionPrimitives R Agree env env') :
    Coupled R Eq (destroy env) (destroy env') := by
  apply prims.self.bind
  intro c d hcd
  rw [(prims.control c d hcd).state]
  refine .ite .rfl (fun _ => ?_) fun _ => .pure rfl
  exact (prims.log _ (by trivial)).andThen prims.close_coupled

/-! ## Sessions -/

/-- Any public call, made on related clients, returns the same and leaves them related. -/
theorem apiCall_coupled (prims : SessionPrimitives R Agree env env') (call : ApiCall) :
    Coupled R Eq (call.run env) (call.run env') := by
  cases call with
  | connect name count => exact prims.connect_coupled.andThen (.pure rfl)
  | openDevices => exact prims.openDevices_coupled.andThen (.pure rfl)
  | processCommands fuel =>
      apply prims.serve_coupled.bindEq
      intro returned
      exact .ite .rfl (fun _ => .pure rfl) fun _ => .pure rfl
  | setCommandTimeout timeoutMs => exact (prims.assign _ (.timeout timeoutMs)).andThen (.pure rfl)
  | setFailAfterNChunks n => exact (prims.assign _ (.failAfter n)).andThen (.pure rfl)
  | close => exact prims.close_coupled.andThen (.pure rfl)

end SessionPrimitives

end Vdi
