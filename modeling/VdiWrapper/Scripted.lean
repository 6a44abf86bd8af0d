import VdiWrapper.FileSink
import VdiWrapper.Session

/-!
# A scripted server

A small server that makes concrete runs possible: COM always works, `OpenDevice` hands out the
devices `0, 1, 2, …` as long as there is a script for them, and `GetCommand` answers a device with
the next entry of its script and with `VD_E_CLOSE` once the script is used up.
-/

namespace Vdi

/-- What one `GetCommand` answers. -/
abbrev Answer := HResult × Option VdcCommand

/-- The devices handed out so far, and what is left of the script of each device. -/
structure Server where
  opened : Nat
  scripts : List (List Answer)

/-- A server at the start of a session. -/
def Server.start (scripts : List (List Answer)) : Server := { opened := 0, scripts }

/-- `VD_E_OPEN`, the answer to an `OpenDevice` for which there is no script. -/
def vdEOpen : HResult := 0x80770002

/-- A command delivered with `S_OK`. -/
def deliver (cmd : VdcCommand) : Answer := (sOk, some cmd)

/-- `GetCommand` ran into its timeout. -/
def timeout : Answer := (vdETimeout, none)

def scriptedCom : Com Server where
  coInitializeEx := fun w => (sOk, w)
  coUninit := fun w => w
  coCreateInstance := fun w => ((sOk, 0), w)
  createEx := fun _ _ _ w => (sOk, w)
  getConfiguration := fun _ _ w => (sOk, w)
  openDevice := fun _ _ w =>
    if w.opened < w.scripts.length then ((sOk, w.opened), { w with opened := w.opened + 1 })
    else ((vdEOpen, 0), w)
  setClose := fun _ w => w
  setRelease := fun _ w => w
  getCommand := fun device _ w =>
    match w.scripts.getD device [] with
    | [] => ((vdEClose, none), w)
    | answer :: rest => (answer, { w with scripts := w.scripts.set device rest })
  completeCommand := fun _ cmd _ _ _ w => ((sOk, cmd), w)
  deviceRelease := fun _ w => w

/-- The scripted server with a sink and a clock that advances by one at each reading. -/
def scriptedEnv {σ : Type} (sink : Sink σ) : Env Server σ where
  com := scriptedCom
  sink := sink
  clock := UInt64.ofNat

/-- The scripted server and a sink before the first call. -/
def scriptedStart {σ : Type} (scripts : List (List Answer)) (sink : σ) : Outside Server σ where
  world := Server.start scripts
  sink := sink

/-- A `VDC_Write` of one byte. -/
def oneByte (b : UInt8) : VdcCommand where
  commandCode := vdcWrite
  size := 1
  position := 0
  buffer := some ⟨[b], rfl⟩

/-- A command without payload. -/
def bareCommand (code : UInt32) : VdcCommand where
  commandCode := code
  size := 0
  position := 0
  buffer := none

/-- A client connected to one device, with its devices configured. -/
def streamingClient : Client :=
  (session (scriptedEnv nullSink) false {} (scriptedStart [] ())
    [.connect "backup" 1, .openDevices]).client

end Vdi
