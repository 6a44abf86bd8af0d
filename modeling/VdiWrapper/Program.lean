import VdiWrapper.DataLoss
import VdiWrapper.FileStream

/-!
# The program

`main` of `src/main.cpp`: its options, the sink it chooses at run time, and the one life it gives
to a client.  Between connecting and waiting for the configuration it has SQL Server asked for a
backup, by `sqlcmd` or by the person in front of it.  Both happen outside the client, so the
process keeps a list of its own actions beside the trace of the client.
-/

namespace Vdi

open Runs

variable {ω α : Type}

/-! ## Options -/

/-- What `main` reads from its arguments. -/
structure Options where
  useFileSink : Bool := false
  autoMode : Bool := false
  benchmarkId : String := "default_run"
deriving DecidableEq

/-- The loop over `argv`.  A flag that wants a value is skipped if it comes last. -/
def Options.parse (options : Options) : List String → Options
  | [] => options
  | [arg] => if arg = "--auto" then { options with autoMode := true } else options
  | arg :: value :: rest =>
      if arg = "--auto" then Options.parse { options with autoMode := true } (value :: rest)
      else if arg = "--sink" then
        Options.parse
          (if value = "file" then { options with useFileSink := true } else options) rest
      else if arg = "--benchmark-id" then Options.parse { options with benchmarkId := value } rest
      else Options.parse options (value :: rest)

/-! ## The sink -/

/-- `std::unique_ptr<Sink>`, a `NullSink` or a `FileSink`. -/
abbrev ChosenSink := Unit ⊕ FileSink

namespace ChosenSink

variable (disk : Nat → WriteOutcome)

def write (sink : ChosenSink) (data : List UInt8) : Bool × ChosenSink :=
  match sink with
  | .inl s => ((nullSink.write s data).1, .inl (nullSink.write s data).2)
  | .inr s => ((s.write disk data).1, .inr (s.write disk data).2)

def flush : ChosenSink → ChosenSink
  | .inl s => .inl (nullSink.flush s)
  | .inr s => .inr (s.flush disk)

def isOpen : ChosenSink → Bool
  | .inl s => (nullSink.isOpen s).1
  | .inr s => s.isOpen

/-- The virtual destructor. -/
def destroy : ChosenSink → ChosenSink
  | .inl s => .inl s
  | .inr s => .inr (s.destroy disk)

def asSink : Sink ChosenSink where
  write := write disk
  flush := flush disk
  isOpen := fun sink => (sink.isOpen, sink)

end ChosenSink

/-! ## The process -/

/-- What surrounds the process: COM, the clock and the disk, the operating system, the person in
front of the terminal. -/
structure Host (ω : Type) where
  com : Com ω
  clock : Nat → UInt64
  disk : Nat → WriteOutcome
  /-- `CreateFileW` of the constructor of `FileSink` succeeds. -/
  opened : Bool
  /-- What `_aligned_malloc` returns there. -/
  allocated : Option (Nat → UInt8)
  /-- `GetCurrentProcessId()`. -/
  pid : UInt32
  /-- `_wsystem(cmdline)`. -/
  wsystem : String → ω → Int × ω
  /-- `std::cin.get()` returns. -/
  cinGet : ω → ω

/-- The environment of the client. -/
def Host.env (host : Host ω) : Env ω ChosenSink where
  com := host.com
  sink := ChosenSink.asSink host.disk
  clock := host.clock

/-- What the process does, in order. -/
inductive Action
  /-- The client did this. -/
  | client (e : Event)
  | wsystem (cmdline : String) (rc : Int)
  | cinGet
  | out (text : String)
  | err (text : String)
deriving DecidableEq

structure Process (ω : Type) where
  machine : Machine ω ChosenSink
  actions : List Action

/-- A piece of `main`. -/
abbrev ProcessM (ω : Type) := StateM (Process ω)

/-- A call on the client: what it adds to the trace are actions of the process. -/
def call (x : VdiM ω ChosenSink α) : ProcessM ω α := fun p =>
  ((x.run p.machine).1,
    { machine := (x.run p.machine).2
      actions := p.actions ++
        ((x.run p.machine).2.trace.drop p.machine.trace.length).map .client })

def act (action : Action) : ProcessM ω Unit := fun p =>
  ((), { p with actions := p.actions ++ [action] })

/-- The world of the client moves on. -/
def Process.moveWorld (p : Process ω) (w : ω) : Process ω :=
  { p with machine := { p.machine with outside := { p.machine.outside with world := w } } }

/-- `_wsystem(cmdline)`. -/
def wsystem (host : Host ω) (cmdline : String) : ProcessM ω Int := fun p =>
  ((host.wsystem cmdline p.machine.outside.world).1,
    { p.moveWorld (host.wsystem cmdline p.machine.outside.world).2 with
      actions := p.actions ++
        [.wsystem cmdline (host.wsystem cmdline p.machine.outside.world).1] })

/-- `std::cin.get()`. -/
def cinGet (host : Host ω) : ProcessM ω Unit := fun p =>
  ((), { p.moveWorld (host.cinGet p.machine.outside.world) with
    actions := p.actions ++ [.cinGet] })

/-! ## `main` -/

/-- The command line of `launch_sqlcmd`. -/
def sqlcmdLine (deviceName backupDb : String) : String :=
  "cmd /c start \"\" /B sqlcmd -S (local) -E -d master -Q \"BACKUP DATABASE [" ++ backupDb ++
    "] TO VIRTUAL_DEVICE = N'" ++ deviceName ++ "'\" -b -t 300"

/-- `launch_sqlcmd`. -/
def launchSqlcmd (host : Host ω) (deviceName backupDb : String) : ProcessM ω Bool := do
  let rc ← wsystem host (sqlcmdLine deviceName backupDb)
  if rc ≠ 0 then
    act (.err ("  Failed to launch sqlcmd (rc=" ++ toString rc ++ ")\n"))
    return false
  else return true

/-- `device_name`. -/
def Host.deviceName (host : Host ω) : String := "VDI_Device_" ++ toString host.pid.toNat

/-- `backup_db`. -/
def backupDb : String := "VDIBenchmarkDB"

/-- The lines printed before connecting. -/
def banner (deviceName : String) (deviceCount : Int) (options : Options) : String :=
  "VDI C++ Wrapper\n===============\nDevice name: " ++ deviceName ++ "\nDevice count: " ++
    toString deviceCount ++ "\nSink: " ++
    (if options.useFileSink then "FileSink" else "NullSink") ++ "\nDatabase: " ++ backupDb ++
    "\nMode: " ++ (if options.autoMode then "automated (sqlcmd)" else "interactive") ++ "\n\n"

/-- The instruction shown in interactive mode. -/
def instruction (deviceName : String) : String :=
  "\n========== INSTRUCTION ==========\nIn SQL Server Management Studio, execute:\n\n" ++
    "    BACKUP DATABASE [" ++ backupDb ++ "] TO VIRTUAL_DEVICE = N'" ++ deviceName ++
    "'\n\nPress Enter after issuing the T-SQL command...\n"

/-- In automated mode `sqlcmd` is launched; the result is `auto_mode` afterwards. -/
def launchIfAutomated (host : Host ω) (deviceName : String) (autoMode : Bool) :
    ProcessM ω Bool := do
  if autoMode then
    act (.out ("  Launching: BACKUP DATABASE [" ++ backupDb ++ "] TO VIRTUAL_DEVICE = N'" ++
      deviceName ++ "'\n"))
    launchSqlcmd host deviceName backupDb
  else return false

/-- What `main` does between `connect` and `open_devices`: it has `sqlcmd` issue the statement, or
else the person in front of it. -/
def requestBackup (host : Host ω) (deviceName : String) (autoMode : Bool) : ProcessM ω Unit := do
  let autoMode ← launchIfAutomated host deviceName autoMode
  if !autoMode then
    act (.out (instruction deviceName))
    cinGet host
  else return ()

/-- The body of `main`, its command loop watched for `fuel` rounds; the result is the exit code, or
`none` while the loop is still serving. -/
def mainBody (host : Host ω) (fuel : Nat) (options : Options) : ProcessM ω (Option Int) := do
  act (.out (banner host.deviceName 1 options))
  if !(← call (connect host.env host.deviceName 1)) then
    act (.err "Failed to connect.\n")
    return some 1
  else
    requestBackup host host.deviceName options.autoMode
    if !(← call (openDevices host.env)) then
      act (.err "Failed to open devices.\n")
      call (close host.env)
      return some 1
    else
      act (.out "\nVDI device open and ready. Data transfer starting...\n\n")
      if ← call (processCommands host.env fuel) then
        call (close host.env)
        return some 0
      else return none

/-- The destructor of the member `sink_`. -/
def destroySink (host : Host ω) : ProcessM ω Unit := fun p =>
  ((), { p with machine := { p.machine with outside := { p.machine.outside with
    sink := p.machine.outside.sink.destroy host.disk } } })

/-- Leaving `main` destroys the client, and the client its sink. -/
def leaveMain (host : Host ω) : ProcessM ω Unit := do
  call (destroy host.env)
  destroySink host

/-- `main`. -/
def main (host : Host ω) (fuel : Nat) (options : Options) : ProcessM ω (Option Int) := do
  match ← mainBody host fuel options with
  | none => return none
  | some code => do
      leaveMain host
      return some code

/-- The sink `main` constructs. -/
def Host.newSink (host : Host ω) (options : Options) : ChosenSink :=
  if options.useFileSink then .inr (FileSink.new host.opened host.allocated) else .inl ()

/-- The process when `client` has just been constructed. -/
def Host.newProcess (host : Host ω) (world : ω) (injected : FaultInjector) (options : Options) :
    Process ω where
  machine := freshMachine false injected { world := world, sink := host.newSink options }
  actions := []

/-- A run of the program with the arguments `args`: its exit code, and the process afterwards. -/
def runMain (host : Host ω) (world : ω) (injected : FaultInjector) (fuel : Nat)
    (args : List String) : Option Int × Process ω :=
  (main host fuel (Options.parse {} args)).run
    (host.newProcess world injected (Options.parse {} args))

end Vdi
