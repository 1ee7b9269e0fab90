import LateralTorque.Archive
import LateralTorque.ClosedLoop
import LateralTorque.Dump
import LateralTorque.Logging
import LateralTorque.Network.Reader
import LateralTorque.Scenario.Reader
import LateralTorque.Session

/-!
# The program

The program hosts the controller in a closed loop with the simulated plant: it starts a session,
loads the parameters, sets the controller up, runs the cycles of the scenario and archives their
records.

* `Host` — what the program asks of the machine that it runs on;
* `ProgramError` — why it ends early, with the texts that are shown for it;
* `Program.run` — the program, for any host.

All that the program does to the outside goes through its host, so that it can be run on a machine
in memory.  It computes in double precision.  Where the tuning comes from files, they are read again
before each cycle that looks at them.
-/

set_option autoImplicit false

namespace LateralTorque

/-- What the program asks of the machine that it runs on: its files, the directory with the
parameters and the sessions, if it is known, the present moment and the text of it in lines of the
log, and the terminal. -/
structure Host (m : Type → Type) extends FileSystem m where
  softwareRoot : m (Option String)
  now : m Epoch
  timeText : m String
  print (text : String) : m Unit
  /-- Runs a cycle and waits until it has taken `period` seconds; where it takes longer, answers by
  how many seconds. -/
  paced {β : Type} (period : Float) (cycle : m β) : m (β × Option Float)

/-- Why the program ends early.  A neural model is named by the path of its file. -/
inductive ProgramError where
  | session (cause : SessionError)
  | logging (cause : LoggerError)
  | scenario (cause : LoadError)
  | params (cause : LoadError)
  | network (path : String) (cause : ModelError)
  | controller (cause : SetupError Float)
  | archive (cause : ArchiveError)

/-- The texts shown for an early end, from what failed down to its cause. -/
def ProgramError.messages : ProgramError → List String
  | .session cause => ["Failed to create the session", cause.message]
  | .logging cause => ["Failed to initialise logging", cause.message]
  | .scenario cause => ["Could not load sim params", cause.message]
  | .params cause => ["Could not load torque control params", cause.message]
  | .network path cause =>
    ["Failed to load the neural model from " ++ path, (SetupError.model cause).message]
  | .controller cause => ["Failed to initialise TorqueCtrl", cause.message]
  | .archive cause => ["Failed to initialise the TorqueCtrl archive", cause.message]

namespace Program

variable {m : Type → Type} [Monad m]

/-! ## Names -/

/-- The name of the program in its session. -/
def name : String := "steer_exec"

/-- The directory of sessions below the software root. -/
def sessionsDirectory : String := "sessions"

/-- The parameter file of the scenario. -/
def scenarioFile : String := "sim.toml"

/-- The parameter file of the controller. -/
def controllerFile : String := "torque_ctrl.toml"

/-! ## Lines of the log -/

/-- Writes a line where the logger wants it. -/
def log (host : Host m) (logger : Logger) (r : LogRecord) : m Unit := do
  let time ← host.timeText
  if r.level.rank ≤ logger.terminalLevel.rank then host.print (r.terminalLine time)
  if r.level.rank ≤ logger.fileLevel.rank then
    let _ ← host.append logger.path (r.fileLine time)

/-- Writes several lines. -/
def logAll (host : Host m) (logger : Logger) : List LogRecord → m Unit
  | [] => return
  | r :: rest => do
    log host logger r
    logAll host logger rest

/-- Writes a line of the program itself. -/
def say (host : Host m) (logger : Logger) (level : Level) (message : String) : m Unit :=
  log host logger ⟨level, name, message⟩

/-! ## Setting up -/

/-- An action that does not end the program. -/
def perform {β : Type} (action : m β) : ExceptT ProgramError m β := ExceptT.lift action

/-- Turns a failure into an early end of the program. -/
def orEnd {β ε : Type} (wrap : ε → ProgramError) (action : m (Except ε β)) :
    ExceptT ProgramError m β := ExceptT.mk do
  return (← action).mapError wrap

/-- The torque model that a scenario asks for. -/
def loadTorqueModel (host : Host m) (logger : Logger) (scenario : Scenario Float) :
    ExceptT ProgramError m (TorqueModel Float) := do
  match scenario.networkFile with
  | none => return .analytic .linear
  | some path =>
    let network ← orEnd (.network path) (Network.load host.toFileSystem path)
    perform (say host logger .info ("Neural torque model loaded from " ++ path))
    return .neural (Network.toNeuralModel network) .linear

/-- Where the tuning comes from in a scenario.  The store is read anew when it is looked at. -/
def tuningSource (host : Host m) (logger : Logger) (scenario : Scenario Float) :
    m (TuningSource Float) := do
  match scenario.tuningDirectory with
  | none => return .fixed
  | some directory =>
    say host logger .info ("Tuning overrides read from " ++ directory)
    return .keyed (KeyValueStore.ofReads [])

/-! ## Cycles -/

/-- What one cycle hands to the next. -/
structure Run where
  loop : ClosedLoop Float
  archive : Option Archive

/-- The reads of the keys in a directory. -/
def readKeys (host : Host m) (directory : String) :
    List String → m (List (String × Except FileError (Option String)))
  | [] => return []
  | key :: rest => do
    let text ← host.readText (Path.join directory key)
    return (key, KeyValueStore.ofFile text) :: (← readKeys host directory rest)

/-- Reads the tuning store, if the next cycle looks at it. -/
def refreshStore (host : Host m) (loop : ClosedLoop Float) : m (ClosedLoop Float) := do
  match loop.plant.scenario.tuningDirectory with
  | none => return loop
  | some directory =>
    if (loop.controller.tick + 1) % Tuning.refreshPeriod = 0 then
      let reads ← readKeys host directory Tuning.keys
      return { loop with
        controller := loop.controller.withTuningSource (.keyed (KeyValueStore.ofReads reads)) }
    else return loop

/-- Number of cycles of a scenario at a rate. -/
def cycleCount (scenario : Scenario Float) (rate : Float) : Nat :=
  (scenario.duration * rate).round.toUInt64.toNat

/-- Number of cycles from one line about the loop to the next. -/
def reportPeriod (rate : Float) : Nat := (Scalar.maxNum rate.round 1.0).toUInt64.toNat

/-- The line about a cycle that began at a time, from the loop after it. -/
def cycleLine (time : Float) (loop : ClosedLoop Float) : String :=
  let fixed := Decimal.fixed 3
  let report := loop.controller.report
  "t = " ++ Decimal.fixed 2 time ++ " s: desired " ++ fixed report.desiredAccel
    ++ " m/s^2, actual " ++ fixed loop.plant.lateralAccel ++ " m/s^2, torque "
    ++ fixed loop.controller.output ++ ", delay " ++ fixed report.actuatorDelay ++ " s"

/-- One cycle: loop, log and archive. -/
def cycle (host : Host m) (logger : Logger) (run : Run) : m Run := do
  let before ← refreshStore host run.loop
  let (loop, events) := before.step
  logAll host logger (events.map Event.toLogRecord)
  if before.cycle % reportPeriod loop.controller.params.rate = 0 then
    say host logger .info (cycleLine before.time loop)
  let (written, archive) ←
    Archive.write host.toFileSystem Diagnostics.columns run.archive loop.controller.report
  match written with
  | .ok () => pure ()
  | .error cause =>
    say host logger .warn ("Could not write the TorqueCtrl archive: " ++ cause.message)
  return ⟨loop, archive⟩

/-- One cycle, paced by the clock if the scenario asks for it. -/
def pacedCycle (host : Host m) (logger : Logger) (run : Run) : m Run := do
  if run.loop.plant.scenario.realtime then
    let period := run.loop.controller.params.period
    let (after, overrun) ← host.paced period (cycle host logger run)
    match overrun with
    | some seconds =>
      say host logger .warn ("Cycle overran by " ++ Decimal.fixed 6 seconds ++ " s")
    | none => pure ()
    return after
  else cycle host logger run

/-- A number of cycles. -/
def cycles (host : Host m) (logger : Logger) : (count : Nat) → Run → m Unit
  | 0, _ => return
  | count + 1, run => do
    let after ← pacedCycle host logger run
    cycles host logger count after

/-! ## The program -/

/-- The program after its session and its log have started. -/
def runInSession (host : Host m) (root : Option String) (session : Session) (logger : Logger) :
    ExceptT ProgramError m Unit := do
  let say (level : Level) (message : String) : ExceptT ProgramError m Unit :=
    perform (Program.say host logger level message)
  let files := host.toFileSystem
  say .info "Steering Torque Control Executable\n"
  say .info ("Session directory: " ++ Text.quoted session.root ++ "\n")
  let scenario ← orEnd .scenario (ParameterFile.load files root Scenario.read? scenarioFile)
  let params ← orEnd .params (ParameterFile.load files root Params.read? controllerFile)
  say .info "Exec parameters loaded"
  match ← perform (session.snapshot files root [scenarioFile, controllerFile]) with
  | .ok () => pure ()
  | .error cause =>
    say .warn ("Parameters not copied into the session: " ++ cause.message)
  let torqueModel ← loadTorqueModel host logger scenario
  let source ← perform (tuningSource host logger scenario)
  let controller ← orEnd .controller (pure (Controller.create params
    { curvatureModel := scenario.vehicle.curvature
      torqueModel := torqueModel
      lowSpeedLaw := LowSpeedTable.standard.law
      tuningSource := source }))
  let archive ← orEnd .archive
    (Archive.createBelow files session.archives Diagnostics.archivePath)
  say .info ("TorqueCtrl init complete: " ++ Dump.controller controller ++ "\n")
  let count := cycleCount scenario params.rate
  say .info s!"Begining main loop of {count} cycles\n"
  perform (cycles host logger count ⟨ClosedLoop.initial controller scenario, some archive⟩)
  say .info "End of execution"

/-- The whole program. -/
def run (host : Host m) : m (Except ProgramError Unit) := ExceptT.run do
  let root ← perform host.softwareRoot
  let now ← perform host.now
  let (started, epoch) ←
    perform (Session.start host.toFileSystem root none now name sessionsDirectory)
  let session ← orEnd .session (pure started)
  let logger ← orEnd .logging
    (Logger.start host.toFileSystem false (some .info) session.logFile)
  perform (logAll host logger (logger.openingRecords epoch))
  runInSession host root session logger

end Program

end LateralTorque
