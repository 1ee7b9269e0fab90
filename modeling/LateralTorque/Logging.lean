import LateralTorque.Decimal.Format
import LateralTorque.Event
import LateralTorque.FileSystem
import LateralTorque.Session

/-!
# Logging

Lines go to the terminal and to the log file of the session, each with a level of its own.  Faults
of the torque model are only reported as warnings, so a terminal that hides warnings is refused.

* `Logger.start` — opens the log file, or says why it cannot;
* `Logger.openingRecords` — the lines with which a log opens;
* `LogRecord.terminalLine`, `LogRecord.fileLine` — a line as it is written to each of the two.

A process has one logger.  The file holds at least what the terminal shows; a line that cannot be
written to it is lost without notice.
-/

set_option autoImplicit false

namespace LateralTorque

/-- Why logging could not be started: the terminal would not show warnings (`none` shows nothing at
all), the log file failed, or the process has a logger already. -/
inductive LoggerError where
  | terminalLevel (found : Option Level)
  | file (cause : FileError)
  | alreadySet

/-- The text shown for a failure. -/
def LoggerError.message : LoggerError → String
  | .terminalLevel found =>
    "Warnings must be logged, found a terminal level of `" ++ (found.map Level.name).getD "OFF"
      ++ "`"
  | .file cause => "Error initialising the log file: " ++ cause.message
  | .alreadySet =>
    "An error occured while setting up the logger: "
      ++ "attempted to set a logger after the logging system was already initialized"

/-- Where lines go, and the least important level that the terminal shows and that the file
holds. -/
structure Logger where
  terminalLevel : Level
  fileLevel : Level
  path : String

/-! ## Lines -/

/-- The mark of a level on the terminal. -/
def Level.tag : Level → String
  | .error => "ERR"
  | .warn => "WRN"
  | .info => "INF"
  | .debug => "DBG"
  | .trace => "TRC"

/-- The time of a line: seconds since the epoch of the session, ten characters wide. -/
def timeText (seconds : Float) : String :=
  let text := Decimal.fixed 6 seconds
  String.ofList (List.replicate (10 - text.length) ' ') ++ text ++ " "

/-- A line on the terminal, behind the text of its time. -/
def LogRecord.terminalLine (r : LogRecord) (time : String) : String :=
  "[" ++ time ++ r.level.tag ++ "] " ++ r.message ++ "\n"

/-- A line in the log file, behind the text of its time. -/
def LogRecord.fileLine (r : LogRecord) (time : String) : String :=
  let name := r.level.name
  "[" ++ time ++ name ++ String.ofList (List.replicate (5 - name.length) ' ') ++ "] " ++ r.target
    ++ ": " ++ r.message ++ "\n"

/-! ## Starting -/

namespace Logger

/-- The log file holds at least this level. -/
def minFileLevel : Level := .debug

/-- A logger for a terminal level. -/
def ofLevel (terminal : Level) (path : String) : Logger where
  terminalLevel := terminal
  fileLevel := if minFileLevel.rank ≤ terminal.rank then terminal else minFileLevel
  path := path

/-- Opens the log file.  `installed` says whether the process has a logger already. -/
def start {m : Type → Type} [Monad m] (files : FileSystem m) (installed : Bool)
    (terminal : Option Level) (path : String) : m (Except LoggerError Logger) := do
  match terminal with
  | none => return .error (.terminalLevel none)
  | some level =>
    if level.rank < Level.warn.rank then return .error (.terminalLevel terminal)
    else match ← files.append path "" with
      | .ok () => return if installed then .error .alreadySet else .ok (ofLevel level path)
      | .error cause => return .error (.file cause)

/-- The lines with which a log opens. -/
def openingRecords (l : Logger) (epoch : Option Epoch) : List LogRecord :=
  let line (message : String) : LogRecord := ⟨.info, "util::logger", message⟩
  [line "Logging initialised"]
    ++ epoch.toList.map (fun epoch => line ("    Session epoch: " ++ epoch.text))
    ++ [line ("    Terminal level: " ++ l.terminalLevel.title ++ ", file level: "
          ++ l.fileLevel.title),
        line ("    Log file path: " ++ Text.quoted l.path)]

end Logger

end LateralTorque
