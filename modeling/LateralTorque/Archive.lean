import LateralTorque.Csv
import LateralTorque.Diagnostics
import LateralTorque.FileSystem
import LateralTorque.Path

/-!
# Archives

An archive is a file of comma separated values to which records are added one by one.  The line of
column names comes with the first record, and a file that was there before is emptied.

* `Archive.create`, `Archive.createBelow` — an empty archive, the latter with the directories that
  lead to it;
* `Archive.write` — adds a record;
* `Diagnostics.columns` — the columns of the records of a controller.

An archive is a value that goes from one write to the next.  A write that fails is reported, and
counts as one after which the column names are there.
-/

set_option autoImplicit false

namespace LateralTorque

/-- Why an archive could not be made or added to: its file failed, or there is no archive yet. -/
inductive ArchiveError where
  | file (cause : FileError)
  | notInitialised

/-- The text shown for a failure. -/
def ArchiveError.message : ArchiveError → String
  | .file cause => "Cannot create the archive file: " ++ cause.message
  | .notInitialised => "The archiver has not been initialised"

/-- An archive, and whether it has its line of column names already. -/
structure Archive where
  path : String
  hasHeader : Bool

namespace Archive

variable {m : Type → Type} [Monad m]

/-- Makes an empty archive at a path. -/
def create (files : FileSystem m) (path : String) : m (Except ArchiveError Archive) := do
  match ← files.createFile path with
  | .ok () => return .ok ⟨path, false⟩
  | .error cause => return .error (.file cause)

/-- Makes an empty archive at a path below a directory, and the directories that lead to it. -/
def createBelow (files : FileSystem m) (directory path : String) :
    m (Except ArchiveError Archive) := do
  let path := Path.join directory path
  match Path.parent? path with
  | none => create files path
  | some parent =>
    match ← files.createDirectories parent with
    | .ok () => create files path
    | .error cause => return .error (.file cause)

/-- The text that a record adds. -/
def addition {ρ : Type} (a : Archive) (columns : List (Csv.Column ρ)) (record : ρ) : String :=
  (if a.hasHeader then "" else Csv.header columns) ++ Csv.row columns record

/-- Adds a record to an archive, if there is one. -/
def write {ρ : Type} (files : FileSystem m) (columns : List (Csv.Column ρ)) (a : Option Archive)
    (record : ρ) : m (Except ArchiveError Unit × Option Archive) := do
  match a with
  | none => return (.error .notInitialised, none)
  | some a =>
    let written := some { a with hasHeader := true }
    match ← files.append a.path (a.addition columns record) with
    | .ok () => return (.ok (), written)
    | .error cause => return (.error (.file cause), written)

end Archive

/-- The columns of the archived records of the controller's cycles.  The feature vectors are left
out. -/
def Diagnostics.columns : List (Csv.Column (Diagnostics Float)) :=
  [⟨"tick", fun d => toString d.tick⟩,
    ⟨"active", fun d => Csv.flag d.active⟩,
    ⟨"p", fun d => Csv.number d.p⟩,
    ⟨"i", fun d => Csv.number d.i⟩,
    ⟨"d", fun d => Csv.number d.d⟩,
    ⟨"f", fun d => Csv.number d.f⟩,
    ⟨"error", fun d => Csv.number d.error⟩,
    ⟨"output", fun d => Csv.number d.output⟩,
    ⟨"actual_lateral_accel", fun d => Csv.number d.actualAccel⟩,
    ⟨"desired_lateral_accel", fun d => Csv.number d.desiredAccel⟩,
    ⟨"desired_lateral_jerk", fun d => Csv.number d.desiredJerk⟩,
    ⟨"lookahead_lateral_jerk", fun d => Csv.number d.lookaheadJerk⟩,
    ⟨"friction_input", fun d => Csv.number d.frictionInput⟩,
    ⟨"saturated", fun d => Csv.flag d.saturated⟩,
    ⟨"saturation_timeout", fun d => Csv.flag d.saturationTimeout⟩,
    ⟨"low_speed_factor", fun d => Csv.number d.lowSpeedFactor⟩,
    ⟨"lat_accel_factor", fun d => Csv.number d.accelFactor⟩,
    ⟨"lat_accel_offset", fun d => Csv.number d.accelOffset⟩,
    ⟨"friction", fun d => Csv.number d.friction⟩,
    ⟨"actuator_delay_s", fun d => Csv.number d.actuatorDelay⟩,
    ⟨"used_nn", fun d => Csv.flag d.usedNeural⟩,
    ⟨"model_fault", fun d => Csv.flag d.modelFault⟩]

/-- Where the records of the controller are archived, below the directory of archives. -/
def Diagnostics.archivePath : String := "torque_ctrl/diagnostics.csv"

end LateralTorque
