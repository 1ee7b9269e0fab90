import LateralTorque.FileSystem
import LateralTorque.Params.Reader

/-!
# Sessions

A run of the program keeps what it writes in a directory of its own, the session.  A process has one
session: its epoch, once set, is never set again.

* `Session.startIn` — starts the session of a process: the epoch is set, and then the directories
  are made;
* `Session.start` — the same below the software root;
* `Session.snapshot` — copies parameter files into the session.

The epoch of the process is passed in and out, and the files are any `FileSystem`, so that a start
says of each of its failures what it leaves behind.  Attempts that overlap in time are left out.
-/

set_option autoImplicit false

namespace LateralTorque

/-- The moment at which a session begins: its part of directory names, and its text in logs. -/
structure Epoch where
  stamp : String
  text : String

/-- The directories of a session, its own and that of its archives, and its log file. -/
structure Session where
  root : String
  archives : String
  logFile : String

/-- Why a session could not be started or added to: the software root is not known, a directory
could not be made, the process has its session already, or a parameter file could not be copied. -/
inductive SessionError where
  | rootNotSet
  | directory (cause : FileError)
  | alreadyStarted
  | copy (name : String) (cause : FileError)

/-- The text shown for a failure. -/
def SessionError.message : SessionError → String
  | .rootNotSet => "The software root environment variable (STEER_SW_ROOT) is not set"
  | .directory cause => "Cannot create the session directory: " ++ cause.message
  | .alreadyStarted =>
    "A session has already been started in this process "
      ++ "(the `OnceCell` has already been initialized)"
  | .copy name cause =>
    s!"Cannot copy parameter file {name} into the session: " ++ cause.message

namespace Session

variable {m : Type → Type} [Monad m]

/-- The session of a program with a name, in a directory of sessions. -/
def ofEpoch (directory name : String) (epoch : Epoch) : Session :=
  let root := Path.join directory (name ++ "_" ++ epoch.stamp)
  { root := root
    archives := Path.join root "arch"
    logFile := Path.join root (name ++ ".log") }

/-- Starts the session of a process in a directory of sessions.  `begun` is the epoch of the
process, if it is set already; the answer comes with the epoch after the start. -/
def startIn (files : FileSystem m) (begun : Option Epoch) (now : Epoch) (name directory : String) :
    m (Except SessionError Session × Option Epoch) := do
  match begun with
  | some _ => return (.error .alreadyStarted, begun)
  | none =>
    let session := ofEpoch directory name now
    match ← files.createDirectories session.archives with
    | .ok () => return (.ok session, some now)
    | .error cause => return (.error (.directory cause), some now)

/-- Starts the session of a process in a directory below the software root. -/
def start (files : FileSystem m) (root : Option String) (begun : Option Epoch) (now : Epoch)
    (name directory : String) : m (Except SessionError Session × Option Epoch) := do
  match root with
  | some root => startIn files begun now name (Path.join root directory)
  | none => return (.error .rootNotSet, begun)

/-- Copies files from one directory to another, up to the first failure. -/
def copyAll (files : FileSystem m) (source target : String) :
    List String → m (Except SessionError Unit)
  | [] => return .ok ()
  | name :: rest => do
    match ← files.copy (Path.join source name) (Path.join target name) with
    | .ok () => copyAll files source target rest
    | .error cause => return .error (.copy name cause)

/-- Copies parameter files into the session, so that a run can be repeated from its session. -/
def snapshot (files : FileSystem m) (root : Option String) (s : Session) (names : List String) :
    m (Except SessionError Unit) := do
  match root with
  | none => return .error .rootNotSet
  | some root =>
    let target := ParameterFile.directory s.root
    match ← files.createDirectories target with
    | .ok () => copyAll files (ParameterFile.directory root) target names
    | .error cause => return .error (.directory cause)

end Session

end LateralTorque
