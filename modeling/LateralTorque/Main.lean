import LateralTorque.Clock
import LateralTorque.Program
import Std.Time.DateTime

/-!
# The command line

Runs the program on the machine: the software root comes from the environment, the files are those
of the working directory and the root, and the terminal is standard output.  An early end is
reported on standard error and by the exit code.

This is the one place with effects.  The operations of the machine are wrapped as a `Host`, so that
each failure is a value with one of the causes of `FileError`; the program itself is the one that
also runs on a `Machine` in memory.  Nothing is proved of the wrapping.
-/

set_option autoImplicit false

namespace LateralTorque.Machinery

/-! ## Files -/

/-- The cause for which a file operation failed. -/
def cause (e : IO.Error) : FileError :=
  match e with
  | .noFileOrDirectory .. => .notFound
  | .alreadyExists .. => .alreadyExists
  | .inappropriateType _ 20 _ => .notADirectory
  | .inappropriateType _ 21 _ => .isADirectory
  | .resourceExhausted _ 36 _ => .nameTooLong
  | .invalidArgument _ 36 _ => .nameTooLong
  | _ => .other (toString e)

/-- Runs a file operation and keeps its failure as a value. -/
def attempt {β : Type} (path : String) (action : IO β) : IO (Except FileError β) := do
  if path.contains '\x00' then return .error .nulInPath
  try return .ok (← action) catch e => return .error (cause e)

/-- Whether there is a directory at a path. -/
def isDirectory (path : String) : IO Bool := do
  ((← IO.currentDir) / path).isDir

/-- The text of a file. -/
def readText (path : String) : IO (Except FileError String) := do
  if ← isDirectory path then return .error .isADirectory
  match ← attempt path (IO.FS.readBinFile path) with
  | .ok bytes =>
    match String.fromUTF8? bytes with
    | some text => return .ok text
    | none => return .error .notText
  | .error cause => return .error cause

/-- Copies a file. -/
def copy (source target : String) : IO (Except FileError Unit) := do
  if ← isDirectory source then return .error .notRegular
  match ← attempt source (IO.FS.readBinFile source) with
  | .ok bytes => attempt target (IO.FS.writeBinFile target bytes)
  | .error cause => return .error cause

/-- Adds a text at the end of a file. -/
def append (path text : String) : IO (Except FileError Unit) :=
  attempt path do
    let handle ← IO.FS.Handle.mk path .append
    handle.putStr text
    handle.flush

/-- The files of the machine. -/
def files : FileSystem IO where
  readText := readText
  isDirectory := isDirectory
  createDirectory path := attempt path (IO.FS.createDir path)
  createFile path := attempt path (IO.FS.writeFile path "")
  append := append
  copy := copy

/-! ## Time -/

/-- A number with zeros in front up to a width. -/
def padded (width : Nat) (n : Int) : String :=
  let digits := toString n
  String.ofList (List.replicate (width - digits.length) '0') ++ digits

/-- The present moment. -/
def now : IO Epoch := do
  let t := Std.Time.DateTime.ofTimestampWithZone (← Std.Time.Timestamp.now) .UTC
  let two (n : Int) : String := padded 2 n
  let year := padded 4 t.year
  let month := two t.month.val
  let day := two t.day.val
  let hour := two t.hour.val
  let minute := two t.minute.val
  let second := two t.second.val
  return {
    stamp := year ++ month ++ day ++ "_" ++ hour ++ minute ++ second
    text := year ++ "-" ++ month ++ "-" ++ day ++ " " ++ hour ++ ":" ++ minute ++ ":" ++ second
      ++ "." ++ padded 9 t.nanosecond.val ++ " UTC" }

/-- Seconds from one reading of the clock to another. -/
def secondsBetween (start stop : Nat) : Float :=
  (Clock.seconds? ((stop : Int) - start)).getD (0.0 / 0.0)

/-- Runs an action and waits for the rest of its period. -/
def paced {β : Type} (period : Float) (action : IO β) : IO (β × Option Float) := do
  let start ← IO.monoNanosNow
  let answer ← action
  let rest := period - secondsBetween start (← IO.monoNanosNow)
  if rest < 0.0 then return (answer, some (-rest))
  IO.sleep (rest * 1000.0).toUInt32
  return (answer, none)

/-! ## The machine -/

/-- The machine as the host of the program, with the time counted from `start`. -/
def host (start : Nat) : Host IO where
  toFileSystem := files
  softwareRoot := IO.getEnv "STEER_SW_ROOT"
  now := now
  timeText := do return timeText (secondsBetween start (← IO.monoNanosNow))
  print text := do
    let out ← IO.getStdout
    out.putStr text
    out.flush
  paced := paced

end LateralTorque.Machinery

open LateralTorque in
/-- Runs the program. -/
def main : IO UInt32 := do
  match ← Program.run (Machinery.host (← IO.monoNanosNow)) with
  | .ok () => return 0
  | .error e =>
    IO.eprintln "Error:"
    for (message, index) in e.messages.zipIdx do
      IO.eprintln s!"   {index}: {message}"
    return 1
