import LateralTorque.FileTree
import LateralTorque.Program

/-!
# A machine in memory

The program runs on a `Machine` as it does on a real one: the files are a `FileTree`, the terminal
is the list of texts written to it, and the clock stands still.  So every run of the program is a
function of the machine that it starts on, and what it leaves behind can be looked at as a value.

A cycle takes no time here, and none is ever late.
-/

set_option autoImplicit false

namespace LateralTorque

/-- What the program finds and leaves on a machine: its files, the software root if it is set, the
time as an epoch and as the text in each line of the log, and the texts written to the terminal,
latest first. -/
structure Machine where
  files : FileTree
  softwareRoot : Option String
  epoch : Epoch
  timeText : String
  terminal : List String

namespace Machine

/-- An operation on the files of a machine. -/
def onFiles {β : Type} (operation : StateM FileTree β) : StateM Machine β := fun machine =>
  let (answer, files) := operation machine.files
  (answer, { machine with files := files })

/-- The machine as the host of the program. -/
def host : Host (StateM Machine) where
  readText path := onFiles (FileTree.system.readText path)
  isDirectory path := onFiles (FileTree.system.isDirectory path)
  createDirectory path := onFiles (FileTree.system.createDirectory path)
  createFile path := onFiles (FileTree.system.createFile path)
  append path text := onFiles (FileTree.system.append path text)
  copy source target := onFiles (FileTree.system.copy source target)
  softwareRoot := fun machine => (machine.softwareRoot, machine)
  now := fun machine => (machine.epoch, machine)
  timeText := fun machine => (machine.timeText, machine)
  print text := fun machine => ((), { machine with terminal := text :: machine.terminal })
  paced _ cycle := fun machine =>
    let (answer, machine) := cycle machine
    ((answer, none), machine)

/-- Runs the program. -/
def run (machine : Machine) : Except ProgramError Unit × Machine := Program.run host machine

/-- All that was written to the terminal. -/
def terminalText (machine : Machine) : String := String.join machine.terminal.reverse

end Machine

end LateralTorque
