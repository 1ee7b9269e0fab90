import LateralTorque.FileError
import LateralTorque.Path

/-!
# What the program asks of a file system

Every access to files goes through the operations of a `FileSystem`, so the program runs on files in
memory as well as on those of a machine.

* `FileSystem` — the operations, in any monad;
* `FileSystem.createDirectories` — a directory and those above it, made up of them.

Nothing is assumed of the operations: each may fail for any cause at any time, and what one of them
does to the files is up to the file system.  Permissions, links and locks are left out.
-/

set_option autoImplicit false

namespace LateralTorque

/-- The operations on files.  A directory is made in one that is there; making a file empties the
one that is there; and what is appended to a missing file makes it. -/
structure FileSystem (m : Type → Type) where
  readText (path : String) : m (Except FileError String)
  isDirectory (path : String) : m Bool
  createDirectory (path : String) : m (Except FileError Unit)
  createFile (path : String) : m (Except FileError Unit)
  append (path text : String) : m (Except FileError Unit)
  copy (source target : String) : m (Except FileError Unit)

namespace FileSystem

variable {m : Type → Type} [Monad m]

/-- Makes a directory, or finds that it is there. -/
def ensureDirectory (files : FileSystem m) (path : String) : m (Except FileError Unit) := do
  match ← files.createDirectory path with
  | .ok () => return .ok ()
  | .error cause => return if ← files.isDirectory path then .ok () else .error cause

/-- Makes the directory that names lead to, given last name first, and those before it where they
are missing. -/
def createReversed (files : FileSystem m) (absolute : Bool) :
    (reversed : List String) → m (Except FileError Unit)
  | [] => return .ok ()
  | name :: above => do
    let path := Path.ofNames absolute (name :: above).reverse
    match ← files.ensureDirectory path with
    | .error .notFound =>
      match ← createReversed files absolute above with
      | .ok () => files.ensureDirectory path
      | .error cause => return .error cause
    | answer => return answer

/-- Makes a directory and those above it, where they are missing. -/
def createDirectories (files : FileSystem m) (path : String) : m (Except FileError Unit) :=
  createReversed files (Path.isAbsolute path) (Path.steps path).reverse

end FileSystem

end LateralTorque
