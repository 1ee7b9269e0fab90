/-!
# Paths

A path is a text: names separated by slashes, absolute if it begins with one.  A slash at the end
asks for a directory, which the names express by a final `.`.

* `Path.join` — a path below a directory;
* `Path.names`, `Path.steps` — the names in a path, with and without those that stay where they are;
* `Path.parent?` — the directory that holds what a path leads to.

Paths are taken apart as texts.  What `..` leads to depends on the files, and is up to those who
follow a path.
-/

set_option autoImplicit false

namespace LateralTorque.Path

/-- Whether a path starts from the root of all files. -/
def isAbsolute (path : String) : Bool := path.startsWith "/"

/-- A path below a directory.  An absolute path stands for itself. -/
def join (directory path : String) : String :=
  if isAbsolute path || directory.isEmpty then path
  else if directory.endsWith "/" then directory ++ path
  else directory ++ "/" ++ path

/-- The names in a path, from the first directory on. -/
def names (path : String) : List String :=
  let all := (path.splitOn "/").filter fun name => !name.isEmpty
  if path.endsWith "/" && !all.isEmpty then all ++ ["."] else all

/-- The names in a path without those that stay where they are. -/
def steps (path : String) : List String := (names path).filter (· ≠ ".")

/-- The path that goes through some names. -/
def ofNames (absolute : Bool) (names : List String) : String :=
  (if absolute then "/" else "") ++ "/".intercalate names

/-- The directory that holds what a path leads to; none for a path without names. -/
def parent? (path : String) : Option String :=
  if (steps path).isEmpty then none
  else some (ofNames (isAbsolute path) (steps path).dropLast)

end LateralTorque.Path
