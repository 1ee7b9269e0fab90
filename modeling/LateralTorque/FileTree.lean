import LateralTorque.FileSystem
import LateralTorque.Tuning.Store

/-!
# Files in memory

A tree of files and directories with the file operations of the program on it.  Each operation
answers with the cause for which a file system refuses it: names that are not there, a file in the
place of a directory, names and paths that are too long.

* `FileTree.locate` — where a path leads, name by name;
* `readText`, `createDirectory`, `createFile`, `append`, `copy` — the operations;
* `FileTree.system` — the operations as a `FileSystem`, with the tree as state.

The tree has room for everything, and nothing else changes it.  Permissions and links are left out,
and so is what a relative path means elsewhere than at the root of the tree.
-/

set_option autoImplicit false

namespace LateralTorque

/-- What there is at a path. -/
inductive FileEntry where
  | file (bytes : ByteArray)
  | directory

/-- A tree of files.  Its own root is a directory, reached by relative paths and by those that begin
with the text `root`.  The entries go by the names that lead to them from there. -/
structure FileTree where
  root : String
  entries : List (List String × FileEntry)

/-- Where a path leads: to the root or below it, whether there is an entry or not, or to a directory
that is not part of the tree and of which nothing is known. -/
inductive Place where
  | inside (names : List String)
  | outside

namespace FileTree

/-! ## Entries -/

/-- The tree with nothing but its root. -/
def empty (root : String) : FileTree := ⟨root, []⟩

/-- The entry at a place in the tree. -/
def lookup? (t : FileTree) (names : List String) : Option FileEntry :=
  if names.isEmpty then some .directory else t.entries.lookup names

/-- What there is at a place. -/
def atPlace? (t : FileTree) : Place → Option FileEntry
  | .inside names => t.lookup? names
  | .outside => some .directory

/-- Puts an entry at a place of the tree, over the one that there is. -/
def put (t : FileTree) (names : List String) (entry : FileEntry) : FileTree :=
  { t with entries := (names, entry) :: t.entries.filter fun (other, _) => other != names }

/-- Removes the entry at a place of the tree and all below it. -/
def remove (t : FileTree) (names : List String) : FileTree :=
  { t with entries := t.entries.filter fun (other, _) => !names.isPrefixOf other }

/-- Whether there is a file at a place of the tree. -/
def isFile (t : FileTree) (names : List String) : Bool :=
  match t.lookup? names with
  | some (.file _) => true
  | _ => false

/-- Puts an entry at a place of the tree, over all that there is and was below it, and makes the
directories above it.  Nothing can be put below a file. -/
def plant (t : FileTree) (names : List String) (entry : FileEntry) : FileTree :=
  let above := (List.range names.length).map fun count => names.take count
  if above.any t.isFile then t
  else
    let missing := above.filter fun names => (t.lookup? names).isNone
    (missing.foldl (fun t names => t.put names .directory) (t.remove names)).put names entry

/-- The files below a place of the tree, with the names that lead to them from there. -/
def filesBelow (t : FileTree) (names : List String) : List (List String × ByteArray) :=
  t.entries.filterMap fun (path, entry) =>
    match entry with
    | .file bytes =>
      if names.isPrefixOf path && names.length < path.length then
        some (path.drop names.length, bytes)
      else none
    | .directory => none

/-! ## Paths -/

/-- Length in bytes from which on a name is too long. -/
def nameLimit : Nat := 256

/-- Length in bytes from which on a whole path is too long. -/
def pathLimit : Nat := 4096

/-- Refuses what cannot be a path, whatever there is in the tree. -/
def checkPath (path : String) : Except FileError Unit :=
  if path.contains '\x00' then .error .nulInPath
  else if path.isEmpty then .error .notFound
  else if pathLimit ≤ path.utf8ByteSize then .error .nameTooLong
  else .ok ()

/-- Where a path starts and the names that it goes through from there. -/
def route (t : FileTree) (path : String) : Place × List String :=
  if path = t.root then (.inside [], [])
  else if path.startsWith (t.root ++ "/") then
    (.inside [], Path.names (path.drop (t.root.length + 1)).toString)
  else if Path.isAbsolute path then (.outside, Path.names path)
  else (.inside [], Path.names path)

/-- One name further, from a place that has to be a directory. -/
def enter (t : FileTree) (place : Place) (name : String) : Except FileError Place :=
  match t.atPlace? place with
  | none => .error .notFound
  | some (.file _) => .error .notADirectory
  | some .directory =>
    if name = "." then .ok place
    else match place with
      | .outside =>
        if name = ".." then .ok .outside
        else if nameLimit ≤ name.utf8ByteSize then .error .nameTooLong
        else .error .notFound
      | .inside names =>
        if name = ".." then .ok (if names.isEmpty then .outside else .inside names.dropLast)
        else if nameLimit ≤ name.utf8ByteSize then .error .nameTooLong
        else .ok (.inside (names ++ [name]))

/-- The place at the end of a row of names. -/
def follow (t : FileTree) (start : Place) (names : List String) : Except FileError Place :=
  names.foldlM t.enter start

/-- The place that a path leads to.  Everything before the last name has to be there. -/
def locate (t : FileTree) (path : String) : Except FileError Place := do
  checkPath path
  let (start, names) := t.route path
  t.follow start names

/-- The bytes of a file; `directory` is the answer for a directory. -/
def readBytes (t : FileTree) (path : String) (directory : FileError) :
    Except FileError ByteArray := do
  match t.atPlace? (← t.locate path) with
  | some (.file bytes) => return bytes
  | some .directory => throw directory
  | none => throw .notFound

/-! ## Operations -/

/-- The text of a file. -/
def readText (t : FileTree) (path : String) : Except FileError String := do
  match String.fromUTF8? (← t.readBytes path .isADirectory) with
  | some text => return text
  | none => throw .notText

/-- Whether there is a directory at a path. -/
def isDirectory (t : FileTree) (path : String) : Bool :=
  match (t.locate path).map t.atPlace? with
  | .ok (some .directory) => true
  | _ => false

/-- Makes a directory in one that is there. -/
def createDirectory (t : FileTree) (path : String) : Except FileError FileTree := do
  let place ← t.locate path
  match t.atPlace? place, place with
  | none, .inside names => return t.put names .directory
  | _, _ => throw .alreadyExists

/-- Refuses a path with a slash at its end as that of a directory, provided that the place which
would hold it is there. -/
def refuseSlash (t : FileTree) (path : String) : Except FileError Unit := do
  if path.endsWith "/" then
    let (start, names) := t.route path
    match t.atPlace? (← t.follow start names.dropLast.dropLast) with
    | some .directory => throw .isADirectory
    | some (.file _) => throw .notADirectory
    | none => throw .notFound

/-- Makes an empty file, or empties the one that there is. -/
def createFile (t : FileTree) (path : String) : Except FileError FileTree := do
  checkPath path
  t.refuseSlash path
  let place ← t.locate path
  match t.atPlace? place, place with
  | some .directory, _ => throw .isADirectory
  | _, .inside names => return t.put names (.file .empty)
  | _, .outside => throw .notFound

/-- Adds a text at the end of a file, which is made if it is missing. -/
def append (t : FileTree) (path text : String) : Except FileError FileTree := do
  let place ← t.locate path
  match t.atPlace? place, place with
  | some (.file bytes), .inside names => return t.put names (.file (bytes ++ text.toUTF8))
  | some .directory, _ => throw .isADirectory
  | none, .inside names => return t.put names (.file text.toUTF8)
  | _, .outside => throw .notFound

/-- Copies a file. -/
def copy (t : FileTree) (source target : String) : Except FileError FileTree := do
  let bytes ← t.readBytes source .notRegular
  let made ← t.createFile target
  match ← made.locate target with
  | .inside names => return made.put names (.file bytes)
  | .outside => throw .notFound

/-- An operation on the tree as a step of a program with the tree as state; the tree stays as it is
where the operation fails. -/
def change (operation : FileTree → Except FileError FileTree) :
    StateM FileTree (Except FileError Unit) := fun t =>
  match operation t with
  | .ok changed => (.ok (), changed)
  | .error cause => (.error cause, t)

/-- The file system on a tree. -/
def system : FileSystem (StateM FileTree) where
  readText path := fun t => (t.readText path, t)
  isDirectory path := fun t => (t.isDirectory path, t)
  createDirectory path := change fun t => t.createDirectory path
  createFile path := change fun t => t.createFile path
  append path text := change fun t => t.append path text
  copy source target := change fun t => t.copy source target

/-! ## Stores -/

/-- The store with one file per key in a directory. -/
def keyValueStore (t : FileTree) (directory : String) : KeyValueStore := fun key =>
  KeyValueStore.ofFile (t.readText (Path.join directory key))

end FileTree

end LateralTorque
