/-!
# Why a file operation failed

The causes that the program can meet, with the texts it shows for them.  The texts are those of the
system, its number of the error included, so that a log reads the same whether the files are in
memory or on a machine.  A cause that has no case of its own brings its text along.
-/

set_option autoImplicit false

namespace LateralTorque

/-- Why a file operation failed.  A path has no null character in it, a text is UTF-8, and only
regular files can be copied; `other` is a failure of the system that has no case of its own. -/
inductive FileError where
  | notFound
  | alreadyExists
  | notADirectory
  | isADirectory
  | nameTooLong
  | nulInPath
  | notText
  | notRegular
  | other (description : String)

/-- The text shown for a failure. -/
def FileError.message : FileError → String
  | .notFound => "No such file or directory (os error 2)"
  | .alreadyExists => "File exists (os error 17)"
  | .notADirectory => "Not a directory (os error 20)"
  | .isADirectory => "Is a directory (os error 21)"
  | .nameTooLong => "File name too long (os error 36)"
  | .nulInPath => "file name contained an unexpected NUL byte"
  | .notText => "stream did not contain valid UTF-8"
  | .notRegular => "the source path is neither a regular file nor a symlink to a regular file"
  | .other description => description

end LateralTorque
