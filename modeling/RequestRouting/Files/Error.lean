/-!
# File errors

## Main definitions

* `FileError` — what can go wrong when files are read and written.
* `FileError.message` — the wording, with the number that the system gives to the error.
-/

set_option autoImplicit false

namespace RequestRouting

/-- What can go wrong when files are read and written. -/
inductive FileError where
  /-- Nothing at the path. -/
  | notFound
  /-- No right to do so. -/
  | denied
  /-- Something is at the path already. -/
  | alreadyExists
  /-- A part of the path is no directory. -/
  | notADirectory
  /-- A directory where a file has to be. -/
  | isADirectory
  /-- The path cannot be used in this way. -/
  | invalidArgument
  /-- No room for more. -/
  | noSpace
  /-- A name that is too long. -/
  | nameTooLong
  /-- Links that lead in a circle. -/
  | linkLoop
  /-- A path with a null character. -/
  | nullCharacter
  /-- Contents that are not UTF-8. -/
  | notUtf8
  deriving DecidableEq, Inhabited

/-- The message of an error. -/
def FileError.message : FileError → String
  | .notFound => "No such file or directory (os error 2)"
  | .denied => "Permission denied (os error 13)"
  | .alreadyExists => "File exists (os error 17)"
  | .notADirectory => "Not a directory (os error 20)"
  | .isADirectory => "Is a directory (os error 21)"
  | .invalidArgument => "Invalid argument (os error 22)"
  | .noSpace => "No space left on device (os error 28)"
  | .nameTooLong => "File name too long (os error 36)"
  | .linkLoop => "Too many levels of symbolic links (os error 40)"
  | .nullCharacter => "file name contained an unexpected NUL byte"
  | .notUtf8 => "stream did not contain valid UTF-8"

end RequestRouting
