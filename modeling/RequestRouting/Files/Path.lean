import RequestRouting.Text.Split

/-!
# Paths

Paths are kept as they are written; this module takes them apart.

## Main definitions

* `Path.parts` — the pieces between the separators.
* `Path.same` — whether two paths have the same pieces.
* `Path.fileName?`, `Path.extension?` — the last name of a path, and what follows its last point.
* `Path.parent?` — the path of the directory that a path lies in.
* `Path.join` — a name inside of a directory.
* `Path.withExtension` — a path with another extension.
-/

set_option autoImplicit false

namespace RequestRouting

namespace Path

/-- The pieces between the separators, empty ones included. -/
def parts (path : String) : List String := (splitOnChar '/' path.toList).map String.ofList

/-- Whether a path begins at the root. -/
def isAbsolute (path : String) : Bool := path.toList.head? = some '/'

/-- Whether a path ends with a separator. -/
def endsOpen (path : String) : Bool := path.toList.getLast? = some '/'

/-- The names of a path; empty pieces and single points name nothing. -/
def names (path : String) : List String := (parts path).filter fun part => part ≠ "" && part ≠ "."

/-- Whether a path begins with a single point. -/
def startsHere (path : String) : Bool := (parts path).head? = some "."

/-- Whether two paths are written alike, up to separators and points that name nothing. -/
def same (a b : String) : Bool :=
  isAbsolute a == isAbsolute b && startsHere a == startsHere b && names a == names b

/-- The last name of a path. -/
def fileName? (path : String) : Option String :=
  (names path).getLast?.filter (· ≠ "..")

/-- A name without its extension, and the extension.  A point in front does not begin one. -/
def splitName (name : String) : List Char × Option (List Char) :=
  let reversed := name.toList.reverse
  match splitFirst? '.' reversed with
  | some (_, []) | none => (name.toList, none)
  | some (extension, stem) => (stem.reverse, some extension.reverse)

/-- What follows the last point of the last name. -/
def extension? (path : String) : Option String :=
  ((fileName? path).bind fun name => (splitName name).2).map String.ofList

/-- A reversed path without separators, and without points that name nothing, at its end. -/
def trimEnd : List Char → List Char
  | '/' :: rest => trimEnd rest
  | '.' :: '/' :: rest => trimEnd rest
  | rest => rest

/-- The directory that a path lies in; empty if it is not named. -/
def parent? (path : String) : Option String :=
  let last := trimEnd path.toList.reverse
  if last.isEmpty then none
  else match last.dropWhile (· ≠ '/') with
    | [] => some ""
    | rest =>
      let parent := trimEnd rest
      some (if parent.isEmpty then "/" else String.ofList parent.reverse)

/-- The path of a name inside of a directory. -/
def join (directory name : String) : String :=
  if directory.isEmpty || endsOpen directory then directory ++ name else directory ++ "/" ++ name

/-- A path with another extension after its last name. -/
def withExtension (path extension : String) : String :=
  match fileName? path with
  | none => path
  | some name =>
    let kept := (trimEnd path.toList.reverse).drop (name.length - (splitName name).1.length)
    String.ofList kept.reverse ++ "." ++ extension

end Path

end RequestRouting
