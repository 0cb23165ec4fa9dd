import RequestRouting.Files.Access

/-!
# Trees of files

A tree of directories, files and links as a value.

## Main definitions

* `FileTree` — what lies where.
* `FileTree.follow` — the place that a path leads to, links followed.
* `FileTree.inspect?` and its companions — the operations on a tree; those that change it give a new
  tree.
-/

set_option autoImplicit false

namespace RequestRouting

/-- The names on the way from the root to a place. -/
abbrev Location := List String

/-- What lies at a place. -/
inductive FileEntry where
  | directory
  | file (contents : ByteArray) (mode : Nat)
  | link (target : String)

/-- What lies where, and the directory at which relative paths begin. -/
structure FileTree where
  entries : List (Location × FileEntry)
  workingDirectory : Location

namespace FileTree

/-- The rights of a new file: all may read, and the owner may write. -/
def newMode : Nat := 0o644

/-- The rights of a protected file: the owner may read and write. -/
def privateMode : Nat := 0o600

/-- The rights of a directory. -/
def directoryMode : Nat := 0o755

/-- What lies at a place.  The root is a directory. -/
def entry? (tree : FileTree) (place : Location) : Option FileEntry :=
  if place.isEmpty then some .directory
  else (tree.entries.find? fun entry => entry.1 = place).map Prod.snd

/-- Takes away what lies at a place. -/
def erase (tree : FileTree) (place : Location) : FileTree :=
  { tree with entries := tree.entries.filter fun entry => entry.1 ≠ place }

/-- Puts an entry at a place, replacing what was there. -/
def put (tree : FileTree) (place : Location) (entry : FileEntry) : FileTree :=
  { tree.erase place with entries := (place, entry) :: (tree.erase place).entries }

/-! ## Paths in a tree -/

/-- The most links that a path may lead over. -/
def maxLinks : Nat := 40

/-- The longest name, in octets. -/
def maxNameSize : Nat := 255

/-- The place at which a path begins, seen from a directory. -/
def start (path : String) (directory : Location) : Location :=
  if Path.isAbsolute path then [] else directory

/-- The place that parts lead to from a place on, over at most the given number of links.  Nothing
need be there, but it has to be inside of a directory.  Only with `through` a link at the end is
followed. -/
def walk (tree : FileTree) (through : Bool) (links : Nat) (here : Location) (parts : List String) :
    Except FileError Location :=
  match parts with
  | [] => .ok here
  | part :: rest =>
    match tree.entry? here with
    | some .directory =>
      if part = "" || part = "." then walk tree through links here rest
      else if part = ".." then walk tree through links here.dropLast rest
      else if maxNameSize < part.utf8ByteSize then .error .nameTooLong
      else match tree.entry? (here ++ [part]) with
        | none => if rest.isEmpty then .ok (here ++ [part]) else .error .notFound
        | some (.link target) =>
          if rest.isEmpty && !through then .ok (here ++ [part])
          else match links with
            | 0 => .error .linkLoop
            | links + 1 =>
              walk tree through links (start target here) (Path.parts target ++ rest)
        | some _ => walk tree through links (here ++ [part]) rest
    | _ => .error .notADirectory
  termination_by (links, parts.length)

/-- The place that a path leads to.  Nothing need be there.  Only with `through` a link at the end is
followed. -/
def follow (tree : FileTree) (through : Bool) (path : String) : Except FileError Location :=
  if path.isEmpty then .error .notFound
  else if path.toList.contains '\x00' then .error .nullCharacter
  else tree.walk through maxLinks (start path tree.workingDirectory) (Path.parts path)

/-- The place that a path leads to, and what lies there. -/
def locate (tree : FileTree) (path : String) : Except FileError (Location × FileEntry) := do
  let place ← tree.follow true path
  match tree.entry? place with
  | some entry => .ok (place, entry)
  | none => .error .notFound

/-! ## Looking -/

/-- What a path leads to. -/
def inspect (tree : FileTree) (path : String) : Except FileError FileKind := do
  match ← tree.locate path with
  | (_, .file contents _) => .ok (.file contents.size)
  | _ => .ok .directory

/-- The rights at a path. -/
def mode (tree : FileTree) (path : String) : Except FileError Nat := do
  match ← tree.locate path with
  | (_, .file _ mode) => .ok mode
  | _ => .ok directoryMode

/-- The path without links, from the root on. -/
def canonical (tree : FileTree) (path : String) : Except FileError String := do
  let (place, _) ← tree.locate path
  .ok ("/" ++ "/".intercalate place)

/-- What a name in a directory stands for. -/
def entryKind : FileEntry → EntryKind
  | .directory => .directory
  | .file .. => .file
  | .link _ => .other

/-- The names in a directory. -/
def list (tree : FileTree) (path : String) : Except FileError (List (String × EntryKind)) := do
  match ← tree.locate path with
  | (place, .directory) =>
    .ok (tree.entries.filterMap fun (other, entry) =>
      if other.dropLast = place then other.getLast?.map fun name => (name, entryKind entry)
      else none)
  | _ => .error .notADirectory

/-- The contents of a file. -/
def read (tree : FileTree) (path : String) : Except FileError ByteArray := do
  match ← tree.locate path with
  | (_, .file contents _) => .ok contents
  | _ => .error .isADirectory

/-! ## Changing -/

/-- Puts contents into a file. -/
def write (tree : FileTree) (path : String) (contents : ByteArray) : Except FileError FileTree := do
  let place ← tree.follow true path
  match tree.entry? place with
  | none => .ok (tree.put place (.file contents newMode))
  | some (.file _ mode) => .ok (tree.put place (.file contents mode))
  | some _ => .error .isADirectory

/-- Makes a directory. -/
def makeDirectory (tree : FileTree) (path : String) : Except FileError FileTree := do
  let place ← tree.follow false path
  match tree.entry? place with
  | none => .ok (tree.put place .directory)
  | some _ => .error .alreadyExists

/-- Makes a link. -/
def makeLink (tree : FileTree) (path target : String) : Except FileError FileTree := do
  let place ← tree.follow false path
  match tree.entry? place with
  | none => .ok (tree.put place (.link target))
  | some _ => .error .alreadyExists

/-- Makes the directories at the front of a path, one after another. -/
def makeWay (tree : FileTree) (path : String) : FileTree :=
  (List.range (Path.parts path).length).foldl (fun acc count =>
    (acc.makeDirectory ("/".intercalate ((Path.parts path).take (count + 1)))).toOption.getD acc)
    tree

/-- Lets nobody but the owner read and write a file. -/
def protect (tree : FileTree) (path : String) : Except FileError FileTree := do
  match ← tree.locate path with
  | (place, .file contents _) => .ok (tree.put place (.file contents privateMode))
  | _ => .ok tree

/-- Moves a file onto a path, replacing a file that is there. -/
def rename (tree : FileTree) (source target : String) : Except FileError FileTree := do
  let place ← tree.follow false source
  match tree.entry? place with
  | none => .error .notFound
  | some .directory => .error .isADirectory
  | some entry =>
    if Path.endsOpen target then .error .notADirectory
    else
      let goal ← tree.follow false target
      match tree.entry? goal with
      | some .directory => .error .isADirectory
      | _ => .ok ((tree.erase place).put goal entry)

/-- Takes a file or a link away. -/
def remove (tree : FileTree) (path : String) : Except FileError FileTree := do
  let place ← tree.follow false path
  match tree.entry? place with
  | none => .error .notFound
  | some .directory => .error .isADirectory
  | some _ => .ok (tree.erase place)

end FileTree

end RequestRouting
