import RequestRouting.Files.Error
import RequestRouting.Files.Path

/-!
# Access to files

What a program needs from the files around it, apart from any particular way to provide it.

## Main definitions

* `FileAccess` — the operations, in a monad.
* `readText` — the contents of a file as text.
* `makeDirectories` — a directory together with those that it lies in.
-/

set_option autoImplicit false

namespace RequestRouting

/-- What a path leads to. -/
inductive FileKind where
  | directory
  | file (size : Nat)
  deriving DecidableEq

/-- The number of octets of a file; zero for a directory. -/
def FileKind.size : FileKind → Nat
  | .directory => 0
  | .file size => size

/-- What a name in a directory stands for, links not followed. -/
inductive EntryKind where
  | directory
  | file
  | other
  deriving DecidableEq

/-- Access to files in a monad.  Every operation may be refused. -/
class FileAccess (m : Type → Type) where
  /-- What a path leads to. -/
  inspect : String → m (Except FileError FileKind)
  /-- The path without links, from the root on. -/
  canonical : String → m (Except FileError String)
  /-- The names in a directory, in any order. -/
  list : String → m (Except FileError (List (String × EntryKind)))
  /-- The contents of a file. -/
  read : String → m (Except FileError ByteArray)
  /-- Puts contents into a file, which need not exist before. -/
  write : String → ByteArray → m (Except FileError Unit)
  /-- Makes a directory. -/
  makeDirectory : String → m (Except FileError Unit)
  /-- Lets nobody but the owner read and write a file. -/
  protect : String → m (Except FileError Unit)
  /-- Moves a file onto a path, replacing what is there. -/
  rename : String → String → m (Except FileError Unit)

variable {m : Type → Type} [Monad m] [FileAccess m]

/-- Whether anything is at a path. -/
def pathExists (path : String) : m Bool := do
  match ← FileAccess.inspect path with
  | .ok _ => return true
  | .error _ => return false

/-- Whether a path leads to a directory. -/
def isDirectory (path : String) : m Bool := do
  match ← FileAccess.inspect path with
  | .ok .directory => return true
  | _ => return false

/-- The text that contents spell. -/
def textOf (contents : ByteArray) : Except FileError String :=
  match String.fromUTF8? contents with
  | some text => .ok text
  | none => .error .notUtf8

/-- The contents of a file as text. -/
def readText (path : String) : m (Except FileError String) := do
  return (← FileAccess.read path).bind textOf

/-- Makes a directory and those that it lies in, at most `depth` of them. -/
def makeDirectoriesWithin : Nat → String → m (Except FileError Unit)
  | depth, path => do
    if path.isEmpty then return .ok ()
    match ← FileAccess.makeDirectory path, Path.parent? path, depth with
    | .ok (), _, _ => return .ok ()
    | .error .notFound, some parent, depth + 1 =>
      match ← makeDirectoriesWithin depth parent with
      | .error e => return .error e
      | .ok () => existing path (← FileAccess.makeDirectory path)
    | refused, _, _ => existing path refused
where
  /-- Something at the path is no obstacle if it is a directory. -/
  existing (path : String) : Except FileError Unit → m (Except FileError Unit)
    | .ok () => return .ok ()
    | .error e => do return if ← isDirectory path then .ok () else .error e

/-- Makes a directory and those that it lies in. -/
def makeDirectories (path : String) : m (Except FileError Unit) :=
  makeDirectoriesWithin path.length path

end RequestRouting
