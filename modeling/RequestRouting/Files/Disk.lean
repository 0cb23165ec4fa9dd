import RequestRouting.Files.Tree

/-!
# Disks

A tree of files that may refuse operations, and access to it.

## Main definitions

* `FileOperation` — the operations that may be refused.
* `Disk` — a tree, and what is refused.
* `Disk.plain` — a disk that refuses nothing.
-/

set_option autoImplicit false

namespace RequestRouting

/-- The operations on files. -/
inductive FileOperation where
  | inspect
  | canonical
  | list
  | read
  | write
  | makeDirectory
  | protect
  | rename
  deriving DecidableEq

/-- A tree of files that may refuse operations. -/
structure Disk where
  tree : FileTree
  /-- What is refused at a path, whatever the tree says: for want of rights or of room. -/
  refusal : FileOperation → String → Option FileError

namespace Disk

/-- A disk that refuses nothing. -/
def plain (tree : FileTree) : Disk := ⟨tree, fun _ _ => none⟩

/-- Looks at the tree, unless that is refused. -/
def look {α : Type} (operation : FileOperation) (path : String)
    (see : FileTree → Except FileError α) : StateM Disk (Except FileError α) := fun disk =>
  match disk.refusal operation path with
  | some e => (.error e, disk)
  | none => (see disk.tree, disk)

/-- Changes the tree, unless that is refused or fails. -/
def change (operation : FileOperation) (path : String)
    (edit : FileTree → Except FileError FileTree) : StateM Disk (Except FileError Unit) :=
  fun disk =>
    match disk.refusal operation path with
    | some e => (.error e, disk)
    | none =>
      match edit disk.tree with
      | .ok tree => (.ok (), { disk with tree := tree })
      | .error e => (.error e, disk)

instance : FileAccess (StateM Disk) where
  inspect path := look .inspect path fun tree => tree.inspect path
  canonical path := look .canonical path fun tree => tree.canonical path
  list path := look .list path fun tree => tree.list path
  read path := look .read path fun tree => tree.read path
  write path contents := change .write path fun tree => tree.write path contents
  makeDirectory path := change .makeDirectory path fun tree => tree.makeDirectory path
  protect path := change .protect path fun tree => tree.protect path
  rename source target := change .rename source fun tree => tree.rename source target

end Disk

end RequestRouting
