import RequestRouting.Document.Basic

/-!
# Building TOML tables

A document is a sequence of statements: headers that open tables, and assignments to keys in the
open table.  What may still be added to a table depends on how it has come about.

## Main definitions

* `Toml.Kind`, `Toml.Item` — how a table has come about, and the parts of an unfinished document.
* `Toml.Statement` — a header or an assignment.
* `Toml.build?` — the document of a sequence of statements.
-/

set_option autoImplicit false

namespace RequestRouting

namespace Toml

/-- How a table has come about. -/
inductive Kind where
  /-- It lies on the way to a table that a header has opened. -/
  | implicit
  /-- A header has opened it. -/
  | explicit
  /-- It lies on the way to a dotted key. -/
  | dotted
  deriving DecidableEq

/-- A part of an unfinished document. -/
inductive Item where
  /-- A value to which nothing can be added. -/
  | value (node : Node)
  /-- A table. -/
  | table (kind : Kind) (fields : List (String × Item))
  /-- An array of tables that headers have opened, the latest first. -/
  | tables (reversed : List (List (String × Item)))

mutual

/-- The node of a part. -/
def Item.toNode : Item → Node
  | .value node => node
  | .table _ fields => .table (fieldsToNodes fields)
  | .tables reversed => .array (tablesToNodes reversed).reverse

/-- The nodes of fields. -/
def fieldsToNodes : List (String × Item) → List (String × Node)
  | [] => []
  | (name, item) :: rest => (name, item.toNode) :: fieldsToNodes rest

/-- The nodes of tables. -/
def tablesToNodes : List (List (String × Item)) → List Node
  | [] => []
  | fields :: rest => .table (fieldsToNodes fields) :: tablesToNodes rest

end

/-- The entries of a table under construction. -/
abbrev Entries := List (String × Item)

/-! ## Assignments -/

/-- Assigns a value to a dotted key.  The tables on the way are created, or have come about by
dotted keys. -/
def assign? (key : String) (node : Node) : List String → Entries → Option Entries
  | [], entries =>
    if Fields.has key entries then none else some (Fields.insert key (.value node) entries)
  | first :: path, entries =>
    match Fields.get? first entries with
    | none => do
      let inner ← assign? key node path []
      some (Fields.insert first (.table .dotted inner) entries)
    | some (.table .dotted inner) => do
      let inner ← assign? key node path inner
      some (Fields.insert first (.table .dotted inner) entries)
    | some (.table .implicit inner) => do
      if path.isEmpty then none
      let inner ← assign? key node path inner
      some (Fields.insert first (.table .implicit inner) entries)
    | some _ => none

/-- A dotted key and its value. -/
structure Assignment where
  /-- The parts of the key before the last one. -/
  path : List String
  key : String
  node : Node

/-- Makes assignments one after another. -/
def assignAll? (assignments : List Assignment) (entries : Entries) : Option Entries :=
  assignments.foldlM (fun acc item => assign? item.key item.node item.path acc) entries

/-- The inline table of a list of assignments. -/
def inlineTable? (assignments : List Assignment) : Option Node :=
  (assignAll? assignments []).map fun entries => .table (fieldsToNodes entries)

/-! ## Headers -/

/-- Changes the table at the end of a path of headers.  The tables on the way are created; an array
of tables stands for its latest one. -/
def modifyAt? (change : Entries → Option Entries) : List String → Entries → Option Entries
  | [], entries => change entries
  | first :: path, entries =>
    match Fields.get? first entries with
    | none => do
      let inner ← modifyAt? change path []
      some (Fields.insert first (.table .implicit inner) entries)
    | some (.table kind inner) => do
      let inner ← modifyAt? change path inner
      some (Fields.insert first (.table kind inner) entries)
    | some (.tables (latest :: earlier)) => do
      let latest ← modifyAt? change path latest
      some (Fields.insert first (.tables (latest :: earlier)) entries)
    | some _ => none

/-- A header with the assignments below it. -/
structure Section where
  /-- The parts of the header before the last one. -/
  path : List String
  key : String
  /-- Whether the header adds a table to an array. -/
  isArray : Bool
  assignments : List Assignment

/-- Opens the table of a header in the table that contains it. -/
def openTable? (part : Section) (entries : Entries) : Option Entries :=
  match Fields.get? part.key entries with
  | none => do
    let inner ← assignAll? part.assignments []
    some (Fields.insert part.key
      (if part.isArray then .tables [inner] else .table .explicit inner) entries)
  | some (.table .implicit inner) => do
    if part.isArray then none
    let inner ← assignAll? part.assignments inner
    some (Fields.insert part.key (.table .explicit inner) entries)
  | some (.tables earlier) => do
    if !part.isArray then none
    let inner ← assignAll? part.assignments []
    some (Fields.insert part.key (.tables (inner :: earlier)) entries)
  | some _ => none

/-- The document of the assignments before the first header and of the sections. -/
def build? (assignments : List Assignment) (sections : List Section) : Option Node := do
  let root ← assignAll? assignments []
  let root ← sections.foldlM (fun acc part => modifyAt? (openTable? part) part.path acc) root
  some (.table (fieldsToNodes root))

end Toml

end RequestRouting
