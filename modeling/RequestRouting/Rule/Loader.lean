import RequestRouting.Files.Access
import RequestRouting.Rule.Source

/-!
# Loading rule tables

Rule tables are loaded from files and from directories.  A directory stands for the TOML files in it
and in the directories below it, in the order of their names.

## Main definitions

* `LoadedTable` — a rule table and where it comes from.
* `loadTable` — the rule table of a file.
* `tablesBelow` — the rule tables of a directory.
* `loadTables` — the rule tables of several sources.
* `environmentSources` — the source that the environment names.
-/

set_option autoImplicit false

namespace RequestRouting

/-- A rule table and where it comes from. -/
structure LoadedTable where
  path : String
  table : RuleTable

/-- The size of the largest file that is read. -/
def maxTableSize : Nat := 1048576

/-- How deep below a directory rule tables are looked for. -/
def maxTableDepth : Nat := 10

/-- The extension of the files with rule tables. -/
def tableExtension : String := "toml"

/-- Runs an action on every item and joins the lists it gives, up to the first failure. -/
def collect {m : Type → Type} [Monad m] {ε α β : Type} (action : α → m (Except ε (List β))) :
    List α → m (Except ε (List β))
  | [] => return .ok []
  | item :: rest => do
    match ← action item with
    | .error e => return .error e
    | .ok found => return (← collect action rest).map (found ++ ·)

variable {m : Type → Type} [Monad m] [FileAccess m]

/-- The rule table of a file. -/
def readTable (path : String) : m (Except LoadFault RuleTable) := do
  match ← FileAccess.inspect path with
  | .error e => return .error (.file e)
  | .ok kind =>
    if maxTableSize < kind.size then return .error .tooLarge
    else match ← readText path with
      | .error e => return .error (.file e)
      | .ok text => return RuleTable.ofText text

/-- The rule table of a file, with the path. -/
def loadTable (path : String) : m (Except RuleError LoadedTable) := do
  match ← readTable path with
  | .error fault => return .error (.load path fault)
  | .ok table => return .ok ⟨path, table⟩

/-- Entries of a directory in the order of their names. -/
def sortEntries (entries : List (String × EntryKind)) : List (String × EntryKind) :=
  entries.mergeSort fun a b => a.1 ≤ b.1

/-- The rule tables below a directory that lies below `root`, down to a depth.  Links are left out. -/
def tablesWithin (root : String) : Nat → String → m (Except RuleError (List LoadedTable))
  | 0, _ => return .ok []
  | depth + 1, directory => do
    match ← FileAccess.list directory with
    | .error e => return .error (.load root (.directory directory e))
    | .ok entries =>
      collect (fun (name, kind) =>
        let path := Path.join directory name
        match kind with
        | .directory => tablesWithin root depth path
        | .file =>
          if Path.extension? path = some tableExtension then
            return (← loadTable path).map fun table => [table]
          else return .ok []
        | .other => return .ok []) (sortEntries entries)

/-- The rule tables of a directory. -/
def tablesBelow (directory : String) : m (Except RuleError (List LoadedTable)) :=
  tablesWithin directory maxTableDepth directory

/-- The rule tables of a source. -/
def loadSource (path : String) : m (Except RuleError (List LoadedTable)) := do
  if ← isDirectory path then tablesBelow path
  else return (← loadTable path).map fun table => [table]

/-- The rule tables of several sources. -/
def loadTables (sources : List String) : m (Except RuleError (List LoadedTable)) :=
  collect loadSource sources

/-- The source that the environment names, if it is a directory. -/
def environmentSources (directory : Option String) : m (List String) := do
  match directory with
  | none => return []
  | some path => return if ← isDirectory path then [path] else []

/-- The rules of tables, in the order in which they are attempted. -/
def orderedRules (tables : List LoadedTable) : List RuleSpec :=
  sortByPriority (tables.flatMap fun loaded => loaded.table.rules)

end RequestRouting
