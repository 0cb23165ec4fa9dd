import RequestRouting.Session.Dispatch

/-!
# Checking rule tables

## Main definitions

* `TableSummary`, `CheckReport` — what there is to say about rule tables.
* `Session.check` — loads and compiles rule tables.
-/

set_option autoImplicit false

namespace RequestRouting

/-- What there is to say about a rule table. -/
structure TableSummary where
  path : String
  name : Option String
  description : Option String
  mode : Option DispatchMode
  /-- The number of its rules. -/
  rules : Nat

/-- Rule tables, and their rules in the order in which they are attempted. -/
structure CheckReport where
  mode : DispatchMode
  tables : List TableSummary
  rules : List Rule

/-- The summary of a table. -/
def LoadedTable.summary (loaded : LoadedTable) : TableSummary where
  path := loaded.path
  name := loaded.table.info.map TableInfo.name
  description := loaded.table.info.bind TableInfo.description
  mode := loaded.table.info.bind TableInfo.mode
  rules := loaded.table.rules.length

/-- Compiles tables. -/
def checkOver (settings : Settings) (tables : List LoadedTable) :
    Except SessionError CheckReport := do
  let dispatcher ← buildDispatcher (orderedRules tables) settings
  .ok ⟨dispatcher.mode, tables.map LoadedTable.summary, dispatcher.book.rules⟩

/-- Loads and compiles the rule tables of a session, and of more sources. -/
def Session.check {m : Type → Type} [Monad m] [FileAccess m] (session : Session)
    (extra : List String) : m (Except SessionError CheckReport) := do
  match ← session.tables extra with
  | .error e => return .error e
  | .ok tables => return checkOver (dispatchSettings session.settings tables false) tables

/-! ## Presentation -/

/-- A summary as a JSON value. -/
def TableSummary.toJson (summary : TableSummary) : Json :=
  .object [("path", .string summary.path), ("name", textOrNull summary.name),
    ("description", textOrNull summary.description),
    ("mode", textOrNull (summary.mode.map DispatchMode.name)), ("rules", .int summary.rules)]

/-- A report as a JSON value. -/
def CheckReport.toJson (report : CheckReport) : Json :=
  .object [("mode", .string report.mode.name),
    ("tables", .array (report.tables.map TableSummary.toJson)),
    ("rules", .array (report.rules.map Rule.describe))]

/-- The lines about a table. -/
def TableSummary.lines (colours : Bool) (summary : TableSummary) : List String :=
  ("  " ++ paint colours .cyan (summary.name.getD "(unnamed)") ++ " " ++ summary.path ++ " " ++
    paint colours .faint ("(" ++ toString summary.rules ++ " rules)")) ::
    (summary.description.map fun text => "    " ++ paint colours .faint text).toList

/-- The lines about a rule at a position. -/
def Rule.lines (colours : Bool) (rule : Rule) (position : Nat) : List String :=
  ("  " ++ padLeft 3 (toString position) ++ ". " ++ paint colours .green rule.name ++ " " ++
    paint colours .faint ("[priority " ++ toString rule.priority ++ "]")) ::
    ((Condition.configs rule.conditions).map (fun config => "       if   " ++ renderValue config) ++
      rule.actions.map fun action => "       then " ++ renderValue action.describe)

namespace CheckReport

/-- The lines about rules from a position on. -/
def ruleLines (colours : Bool) : List Rule → Nat → List String
  | [], _ => []
  | rule :: rest, position => rule.lines colours position ++ ruleLines colours rest (position + 1)

/-- All lines. -/
def lines (colours : Bool) (report : CheckReport) : List String :=
  paint colours .bold "Rule tables:" ::
    (report.tables.flatMap (TableSummary.lines colours) ++ "" ::
      (paint colours .bold "Rules in dispatch order" ++ " " ++
        paint colours .faint ("(mode: " ++ report.mode.name ++ "):")) ::
      (ruleLines colours report.rules 1 ++
        ["", paint colours .green "✓" ++ " " ++ toString report.rules.length ++
          " rule(s) compiled"]))

end CheckReport

instance : Presentable CheckReport where
  toJson := CheckReport.toJson
  render colours report := ofLines (report.lines colours)

end RequestRouting
