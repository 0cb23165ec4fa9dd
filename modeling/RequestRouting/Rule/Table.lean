import RequestRouting.Condition.Registry
import RequestRouting.Document.Basic
import RequestRouting.Request.Scope
import RequestRouting.Rule.Handler

/-!
# Rule tables

The rules of a configuration document, and how they become executable.

## Main definitions

* `ActionSpec`, `ConditionSpec`, `RuleSpec`, `TableInfo`, `RuleTable` — the parts of a rule table as
  they are written.
* `RuleTable.ofNode?` and its companions — reading the parts from a document.
* `RuleSpec.compile` — the executable rule.
* `RuleSpec.regexPatterns` — every regular expression that the conditions of a rule mention.
* `sortByPriority` — rules in the order in which they are attempted.
-/

set_option autoImplicit false

namespace RequestRouting

/-! ## Actions -/

/-- An action of a rule table.  Exactly one of its fields has to be set. -/
structure ActionSpec where
  handler : Option String
  bind : Option (List String)
  set : Option (Dict Json)
  log : Option String

namespace ActionSpec

/-- The names of the fields. -/
def fieldNames : List String := ["handler", "bind", "set", "log"]

/-- One name or a list of names. -/
def readNames? : Node → Option (List String)
  | .text name => some [name]
  | .array items => items.mapM Node.text?
  | _ => none

/-- Reads an action.  Unknown fields are refused. -/
def ofNode? (format : Format) (node : Node) : Option ActionSpec := do
  let fields ← node.fields? format fieldNames
  if fields.any fun field => !fieldNames.contains field.1 then none
  else
    some {
      handler := ← optionalField fields "handler" Node.text?
      bind := ← fieldOr fields "bind" none fun node => (readNames? node).map some
      set := ← optionalField fields "set" Node.dict?
      log := ← optionalField fields "log" Node.text? }

/-- The number of fields that are set. -/
def given (spec : ActionSpec) : Nat :=
  spec.handler.isSome.toNat + spec.bind.isSome.toNat + spec.set.isSome.toNat +
    spec.log.isSome.toNat

/-- The action of a rule, whose handler has to be one of those that there are. -/
def toAction (spec : ActionSpec) (rule : String) (handlers : List String) :
    Except RuleError RuleAction :=
  if spec.given ≠ 1 then .error (.invalidAction rule (.fieldCount spec.given))
  else match spec.handler, spec.bind, spec.set with
    | some name, _, _ => resolveHandler handlers name
    | none, some names, _ => .ok (.bind names)
    | none, none, some values => .ok (.set values)
    | none, none, none => .ok (.log (spec.log.getD ""))

end ActionSpec

/-! ## Conditions -/

/-- A condition of a rule table: the tag of its kind, and its options. -/
structure ConditionSpec where
  kind : String
  options : Dict Json

/-- The name of the field with the tag of a condition. -/
def ConditionSpec.kindField : String := "type"

/-- Reads a condition. -/
def ConditionSpec.ofNode? : Node → Option ConditionSpec
  | .table fields => do
    let kind ← requiredField fields kindField Node.text?
    let options ← Node.dict? (.table (Fields.erase kindField fields))
    some ⟨kind, options⟩
  | _ => none

/-! ## Rules -/

/-- A rule of a rule table. -/
structure RuleSpec where
  name : String
  description : Option String
  priority : Option Int
  conditions : List ConditionSpec
  actions : List ActionSpec

namespace RuleSpec

/-- Reads a rule. -/
def ofNode? (format : Format) (node : Node) : Option RuleSpec := do
  let fields ← node.fields? format ["name", "description", "priority", "conditions", "actions"]
  some {
    name := ← requiredField fields "name" Node.text?
    description := ← optionalField fields "description" Node.text?
    priority := ← optionalField fields "priority" Node.integer?
    conditions := ← fieldOr fields "conditions" [] (Node.list? ConditionSpec.ofNode?)
    actions := ← fieldOr fields "actions" [] (Node.list? (ActionSpec.ofNode? format)) }

/-- The weight of a rule among others; zero where none is given. -/
def weight (spec : RuleSpec) : Int := spec.priority.getD 0

/-- Builds conditions one after another. -/
def buildConditions (conditions : ConditionRegistry) :
    List ConditionSpec → Except RuleError (List Condition)
  | [] => .ok []
  | spec :: rest => do
    let condition ← conditions.construct spec.kind spec.options.entries
    .ok (condition :: (← buildConditions conditions rest))

/-- Builds actions one after another. -/
def buildActions (rule : String) (handlers : List String) :
    List ActionSpec → Except RuleError (List RuleAction)
  | [] => .ok []
  | spec :: rest => do
    let action ← spec.toAction rule handlers
    .ok (action :: (← buildActions rule handlers rest))

/-- The executable rule, built with the condition types of a registry and the names of the handlers
that there are. -/
def compile (spec : RuleSpec) (conditions : ConditionRegistry) (handlers : List String) :
    Except RuleError Rule := do
  let built ← buildConditions conditions spec.conditions
  let actions ← buildActions spec.name handlers spec.actions
  .ok ⟨spec.name, spec.description, spec.weight, built, actions⟩

/-- The executable rules of a list, in order. -/
def compileAll (conditions : ConditionRegistry) (handlers : List String) :
    List RuleSpec → Except RuleError (List Rule)
  | [] => .ok []
  | spec :: rest => do
    let rule ← spec.compile conditions handlers
    .ok (rule :: (← compileAll conditions handlers rest))

end RuleSpec

/-! ## Regular expressions of a rule -/

/-- Whether a field of a path condition holds a regular expression. -/
def isPathPattern (key : String) : Bool := key = "pattern" || UrlPathCondition.isChunkKey key

/-- The regular expressions of the options of a path condition. -/
def pathPatterns (options : Table) : List String :=
  options.filterMap fun (key, value) => if isPathPattern key then value.string? else none

/-- The regular expressions of the options of a parameter condition. -/
def paramPatterns (options : Table) : List String :=
  match Fields.get? "operator" options with
  | some (.string "regexp") => ((Fields.get? "value" options).bind Json.string?).toList
  | _ => []

/-- The tag of a table. -/
def tagOf? (table : Table) : Option String := (Fields.get? "type" table).bind Json.string?

mutual

/-- The regular expressions of a table inside a Boolean condition. -/
def nestedPatterns : Json → List String
  | .object fields =>
    match tagOf? fields with
    | none => []
    | some tag =>
      if tag = UrlPathCondition.kind then pathPatterns fields
      else if tag = UrlParamsCondition.kind then paramPatterns fields
      else if tag = Condition.boolKind then partPatterns fields
      else []
  | _ => []

/-- The regular expressions of the parts that the options of a Boolean condition list. -/
def partPatterns : List (String × Json) → List String
  | [] => []
  | (key, value) :: rest => if key = "conditions" then listedPatterns value else partPatterns rest

/-- The regular expressions of the items of a value. -/
def listedPatterns : Json → List String
  | .array items => itemPatterns items
  | _ => []

/-- The regular expressions of values. -/
def itemPatterns : List Json → List String
  | [] => []
  | item :: rest => nestedPatterns item ++ itemPatterns rest

end

/-- The regular expressions of a condition. -/
def ConditionSpec.regexPatterns (spec : ConditionSpec) : List String :=
  if spec.kind = UrlPathCondition.kind then pathPatterns spec.options.entries
  else if spec.kind = UrlParamsCondition.kind then paramPatterns spec.options.entries
  else if spec.kind = Condition.boolKind then partPatterns spec.options.entries
  else []

/-- The regular expressions of the conditions of a rule, nested ones included. -/
def RuleSpec.regexPatterns (spec : RuleSpec) : List String :=
  spec.conditions.flatMap ConditionSpec.regexPatterns

/-! ## Tables -/

/-- What a rule table says about itself. -/
structure TableInfo where
  name : String
  description : Option String
  version : Option String
  /-- The mode in which the table wants to be dispatched. -/
  mode : Option DispatchMode

/-- Reads a dispatch mode. -/
def DispatchMode.ofNode? (format : Format) (node : Node) : Option DispatchMode :=
  (node.variant? format).bind DispatchMode.ofName?

/-- Reads what a rule table says about itself. -/
def TableInfo.ofNode? (format : Format) (node : Node) : Option TableInfo := do
  let fields ← node.fields? format ["name", "description", "version", "mode"]
  some {
    name := ← requiredField fields "name" Node.text?
    description := ← optionalField fields "description" Node.text?
    version := ← optionalField fields "version" Node.text?
    mode := ← optionalField fields "mode" (DispatchMode.ofNode? format) }

/-- A rule table. -/
structure RuleTable where
  info : Option TableInfo
  rules : List RuleSpec

/-- Reads a rule table. -/
def RuleTable.ofNode? (format : Format) (node : Node) : Option RuleTable := do
  let fields ← node.fields? format ["table", "rules"]
  some {
    info := ← optionalField fields "table" (TableInfo.ofNode? format)
    rules := ← fieldOr fields "rules" [] (Node.list? (RuleSpec.ofNode? format)) }

/-! ## Parts as JSON values -/

/-- A text that may be absent, as a JSON value. -/
def textOrNull (text : Option String) : Json := Json.ofOption (text.map .string)

/-- An action as a JSON value. -/
def ActionSpec.toJson (spec : ActionSpec) : Json :=
  Json.ofFields [("handler", textOrNull spec.handler),
    ("bind", Json.ofOption (spec.bind.map Json.ofStrings)),
    ("set", Json.ofOption (spec.set.map Json.ofDict)), ("log", textOrNull spec.log)]

/-- A condition as a JSON value. -/
def ConditionSpec.toJson (spec : ConditionSpec) : Json :=
  Json.ofDict (spec.options.insert kindField (.string spec.kind))

/-- A rule as a JSON value. -/
def RuleSpec.toJson (spec : RuleSpec) : Json :=
  Json.ofFields [("name", .string spec.name), ("description", textOrNull spec.description),
    ("priority", Json.ofOption (spec.priority.map Json.int)),
    ("conditions", .array (spec.conditions.map ConditionSpec.toJson)),
    ("actions", .array (spec.actions.map ActionSpec.toJson))]

/-- What a rule table says about itself, as a JSON value. -/
def TableInfo.toJson (info : TableInfo) : Json :=
  Json.ofFields [("name", .string info.name), ("description", textOrNull info.description),
    ("version", textOrNull info.version),
    ("mode", textOrNull (info.mode.map DispatchMode.name))]

/-- A rule table as a JSON value. -/
def RuleTable.toJson (table : RuleTable) : Json :=
  Json.ofFields [("table", Json.ofOption (table.info.map TableInfo.toJson)),
    ("rules", .array (table.rules.map RuleSpec.toJson))]

/-! ## Order -/

/-- Rules by decreasing weight; rules of the same weight keep their order. -/
def sortByPriority (rules : List RuleSpec) : List RuleSpec :=
  rules.mergeSort fun a b => b.weight ≤ a.weight

end RequestRouting
