import RequestRouting.Condition.Basic

/-!
# Building conditions from tables

A registry maps the type tags of tables to constructors.  The constructor of Boolean conditions
builds its parts through the registry again.

## Main definitions

* `ConditionFactory` — a constructor, given the way to build the tables inside its options.
* `ConditionRegistry` — constructors by their tags; `ConditionRegistry.builtins` has the five kinds
  of the library.
* `ConditionRegistry.constructTable` — the condition of a table.
* `nestingDepth` — how deep Boolean conditions are nested in a table.

## Implementation notes

A table is built with as much fuel as it has levels, and every level uses up one; so there is always
enough for the tables inside of it.
-/

set_option autoImplicit false

namespace RequestRouting

/-- The options of a table. -/
abbrev Table := List (String × Json)

/-- A constructor of conditions.  The first argument builds the condition of a table inside the
options. -/
abbrev ConditionFactory := (Table → Except RuleError Condition) → Table → Except RuleError Condition

/-- Constructors by their tags. -/
structure ConditionRegistry where
  factories : Dict ConditionFactory

mutual

/-- The number of levels of a value. -/
def jsonDepth : Json → Nat
  | .array items => 1 + itemsDepth items
  | .object fields => 1 + fieldsDepth fields
  | _ => 0

/-- The greatest number of levels of the items of an array. -/
def itemsDepth : List Json → Nat
  | [] => 0
  | item :: rest => max (jsonDepth item) (itemsDepth rest)

/-- The greatest number of levels of the fields of an object. -/
def fieldsDepth : List (String × Json) → Nat
  | [] => 0
  | (_, value) :: rest => max (jsonDepth value) (fieldsDepth rest)

end

/-! ## Boolean conditions -/

/-- Whether a table has the type of Boolean conditions. -/
def isBoolTable (table : Table) : Bool :=
  match Fields.get? "type" table with
  | some (.string tag) => tag = Condition.boolKind
  | _ => false

mutual

/-- How deep Boolean conditions are nested in a value, if it is the table of one; zero if not. -/
def boolDepth : Json → Nat
  | .object fields => if isBoolTable fields then 1 + partsDepth fields else 0
  | _ => 0

/-- The greatest depth among the parts that a table lists. -/
def partsDepth : List (String × Json) → Nat
  | [] => 0
  | (key, value) :: rest => if key = "conditions" then listedDepth value else partsDepth rest

/-- The greatest depth among the items of a value. -/
def listedDepth : Json → Nat
  | .array items => greatestDepth items
  | _ => 0

/-- The greatest depth among values. -/
def greatestDepth : List Json → Nat
  | [] => 0
  | item :: rest => max (boolDepth item) (greatestDepth rest)

end

/-- How deep the Boolean condition of a table of options is nested. -/
def nestingDepth (options : Table) : Nat := 1 + partsDepth options

/-- The operator with a name. -/
def readBoolOperator : Option String → OptionM BoolOperator
  | none => return .and
  | some text =>
    if text = "and" then return .and
    else if text = "or" then return .or
    else if text = "not" then return .not
    else Options.invalid (.unknownBoolOperator text)

/-- The tables of the parts. -/
def readParts : Option Json → OptionM (List Json)
  | none => Options.invalid .noConditions
  | some (.array []) => Options.invalid .noConditions
  | some (.array items) => return items
  | some other => Options.invalid (.conditionsNotAnArray other)

/-- Builds the parts one after another. -/
def buildParts (construct : Table → Except RuleError Condition) :
    List Json → OptionM (List Condition)
  | [] => return []
  | .object table :: rest =>
    match construct table with
    | .error e => throw e
    | .ok condition => return condition :: (← buildParts construct rest)
  | other :: _ => Options.invalid (.conditionNotATable other)

/-- Takes the options of a Boolean condition. -/
def boolBuilder (construct : Table → Except RuleError Condition) (depth : Nat) :
    OptionM Condition := do
  if depth > maxConditionDepth then Options.invalid (.tooDeep depth)
  let operator ← readBoolOperator (← Options.takeString "operator")
  let parts ← readParts (← Options.take "conditions")
  let conditions ← buildParts construct parts
  Options.finish
  return .bool operator conditions

/-- The Boolean condition of a table of options. -/
def boolFactory : ConditionFactory := fun construct options =>
  Options.build Condition.boolKind options (boolBuilder construct (nestingDepth options))

/-! ## Registries -/

namespace ConditionRegistry

/-- The registry without constructors. -/
def empty : ConditionRegistry := ⟨.empty⟩

/-- The registry of the kinds of the library. -/
def builtins : ConditionRegistry :=
  ⟨.ofList [
    (UrlPathCondition.kind, fun _ options => (UrlPathCondition.ofOptions options).map .urlPath),
    (UrlParamsCondition.kind, fun _ options =>
      (UrlParamsCondition.ofOptions options).map .urlParams),
    (AuthenticationCondition.kind, fun _ options =>
      (AuthenticationCondition.ofOptions options).map .authentication),
    (Condition.boolKind, boolFactory),
    (RequestCondition.kind, fun _ options => (RequestCondition.ofOptions options).map .request)]⟩

/-- Whether a character may occur in a tag. -/
def isTagChar (c : Char) : Bool := c.isLower || c.isDigit || c == '_' || c == '.' || c == '-'

/-- Checks the form of a tag. -/
def validateTag (tag : String) : Except RuleError Unit :=
  if tag = "" then .error (.registry .emptyTag)
  else match tag.toList.find? fun c => !isTagChar c with
    | some c => .error (.registry (.badTagCharacter tag c))
    | none => .ok ()

/-- Adds a constructor under a new tag. -/
def register (registry : ConditionRegistry) (tag : String) (factory : ConditionFactory) :
    Except RuleError ConditionRegistry := do
  validateTag tag
  if registry.factories.has tag then .error (.registry (.duplicateTag tag))
  else .ok ⟨registry.factories.insert tag factory⟩

/-- Whether a tag has a constructor. -/
def contains (registry : ConditionRegistry) (tag : String) : Bool := registry.factories.has tag

/-- The tags, in increasing order. -/
def tags (registry : ConditionRegistry) : List String := registry.factories.names

/-- The tag of a table. -/
def tagOf (table : Table) : Except RuleError String :=
  match Fields.get? "type" table with
  | some (.string tag) => .ok tag
  | some other => .error (.invalidCondition "?" (.typeNotAString other))
  | none => .error (.invalidCondition "?" .noType)

/-- Builds the condition of a tag and options. -/
def constructWith (registry : ConditionRegistry) (inner : Table → Except RuleError Condition)
    (tag : String) (options : Table) : Except RuleError Condition :=
  match registry.factories.get? tag with
  | some factory => factory inner options
  | none => .error (.unknownConditionType tag)

/-- Builds the condition of a table with the given fuel. -/
def constructLevels (registry : ConditionRegistry) : Nat → Table → Except RuleError Condition
  | 0, table => do
    let tag ← tagOf table
    .error (.unknownConditionType tag)
  | fuel + 1, table => do
    let tag ← tagOf table
    registry.constructWith (registry.constructLevels fuel) tag (Fields.erase "type" table)

/-- Builds the condition of a table. -/
def constructTable (registry : ConditionRegistry) (table : Table) : Except RuleError Condition :=
  registry.constructLevels (fieldsDepth table + 1) table

/-- Builds the condition of a tag and options. -/
def construct (registry : ConditionRegistry) (tag : String) (options : Table) :
    Except RuleError Condition :=
  registry.constructWith (registry.constructLevels (fieldsDepth options)) tag options

end ConditionRegistry

end RequestRouting
