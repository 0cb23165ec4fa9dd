import RequestRouting.Rule.Error

/-!
# Option tables of conditions

Conditions are built from tables of options.  A builder takes the options that it knows, one after
another, and what is left at the end is an error; so no misspelt option goes unnoticed.

## Main definitions

* `Options` — the kind of the condition and the options that have not been taken.
* `OptionM` — computations that take options and may fail; what they took stays taken.
* `Options.take`, `Options.takeString`, `Options.requireString`, `Options.takeStrings`,
  `Options.takeMatching`, `Options.finish` — the steps.
-/

set_option autoImplicit false

namespace RequestRouting

/-- The options of a condition that have not been taken yet. -/
structure Options where
  /-- The kind of the condition, for messages. -/
  kind : String
  /-- The options, in the order of their names. -/
  fields : List (String × Json)

/-- A computation that takes options and may fail. -/
abbrev OptionM := ExceptT RuleError (StateM Options)

namespace Options

/-- Fails with a fault of the options. -/
def invalid {α : Type} (fault : OptionFault) : OptionM α := do
  throw (.invalidCondition (← get).kind fault)

/-- Takes an option. -/
def take (key : String) : OptionM (Option Json) := do
  let options ← get
  set { options with fields := Fields.erase key options.fields }
  return Fields.get? key options.fields

/-- Takes an option that has to be a string. -/
def takeString (key : String) : OptionM (Option String) := do
  match ← take key with
  | none => return none
  | some (.string text) => return some text
  | some other => invalid (.notAString key other)

/-- Takes a string option that has to be there. -/
def requireString (key : String) : OptionM String := do
  match ← takeString key with
  | some text => return text
  | none => invalid (.missing key)

/-- The texts of an array, or the first item that is none. -/
def textsOf : List Json → Except Json (List String)
  | [] => .ok []
  | .string text :: rest =>
    match textsOf rest with
    | .ok texts => .ok (text :: texts)
    | .error item => .error item
  | item :: _ => .error item

/-- Takes an option that has to be a string or an array of strings. -/
def takeStrings (key : String) : OptionM (Option (List String)) := do
  match ← take key with
  | none => return none
  | some (.string text) => return some [text]
  | some (.array items) =>
    match textsOf items with
    | .ok texts => return some texts
    | .error item => invalid (.entryNotAString key item)
  | some other => invalid (.notStrings key other)

/-- Takes all options whose names pass a test, in the order of their names. -/
def takeMatching (test : String → Bool) : OptionM (List (String × Json)) := do
  let options ← get
  let (taken, left) := options.fields.partition fun field => test field.1
  set { options with fields := left }
  return taken

/-- Fails if there are options left. -/
def finish : OptionM Unit := do
  let options ← get
  if options.fields.isEmpty then return ()
  else invalid (.unknownOptions (options.fields.map Prod.fst))

/-- Runs a computation over the options of a condition. -/
def build {α : Type} (kind : String) (fields : List (String × Json)) (builder : OptionM α) :
    Except RuleError α :=
  (builder.run ⟨kind, fields⟩).1

end Options

end RequestRouting
