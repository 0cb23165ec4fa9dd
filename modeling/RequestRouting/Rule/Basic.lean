import RequestRouting.Condition.Basic

/-!
# Rules

A rule is a list of conditions that guards a list of actions.

## Main definitions

* `RuleAction` — what a matched rule does.
* `Rule` — a named list of conditions and actions.
* `Rule.describe` — the table that describes a rule.
-/

set_option autoImplicit false

namespace RequestRouting

/-- What a matched rule does. -/
inductive RuleAction where
  /-- Runs a named handler. -/
  | handler (name : String)
  /-- Stores captured values as results, by their positions. -/
  | bind (names : List String)
  /-- Stores constant results. -/
  | set (values : Dict Json)
  /-- Writes a message to the log. -/
  | log (message : String)
  /-- Runs a handler that descriptions do not name. -/
  | code (handler : String)

/-- The table that describes an action. -/
def RuleAction.describe : RuleAction → Json
  | .handler name => Json.ofFields [("handler", .string name)]
  | .bind names => Json.ofFields [("bind", .ofStrings names)]
  | .set values => Json.ofFields [("set", .ofDict values)]
  | .log message => Json.ofFields [("log", .string message)]
  | .code _ => Json.ofFields [("custom", .bool true)]

/-- A list of conditions that guards a list of actions. -/
structure Rule where
  name : String
  description : Option String
  /-- The weight by which the rules of tables are ordered. -/
  priority : Int
  /-- The conditions, in the order in which they are evaluated. -/
  conditions : List Condition
  /-- The actions, in the order in which they are run. -/
  actions : List RuleAction

/-- The table that describes a rule. -/
def Rule.describe (rule : Rule) : Json :=
  Json.ofFields [("name", .string rule.name),
    ("description", Json.ofOption (rule.description.map .string)),
    ("priority", .int rule.priority),
    ("conditions", .array (Condition.configs rule.conditions)),
    ("actions", .array (rule.actions.map RuleAction.describe))]

end RequestRouting
