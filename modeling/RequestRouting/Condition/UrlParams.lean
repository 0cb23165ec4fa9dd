import RequestRouting.Condition.UrlPath

/-!
# Parameter conditions

A parameter condition tests one parameter of the request.

## Main definitions

* `ParamOperator`, `UrlParamsCondition` — the tests and the condition.
* `UrlParamsCondition.ofOptions`, `UrlParamsCondition.config` — building and reporting.
* `UrlParamsCondition.evaluate` — the verdict and what it captures.
-/

set_option autoImplicit false

namespace RequestRouting

/-- A test of a parameter. -/
inductive ParamOperator where
  /-- The parameter is there. -/
  | isSet
  /-- It is loosely equal to a value. -/
  | equal (value : Json)
  /-- A pattern occurs in its text. -/
  | regexp (regex : Regex.Compiled)
  /-- It is a number. -/
  | isNumeric

/-- The name of a test. -/
def ParamOperator.name : ParamOperator → String
  | .isSet => "isset"
  | .equal _ => "equal"
  | .regexp _ => "regexp"
  | .isNumeric => "isnumeric"

/-- A condition on a parameter. -/
structure UrlParamsCondition where
  name : String
  operator : ParamOperator
  scope : Scope

namespace UrlParamsCondition

/-- The tag of the kind. -/
def kind : String := "url_params"

/-- The scope with a name. -/
def readScope : Option String → OptionM Scope
  | none => return Scope.byDefault
  | some text =>
    match Scope.parse? text with
    | some scope => return scope
    | none => Options.invalid (.unknownScope text)

/-- Takes the options of a test with a name. -/
def readOperator (name : String) : OptionM ParamOperator := do
  if name = "isset" then return .isSet
  else if name = "isnumeric" then return .isNumeric
  else if name = "equal" then
    match ← Options.take "value" with
    | some value => if value.isNull then Options.invalid .missingValue else return .equal value
    | none => Options.invalid .missingValue
  else if name = "regexp" then
    let pattern ← Options.requireString "value"
    return .regexp (← UrlPathCondition.compileOption "value" pattern)
  else Options.invalid (.unknownParamOperator name)

/-- Takes the options of a parameter condition. -/
def builder : OptionM UrlParamsCondition := do
  let name ← Options.requireString "name"
  let scope ← readScope (← Options.takeString "scope")
  let operator ← readOperator ((← Options.takeString "operator").getD "isset")
  Options.finish
  return ⟨name, operator, scope⟩

/-- The condition of a table of options. -/
def ofOptions (fields : List (String × Json)) : Except RuleError UrlParamsCondition :=
  Options.build kind fields builder

/-- The options from which a condition can be built again. -/
def config (condition : UrlParamsCondition) : Json :=
  let value := match condition.operator with
    | .equal value => [("value", value)]
    | .regexp regex => [("value", Json.string regex.source)]
    | .isSet | .isNumeric => []
  Json.ofFields ([("type", .string kind), ("name", .string condition.name),
    ("operator", .string condition.operator.name), ("scope", .string condition.scope.name)] ++
    value)

/-- The verdict on a value. -/
def evaluateValue (operator : ParamOperator) (value : Json) (knowledge : Knowledge) :
    Bool × Knowledge :=
  match operator with
  | .isSet => (true, knowledge)
  | .isNumeric => (value.isNumeric, knowledge)
  | .equal expected => (looseEq value expected, knowledge)
  | .regexp regex =>
    match value.display?.bind regex.captures? with
    | none => (false, knowledge)
    | some groups => (true, knowledge.addBackreferences (UrlPathCondition.groupValues groups))

/-- The verdict of a condition. -/
def evaluate (condition : UrlParamsCondition) (knowledge : Knowledge) : Bool × Knowledge :=
  match knowledge.parameters.bind fun params => params.get? condition.name condition.scope with
  | none => (false, knowledge)
  | some value => evaluateValue condition.operator value knowledge

end UrlParamsCondition

end RequestRouting
