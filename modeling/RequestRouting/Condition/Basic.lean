import RequestRouting.Condition.Authentication
import RequestRouting.Condition.Request
import RequestRouting.Condition.UrlParams
import RequestRouting.Condition.UrlPath

/-!
# Conditions

Conditions are trees: the leaves test paths, parameters, identities and requests, and Boolean nodes
combine other conditions.  Evaluation stops as soon as the verdict is clear, and an error ends it at
once.

## Main definitions

* `Condition` — the trees, with a place for conditions from outside of the library.
* `Condition.evaluate` — the verdict, and the knowledge with what has been captured on the way.
* `Condition.config` — the table from which a condition can be built again.
-/

set_option autoImplicit false

namespace RequestRouting

/-- How a Boolean condition combines its parts. -/
inductive BoolOperator where
  /-- All parts match. -/
  | and
  /-- Some part matches; only its output is kept. -/
  | or
  /-- Not all parts match; no output is kept. -/
  | not
  deriving DecidableEq

/-- The name of an operator. -/
def BoolOperator.name : BoolOperator → String
  | .and => "and"
  | .or => "or"
  | .not => "not"

/-- A condition from outside of the library. -/
structure CustomCondition where
  /-- The tag of its kind. -/
  kind : String
  /-- The table that describes it. -/
  config : Json
  /-- Its verdict. -/
  evaluate : Knowledge → Except RuleError Bool × Knowledge

/-- A condition. -/
inductive Condition where
  | urlPath (condition : UrlPathCondition)
  | urlParams (condition : UrlParamsCondition)
  | authentication (condition : AuthenticationCondition)
  | request (condition : RequestCondition)
  | bool (operator : BoolOperator) (conditions : List Condition)
  | custom (condition : CustomCondition)

namespace Condition

/-- The tag of Boolean conditions. -/
def boolKind : String := "bool"

/-- The tag of the kind of a condition. -/
def kind : Condition → String
  | .urlPath _ => UrlPathCondition.kind
  | .urlParams _ => UrlParamsCondition.kind
  | .authentication _ => AuthenticationCondition.kind
  | .request _ => RequestCondition.kind
  | .bool _ _ => boolKind
  | .custom condition => condition.kind

mutual

/-- The table from which a condition can be built again. -/
def config : Condition → Json
  | .urlPath condition => condition.config
  | .urlParams condition => condition.config
  | .authentication condition => condition.config
  | .request condition => condition.config
  | .bool operator conditions => Json.ofFields [("type", .string boolKind),
      ("operator", .string operator.name), ("conditions", .array (configs conditions))]
  | .custom condition => condition.config

/-- The tables of a list of conditions. -/
def configs : List Condition → List Json
  | [] => []
  | condition :: rest => config condition :: configs rest

end

/-- A verdict without the possibility of an error. -/
def definite (outcome : Bool × Knowledge) : Except RuleError Bool × Knowledge :=
  (.ok outcome.1, outcome.2)

mutual

/-- The verdict of a condition.  The parts of an `or` node start from where the node started, and a
`not` node leaves nothing behind. -/
def evaluate : Condition → Knowledge → Except RuleError Bool × Knowledge
  | .urlPath condition, knowledge => condition.evaluate knowledge
  | .urlParams condition, knowledge => definite (condition.evaluate knowledge)
  | .authentication condition, knowledge => definite (condition.evaluate knowledge)
  | .request condition, knowledge => condition.evaluate knowledge
  | .bool .and conditions, knowledge => evaluateAll conditions knowledge
  | .bool .or conditions, knowledge => evaluateAny conditions knowledge
  | .bool .not conditions, knowledge =>
    let (verdict, after) := evaluateAll conditions knowledge
    (verdict.map (! ·), after.rollbackTo knowledge.savepoint)
  | .custom condition, knowledge => condition.evaluate knowledge

/-- Whether all conditions match, one after another. -/
def evaluateAll : List Condition → Knowledge → Except RuleError Bool × Knowledge
  | [], knowledge => (.ok true, knowledge)
  | condition :: rest, knowledge =>
    match evaluate condition knowledge with
    | (.ok true, after) => evaluateAll rest after
    | (.ok false, after) => (.ok false, after)
    | (.error e, after) => (.error e, after)

/-- Whether some condition matches; those that do not are undone. -/
def evaluateAny : List Condition → Knowledge → Except RuleError Bool × Knowledge
  | [], knowledge => (.ok false, knowledge)
  | condition :: rest, knowledge =>
    match evaluate condition knowledge with
    | (.ok true, after) => (.ok true, after)
    | (.ok false, after) => evaluateAny rest (after.rollbackTo knowledge.savepoint)
    | (.error e, after) => (.error e, after)

end

end Condition

end RequestRouting
