import RequestRouting.Condition.Options
import RequestRouting.Knowledge

/-!
# Authentication conditions

An authentication condition tests who makes the request, and reports the identity that it has
accepted as a result.

## Main definitions

* `AuthenticationCondition` — the condition.
* `AuthenticationCondition.ofOptions`, `AuthenticationCondition.config` — building and reporting.
* `AuthenticationCondition.evaluate` — the verdict.
-/

set_option autoImplicit false

namespace RequestRouting

/-- A condition on the identity of a request. -/
inductive AuthenticationCondition where
  /-- The request is made by this identity. -/
  | isUser (name : String)
  /-- The request is anonymous. -/
  | isAnonymous
  /-- The request is made by a member of this group. -/
  | inGroup (name : String)
  deriving DecidableEq

namespace AuthenticationCondition

/-- The tag of the kind. -/
def kind : String := "authentication"

/-- Takes the options of a test with a name. -/
def readOperator (name : String) : OptionM AuthenticationCondition := do
  if name = "isuser" then return .isUser (← Options.requireString "value")
  else if name = "ingroup" then return .inGroup (← Options.requireString "value")
  else if name = "isanon" then return .isAnonymous
  else Options.invalid (.unknownAuthOperator name)

/-- Takes the options of an authentication condition. -/
def builder : OptionM AuthenticationCondition := do
  let condition ← readOperator ((← Options.takeString "operator").getD "isuser")
  Options.finish
  return condition

/-- The condition of a table of options. -/
def ofOptions (fields : List (String × Json)) : Except RuleError AuthenticationCondition :=
  Options.build kind fields builder

/-- The options from which a condition can be built again. -/
def config : AuthenticationCondition → Json
  | .isUser name => Json.ofFields [("type", .string kind), ("operator", .string "isuser"),
      ("value", .string name)]
  | .inGroup name => Json.ofFields [("type", .string kind), ("operator", .string "ingroup"),
      ("value", .string name)]
  | .isAnonymous => Json.ofFields [("type", .string kind), ("operator", .string "isanon")]

/-- Whether a condition accepts an identity. -/
def accepts (condition : AuthenticationCondition) (identity : Identity) (current : String) :
    Bool :=
  match condition with
  | .isUser name => name = current
  | .inGroup group => identity.isMember current group
  | .isAnonymous => false

/-- The verdict of a condition.  Without an identity the request counts as anonymous. -/
def evaluate (condition : AuthenticationCondition) (knowledge : Knowledge) : Bool × Knowledge :=
  match knowledge.identity.bind fun identity => identity.current.map fun name => (identity, name) with
  | none => (condition = .isAnonymous, knowledge)
  | some (identity, current) =>
    if condition.accepts identity current then
      (true, knowledge.setResult Knowledge.identityResult (.string current) true)
    else (false, knowledge)

end AuthenticationCondition

end RequestRouting
