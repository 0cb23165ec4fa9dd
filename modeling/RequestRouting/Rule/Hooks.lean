import RequestRouting.Rule.Basic

/-!
# Observers and vetoes

Observers are told about every step of an attempt at a rule.  Vetoes are asked once all conditions
of a rule have matched, and each may refuse the rule.

## Main definitions

* `RuleEvent` — the steps of an attempt that observers are told about.
* `Notice` — what leaves a trace: events, vetoes, handler calls and log messages.
* `Hooks` — observers and vetoes; `Hooks.emit` and `Hooks.approve` run them.
-/

set_option autoImplicit false

namespace RequestRouting

/-- A step of an attempt. -/
inductive RuleEvent where
  /-- The rule is about to be attempted. -/
  | processBegin
  /-- All conditions have matched, and no veto has been asked yet. -/
  | processSucceeded
  /-- The attempt is over. -/
  | processEnd (isMatch : Bool)
  /-- All actions have run. -/
  | actionExecuted
  deriving DecidableEq

/-- The name of a step. -/
def RuleEvent.name : RuleEvent → String
  | .processBegin => "rule.process.begin"
  | .processSucceeded => "rule.process.succeeded"
  | .processEnd _ => "rule.process.end"
  | .actionExecuted => "rule.action.executed"

/-- Something that leaves a trace. -/
inductive Notice where
  /-- An observer is told about a step. -/
  | event (observer : String) (event : RuleEvent) (rule : Rule) (knowledge : Knowledge)
  /-- The veto at a position has been asked. -/
  | veto (position : Nat) (rule : Rule) (knowledge : Knowledge) (approved : Bool)
  /-- A handler has been called. -/
  | called (handler : String) (references : List Json)
  /-- A rule has written a message to the log. -/
  | logged (rule message : String)

/-- Decides whether a rule may run; false refuses it. -/
abbrev Veto := Rule → Knowledge → Bool

/-- Observers and vetoes, in the order of their registration. -/
structure Hooks where
  /-- The names of the observers. -/
  observers : List String
  vetoes : List Veto

namespace Hooks

/-- Neither observers nor vetoes. -/
def empty : Hooks := ⟨[], []⟩

/-- Adds an observer. -/
def addObserver (hooks : Hooks) (observer : String) : Hooks :=
  { hooks with observers := hooks.observers ++ [observer] }

/-- Adds a veto. -/
def addVeto (hooks : Hooks) (veto : Veto) : Hooks :=
  { hooks with vetoes := hooks.vetoes ++ [veto] }

/-- Whether there are neither observers nor vetoes. -/
def isEmpty (hooks : Hooks) : Bool := hooks.observers.isEmpty && hooks.vetoes.isEmpty

/-- Tells every observer about a step. -/
def emit (hooks : Hooks) (event : RuleEvent) (rule : Rule) (knowledge : Knowledge) : List Notice :=
  hooks.observers.map fun observer => .event observer event rule knowledge

/-- Asks vetoes from a position on, up to the first that refuses. -/
def approveFrom (position : Nat) (rule : Rule) (knowledge : Knowledge) :
    List Veto → Bool × List Notice
  | [] => (true, [])
  | veto :: rest =>
    if veto rule knowledge then
      let (approved, notices) := approveFrom (position + 1) rule knowledge rest
      (approved, .veto position rule knowledge true :: notices)
    else (false, [.veto position rule knowledge false])

/-- Whether no veto refuses a rule. -/
def approve (hooks : Hooks) (rule : Rule) (knowledge : Knowledge) : Bool × List Notice :=
  approveFrom 0 rule knowledge hooks.vetoes

end Hooks

end RequestRouting
