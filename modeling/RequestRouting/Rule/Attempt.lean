import RequestRouting.Rule.Handler
import RequestRouting.Rule.Hooks

/-!
# Attempts

An attempt at a rule evaluates its conditions in a transaction, asks the vetoes, commits, derives
facts and runs the actions.

## Main definitions

* `Outcome` — the result of a step of a dispatch together with the state after it.
* `Engine` — what attempts at rules need to know besides the rule.
* `RuleAction.perform`, `performAll` — running actions.
* `Rule.attempt` — an attempt at a rule.
-/

set_option autoImplicit false

namespace RequestRouting

/-- The result of a step of a dispatch, the state after it, and the trace that it leaves. -/
structure Outcome (α : Type) where
  result : Except RuleError α
  knowledge : Knowledge
  book : RuleBook
  /-- What has happened, in order. -/
  notices : List Notice

/-- Puts what happened before in front of the trace. -/
def Outcome.after {α : Type} (outcome : Outcome α) (earlier : List Notice) : Outcome α :=
  { outcome with notices := earlier ++ outcome.notices }

/-- What attempts at rules need to know besides the rule. -/
structure Engine where
  handlers : Handlers
  hooks : Hooks
  /-- Whether extractors are forgotten once they have run after a match. -/
  clearExtractors : Bool

/-! ## Actions -/

/-- Stores captured values under names; a name without a value gets null. -/
def bindReferences (knowledge : Knowledge) : List String → List Json → Knowledge
  | [], _ => knowledge
  | name :: names, references =>
    bindReferences (knowledge.setResult name (references.head?.getD .null) false) names
      references.tail

/-- Stores constant results. -/
def setResults (knowledge : Knowledge) (values : List (String × Json)) : Knowledge :=
  values.foldl (fun acc (name, value) => acc.setResult name value false) knowledge

/-- What has become of an action. -/
structure Performed where
  /-- The text of its failure, if it has failed. -/
  outcome : Except String Unit
  knowledge : Knowledge
  book : RuleBook
  notices : List Notice

/-- Runs a named handler. -/
def Handlers.call (handlers : Handlers) (name : String) (references : List Json)
    (knowledge : Knowledge) (book : RuleBook) : Performed :=
  match handlers.table.get? name with
  | none => ⟨.error (RuleError.unknownHandler name).message, knowledge, book, []⟩
  | some handler =>
    let (outcome, knowledge, book) := (handler references knowledge).run book
    ⟨outcome, knowledge, book, [.called name references]⟩

/-- Runs an action of a rule. -/
def RuleAction.perform (handlers : Handlers) (rule : String) (references : List Json)
    (action : RuleAction) (knowledge : Knowledge) (book : RuleBook) : Performed :=
  match action with
  | .handler name | .code name => handlers.call name references knowledge book
  | .bind names => ⟨.ok (), bindReferences knowledge names references, book, []⟩
  | .set values => ⟨.ok (), setResults knowledge values.entries, book, []⟩
  | .log message => ⟨.ok (), knowledge, book, [.logged rule message]⟩

/-- Runs actions one after another, up to the first that fails. -/
def performAll (handlers : Handlers) (rule : String) (references : List Json) :
    List RuleAction → Knowledge → RuleBook → Performed
  | [], knowledge, book => ⟨.ok (), knowledge, book, []⟩
  | action :: rest, knowledge, book =>
    let performed := action.perform handlers rule references knowledge book
    match performed.outcome with
    | .error _ => performed
    | .ok () =>
      let later := performAll handlers rule references rest performed.knowledge performed.book
      { later with notices := performed.notices ++ later.notices }

/-! ## Attempts -/

/-- Runs the actions of a rule that has been committed. -/
def Rule.act (engine : Engine) (rule : Rule) (references : List Json) (knowledge : Knowledge)
    (book : RuleBook) : Outcome Bool :=
  let performed := performAll engine.handlers rule.name references rule.actions knowledge book
  match performed.outcome with
  | .error text =>
    ⟨.error (.actionFailed rule.name text), performed.knowledge, performed.book,
      performed.notices⟩
  | .ok () =>
    ⟨.ok true, performed.knowledge, performed.book,
      performed.notices ++ engine.hooks.emit .actionExecuted rule performed.knowledge⟩

/-- Commits what the conditions of a rule have staged, derives facts and runs the actions. -/
def Rule.fire (engine : Engine) (rule : Rule) (knowledge : Knowledge) (book : RuleBook) :
    Outcome Bool :=
  let (references, committed) := knowledge.commit
  rule.act engine references (committed.extractFacts engine.clearExtractors) book

/-- Attempts a rule.  A rule without conditions never matches.  If a condition does not match or
fails, or a veto refuses, what the conditions have staged is rolled back. -/
def Rule.attempt (engine : Engine) (rule : Rule) (knowledge : Knowledge) (book : RuleBook) :
    Outcome Bool :=
  if rule.conditions.isEmpty then ⟨.ok false, knowledge, book, []⟩
  else
    match Condition.evaluateAll rule.conditions knowledge.begin with
    | (.error e, after) => ⟨.error e, after.rollback, book, []⟩
    | (.ok false, after) => ⟨.ok false, after.rollback, book, []⟩
    | (.ok true, after) =>
      let (approved, votes) := engine.hooks.approve rule after
      let notices := engine.hooks.emit .processSucceeded rule after ++ votes
      if approved then (rule.fire engine after book).after notices
      else ⟨.ok false, after.rollback, book, notices⟩

end RequestRouting
