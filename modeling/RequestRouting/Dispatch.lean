import RequestRouting.Request.Scope
import RequestRouting.Rule.Attempt

/-!
# Dispatch

A dispatcher attempts the rules of its book in order, and either stops at the first that matches or
goes on to the end.  Actions may add rules to the book; these take part from the next dispatch on.

## Main definitions

* `Dispatcher` — a rule book together with hooks and handlers.
* `Report` — which rules have matched, and how many were attempted.
* `Dispatcher.dispatch`, `Dispatcher.dispatchAll`, `Dispatcher.run` — the ways to dispatch.
-/

set_option autoImplicit false

namespace RequestRouting

/-- A rule book together with what is needed to attempt its rules. -/
structure Dispatcher where
  book : RuleBook
  engine : Engine
  mode : DispatchMode

/-- Which rules have matched, and how many were attempted. -/
structure Report where
  /-- The rules that have matched, in the order of the attempts. -/
  matchedRules : List Rule
  attempted : Nat

namespace Report

/-- No attempt at all. -/
def empty : Report := ⟨[], 0⟩

/-- The names of the rules that have matched. -/
def names (report : Report) : List String := report.matchedRules.map Rule.name

/-- Whether any rule has matched. -/
def found (report : Report) : Bool := !report.matchedRules.isEmpty

/-- Puts an attempt in front of a report. -/
def cons (rule : Rule) (isMatch : Bool) (report : Report) : Report :=
  ⟨if isMatch then rule :: report.matchedRules else report.matchedRules, report.attempted + 1⟩

end Report

namespace Engine

/-- Whether the result of an attempt is a match. -/
def isMatch : Except RuleError Bool → Bool
  | .ok verdict => verdict
  | .error _ => false

/-- Attempts a rule, and tells the observers when the attempt begins and when it is over. -/
def attempt (engine : Engine) (rule : Rule) (knowledge : Knowledge) (book : RuleBook) :
    Outcome Bool :=
  let outcome := rule.attempt engine knowledge book
  { outcome with
    notices := engine.hooks.emit .processBegin rule knowledge ++ outcome.notices ++
      engine.hooks.emit (.processEnd (isMatch outcome.result)) rule outcome.knowledge }

/-- Attempts rules in order, up to the first that matches. -/
def firstMatch (engine : Engine) : List Rule → Knowledge → RuleBook → Outcome (Option Rule)
  | [], knowledge, book => ⟨.ok none, knowledge, book, []⟩
  | rule :: rest, knowledge, book =>
    let outcome := engine.attempt rule knowledge book
    match outcome.result with
    | .error e => { outcome with result := .error e }
    | .ok true => { outcome with result := .ok (some rule) }
    | .ok false => (firstMatch engine rest outcome.knowledge outcome.book).after outcome.notices

/-- Attempts rules in order.  With `cut` the first match is the last attempt. -/
def attemptAll (engine : Engine) (cut : Bool) :
    List Rule → Knowledge → RuleBook → Outcome Report
  | [], knowledge, book => ⟨.ok .empty, knowledge, book, []⟩
  | rule :: rest, knowledge, book =>
    let outcome := engine.attempt rule knowledge book
    match outcome.result with
    | .error e => { outcome with result := .error e }
    | .ok verdict =>
      if verdict && cut then { outcome with result := .ok (Report.empty.cons rule true) }
      else
        let later := attemptAll engine cut rest outcome.knowledge outcome.book
        { later.after outcome.notices with result := later.result.map (Report.cons rule verdict) }

end Engine

namespace Dispatcher

/-- Appends a rule to the book. -/
def addRule (dispatcher : Dispatcher) (rule : Rule) : Except RuleError Dispatcher :=
  (dispatcher.book.addRule rule).map fun book => { dispatcher with book := book }

/-- Attempts the rules of the book up to the first that matches. -/
def dispatch (dispatcher : Dispatcher) (knowledge : Knowledge) : Outcome (Option Rule) :=
  dispatcher.engine.firstMatch dispatcher.book.rules knowledge dispatcher.book

/-- Attempts the rules of the book as a mode says. -/
def runIn (dispatcher : Dispatcher) (mode : DispatchMode) (knowledge : Knowledge) :
    Outcome Report :=
  dispatcher.engine.attemptAll (mode = .first) dispatcher.book.rules knowledge dispatcher.book

/-- Attempts all rules of the book, and lists those that match. -/
def dispatchAll (dispatcher : Dispatcher) (knowledge : Knowledge) : Outcome (List Rule) :=
  let outcome := dispatcher.runIn .all knowledge
  { outcome with result := outcome.result.map Report.matchedRules }

/-- Attempts the rules of the book as the mode of the dispatcher says. -/
def run (dispatcher : Dispatcher) (knowledge : Knowledge) : Outcome Report :=
  dispatcher.runIn dispatcher.mode knowledge

end Dispatcher

end RequestRouting
