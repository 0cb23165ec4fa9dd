import RequestRouting.Rule.Book

/-!
# Action handlers

Handlers are the actions that a program supplies under names.  A handler gets the values that the
rule has captured and what is known, and answers with a script: it may add rules, and ends with the
new knowledge.

## Main definitions

* `Script` — what a handler does, step by step.
* `Script.run` — the effect of a script on a rule book.
* `Handler`, `Handlers` — handlers and their names.
* `resolveHandler` — the action that runs a named handler.
-/

set_option autoImplicit false

namespace RequestRouting

/-- What a handler does. -/
inductive Script where
  /-- Ends, with what is known now and the text of a failure. -/
  | finish (knowledge : Knowledge) (outcome : Except String Unit)
  /-- Appends a rule to the rule book, and goes on with the error if that is refused. -/
  | addRule (rule : Rule) (next : Option RuleError → Script)

/-- Runs a script over a rule book. -/
def Script.run : Script → RuleBook → Except String Unit × Knowledge × RuleBook
  | .finish knowledge outcome, book => (outcome, knowledge, book)
  | .addRule rule next, book =>
    match book.addRule rule with
    | .ok book => (next none).run book
    | .error e => (next (some e)).run book

/-- A handler, given the values that the rule has captured and what is known. -/
abbrev Handler := List Json → Knowledge → Script

/-- Handlers by their names. -/
structure Handlers where
  table : Dict Handler

namespace Handlers

/-- No handlers. -/
def empty : Handlers := ⟨.empty⟩

/-- Puts a handler under a name, replacing what was there. -/
def register (handlers : Handlers) (name : String) (handler : Handler) : Handlers :=
  ⟨handlers.table.insert name handler⟩

/-- The names, in increasing order. -/
def names (handlers : Handlers) : List String := handlers.table.names

/-- Whether a name has a handler. -/
def has (handlers : Handlers) (name : String) : Bool := handlers.table.has name

end Handlers

/-- The action that runs a handler, which has to be one of those that there are. -/
def resolveHandler (names : List String) (name : String) : Except RuleError RuleAction :=
  if name ∈ names then .ok (.handler name) else .error (.unknownHandler name)

end RequestRouting
