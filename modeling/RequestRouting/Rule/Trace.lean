import RequestRouting.Rule.Hooks

/-!
# Traces as JSON

What observers, vetoes and handlers leave behind, as JSON values for a log.

## Main definitions

* `Knowledge.outputJson` — the output of the rules so far.
* `Notice.eventJson?`, `Notice.callJson?`, `Notice.logJson?` — notices of the several kinds.
-/

set_option autoImplicit false

namespace RequestRouting

/-- The output of the rules so far. -/
def Knowledge.outputJson (knowledge : Knowledge) : Json :=
  Json.ofFields [("results", .ofDict knowledge.committed.results),
    ("refs", .array knowledge.committed.backreferences),
    ("staged_refs", .array knowledge.stagedBackreferences), ("tx", .bool knowledge.inTransaction)]

/-- The field that only the end of an attempt has. -/
def RuleEvent.moreFields : RuleEvent → List (String × Json)
  | .processEnd isMatch => [("matched", .bool isMatch)]
  | _ => []

namespace Notice

/-- What an observer has been told, or how a veto has voted. -/
def eventJson? (observer : String) : Notice → Option Json
  | .event name step rule knowledge =>
    if name ≠ observer then none
    else some (Json.ofFields ([("event", .string step.name), ("rule", .string rule.name),
      ("tx", .bool knowledge.inTransaction),
      ("staged", .int knowledge.stagedBackreferences.length),
      ("refs", .int knowledge.committed.backreferences.length),
      ("results", .int knowledge.committed.results.entries.length)] ++ step.moreFields))
  | .veto position rule _ approved =>
    some (Json.ofFields [("veto", .int position), ("rule", .string rule.name),
      ("approved", .bool approved)])
  | _ => none

/-- Which handler has been called, and with which values. -/
def callJson? : Notice → Option Json
  | .called handler references =>
    some (Json.ofFields [("handler", .string handler), ("refs", .array references)])
  | _ => none

/-- Which rule has written which message to the log. -/
def logJson? : Notice → Option Json
  | .logged rule message =>
    some (Json.ofFields [("rule", .string rule), ("message", .string message)])
  | _ => none

end Notice

end RequestRouting
