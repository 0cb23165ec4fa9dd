import RequestRouting.Text.Quoted

/-!
# Errors in the description of a request

## Main definitions

* `RequestError` — the causes.
* `RequestError.kind` — the names of the causes.
* `RequestError.message` — their wording.
-/

set_option autoImplicit false

namespace RequestRouting

/-- What can be wrong with the description of a request. -/
inductive RequestError where
  /-- No parameter scope has this name. -/
  | unknownScope (name : String)
  /-- No dispatch mode has this name. -/
  | unknownMode (name : String)
  /-- An assignment without an equals sign. -/
  | assignmentWithoutValue (input : String)
  /-- An assignment to nothing. -/
  | assignmentWithoutName (input : String)
  deriving DecidableEq

namespace RequestError

/-- The name of the cause. -/
def kind : RequestError → String
  | .unknownScope _ => "UnknownScope"
  | .unknownMode _ => "UnknownMode"
  | .assignmentWithoutValue _ | .assignmentWithoutName _ => "InvalidAssignment"

/-- The message of an error. -/
def message : RequestError → String
  | .unknownScope name =>
    "Unknown parameter scope: " ++ name ++ " (expected get, post or both)"
  | .unknownMode name => "Unknown dispatch mode: " ++ name ++ " (expected first or all)"
  | .assignmentWithoutValue input =>
    "Invalid parameter assignment " ++ quoteText input ++ ": expected name=value"
  | .assignmentWithoutName input =>
    "Invalid parameter assignment " ++ quoteText input ++ ": parameter name is empty"

end RequestError

end RequestRouting
