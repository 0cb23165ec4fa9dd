import RequestRouting.Knowledge
import RequestRouting.Session.Error

/-!
# Descriptions of requests

A request as it is described on a command line.

## Main definitions

* `RequestSpec` — the description.
* `RequestSpec.knowledge` — what is known about the request.
-/

set_option autoImplicit false

namespace RequestRouting

/-- A request as it is described on a command line. -/
structure RequestSpec where
  method : String
  /-- The path, and a query string after its first question mark. -/
  path : String
  extraPath : Option String
  /-- Assignments of query parameters. -/
  get : List String
  /-- Assignments of body parameters. -/
  post : List String
  /-- Assignments of facts. -/
  facts : List String
  /-- Who makes the request; it is anonymous without. -/
  user : Option String
  /-- The groups of the one who makes the request. -/
  groups : List String

namespace RequestSpec

/-- Reads assignments one after another. -/
def readAssignments : List String → Except SessionError (List (String × Json))
  | [] => .ok []
  | input :: rest => do
    let assignment ← (parseAssignment input).mapError .request
    .ok (assignment :: (← readAssignments rest))

/-- What follows the first question mark of the path. -/
def query (spec : RequestSpec) : String :=
  match splitFirst? '?' spec.path.toList with
  | some (_, query) => String.ofList query
  | none => ""

/-- The parameters of the request.  Assignments override the query string. -/
def parameters (spec : RequestSpec) : Except SessionError Parameters := do
  let base := Parameters.ofQuery spec.query
  let base := (← readAssignments spec.get).foldl
    (fun acc (name, value) => acc.withQuery name value) base
  .ok ((← readAssignments spec.post).foldl (fun acc (name, value) => acc.withBody name value) base)

/-- The facts about the request.  Assignments override them. -/
def requestFacts (spec : RequestSpec) : Except SessionError Knowledge := do
  let base := Knowledge.forRequest spec.method spec.path
  let base := match spec.extraPath with
    | some extra => base.withFact Knowledge.extraPathFact (.string extra)
    | none => base
  .ok (base.withFacts (← readAssignments spec.facts))

/-- Who makes the request. -/
def identity (spec : RequestSpec) : Except SessionError (Option Identity) :=
  match spec.user with
  | some user => .ok (some (spec.groups.foldl Identity.withGroup (.user user)))
  | none => if spec.groups.isEmpty then .ok none else .error .groupsWithoutUser

/-- What is known about the request. -/
def knowledge (spec : RequestSpec) : Except SessionError Knowledge := do
  let parameters ← spec.parameters
  let base ← spec.requestFacts
  .ok { base with parameters := some parameters, identity := ← spec.identity }

end RequestSpec

end RequestRouting
