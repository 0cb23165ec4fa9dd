import RequestRouting.Json.Basic
import RequestRouting.Request.Error
import RequestRouting.Request.Scope
import RequestRouting.Text.Form

/-!
# Request parameters

The parameters of a request: those of its query string and those of its body.

## Main definitions

* `Parameters` — the two sets of named values.
* `Parameters.ofQuery` — the parameters of a query string.
* `Parameters.get?` — the value of a name in a scope.
* `Assignment.parse` — reading `name=value`.
-/

set_option autoImplicit false

namespace RequestRouting

/-- The parameters of a request. -/
structure Parameters where
  /-- Parameters of the query string. -/
  query : Dict Json
  /-- Parameters of the body. -/
  body : Dict Json
  deriving Inhabited

namespace Parameters

/-- No parameters. -/
def empty : Parameters := ⟨.empty, .empty⟩

/-- A query string without its leading question mark. -/
def withoutMark : List Char → List Char
  | '?' :: rest => rest
  | query => query

/-- The parameters of a query string; the last of several with one name counts. -/
def ofQuery (query : String) : Parameters :=
  ⟨.ofList ((Form.pairs (withoutMark query.toList)).map fun (name, value) =>
    (name, .string value)), .empty⟩

/-- Sets a parameter of the query string. -/
def withQuery (params : Parameters) (name : String) (value : Json) : Parameters :=
  { params with query := params.query.insert name value }

/-- Sets a parameter of the body. -/
def withBody (params : Parameters) (name : String) (value : Json) : Parameters :=
  { params with body := params.body.insert name value }

/-- The value of a name in a scope.  Where both are meant, the body hides the query string. -/
def get? (params : Parameters) (name : String) : Scope → Option Json
  | .get => params.query.get? name
  | .post => params.body.get? name
  | .both => (params.body.get? name).or (params.query.get? name)

/-- Whether a name has a value in a scope. -/
def has (params : Parameters) (name : String) (scope : Scope) : Bool :=
  (params.get? name scope).isSome

end Parameters

/-- Reads an assignment: a name that is not empty, an equals sign, and a value that may contain
more of them. -/
def parseAssignment (input : String) : Except RequestError (String × Json) :=
  match splitFirst? '=' input.toList with
  | none => .error (.assignmentWithoutValue input)
  | some (name, value) =>
    if name.isEmpty then .error (.assignmentWithoutName input)
    else .ok (String.ofList name, .string (String.ofList value))

end RequestRouting
