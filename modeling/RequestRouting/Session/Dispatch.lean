import RequestRouting.Session.Basic
import RequestRouting.Terminal.Present

/-!
# Dispatching a request

## Main definitions

* `DispatchRequest` — a request and the tables that it is dispatched over.
* `DispatchResult` — everything that a dispatch has produced.
* `Session.dispatch` — dispatches a request.
-/

set_option autoImplicit false

namespace RequestRouting

/-- A request, and how it is dispatched. -/
structure DispatchRequest where
  request : RequestSpec
  /-- Sources of rule tables besides those of the session. -/
  tables : List String
  /-- Whether every rule is attempted, whatever the settings say. -/
  all : Bool

/-- An attempt at a rule, and its outcome. -/
structure AttemptRecord where
  rule : String
  matched : Bool
  deriving DecidableEq

/-- A call of a handler. -/
structure HandlerCall where
  handler : String
  backreferences : List Json

/-- Everything that a dispatch has produced. -/
structure DispatchResult where
  method : String
  path : String
  mode : DispatchMode
  found : Bool
  /-- The names of the rules that have matched. -/
  matched : List String
  attempts : List AttemptRecord
  results : Dict Json
  backreferences : List Json
  handlers : List HandlerCall

/-- The attempt that a notice tells about. -/
def Notice.attempt? : Notice → Option AttemptRecord
  | .event _ (.processEnd matched) rule _ => some ⟨rule.name, matched⟩
  | _ => none

/-- The call that a notice tells about. -/
def Notice.call? : Notice → Option HandlerCall
  | .called handler references => some ⟨handler, references⟩
  | _ => none

/-- The settings of a dispatch. -/
def dispatchSettings (settings : Settings) (tables : List LoadedTable) (all : Bool) : Settings :=
  { settings with mode := if all then .all else effectiveMode tables settings }

/-- Dispatches a request over tables. -/
def dispatchOver (settings : Settings) (tables : List LoadedTable) (request : RequestSpec) :
    Except SessionError DispatchResult := do
  let dispatcher ← buildDispatcher (orderedRules tables) settings
  let knowledge ← request.knowledge
  let outcome := dispatcher.run knowledge
  let report ← outcome.result.mapError (.dispatch request.method request.path)
  .ok {
    method := request.method
    path := request.path
    mode := settings.mode
    found := report.found
    matched := report.names
    attempts := outcome.notices.filterMap Notice.attempt?
    results := outcome.knowledge.committed.results
    backreferences := outcome.knowledge.committed.backreferences
    handlers := outcome.notices.filterMap Notice.call? }

/-- Dispatches a request over the rule tables of a session. -/
def Session.dispatch {m : Type → Type} [Monad m] [FileAccess m] (session : Session)
    (request : DispatchRequest) : m (Except SessionError DispatchResult) := do
  match ← session.tables request.tables with
  | .error e => return .error e
  | .ok tables =>
    let settings := dispatchSettings session.settings tables request.all
    return dispatchOver settings tables request.request

/-! ## Presentation -/

/-- An attempt as a JSON value. -/
def AttemptRecord.toJson (attempt : AttemptRecord) : Json :=
  .object [("rule", .string attempt.rule), ("matched", .bool attempt.matched)]

/-- A call as a JSON value. -/
def HandlerCall.toJson (call : HandlerCall) : Json :=
  .object [("handler", .string call.handler), ("backreferences", .array call.backreferences)]

/-- A dispatch as a JSON value. -/
def DispatchResult.toJson (result : DispatchResult) : Json :=
  .object [("method", .string result.method), ("path", .string result.path),
    ("mode", .string result.mode.name), ("found", .bool result.found),
    ("matched", .ofStrings result.matched),
    ("attempts", .array (result.attempts.map AttemptRecord.toJson)),
    ("results", .ofDict result.results), ("backreferences", .array result.backreferences),
    ("handlers", .array (result.handlers.map HandlerCall.toJson))]

namespace DispatchResult

/-- The lines about the attempts. -/
def attemptLines (colours : Bool) (result : DispatchResult) : List String :=
  paint colours .bold "Rules attempted:" :: result.attempts.map fun attempt =>
    "  " ++ (if attempt.matched then paint colours .green "✓" else paint colours .red "✗") ++
      " " ++ attempt.rule

/-- The lines about the captured values. -/
def referenceLines (colours : Bool) (result : DispatchResult) : List String :=
  if result.backreferences.isEmpty then []
  else [paint colours .bold "Backreferences:" ++ " " ++ renderValues result.backreferences]

/-- The lines about the results. -/
def resultLines (colours : Bool) (result : DispatchResult) : List String :=
  if result.results.entries.isEmpty then []
  else paint colours .bold "Results:" :: result.results.entries.map fun (name, value) =>
    "  " ++ paint colours .cyan name ++ " = " ++ renderValue value

/-- The lines about the calls. -/
def callLines (colours : Bool) (result : DispatchResult) : List String :=
  if result.handlers.isEmpty then []
  else paint colours .bold "Handlers:" :: result.handlers.map fun call =>
    "  " ++ paint colours .cyan call.handler ++ "(" ++ renderValues call.backreferences ++ ")"

/-- The lines about what has been found. -/
def foundLines (colours : Bool) (result : DispatchResult) : List String :=
  if result.found then
    (paint colours .bold "Matched:" ++ " " ++
      paint colours .green (", ".intercalate result.matched)) ::
      (result.referenceLines colours ++ result.resultLines colours ++ result.callLines colours)
  else [paint colours .warning "No rule matched"]

/-- All lines. -/
def lines (colours : Bool) (result : DispatchResult) : List String :=
  (paint colours .bold result.method ++ " " ++ result.path ++ " " ++
    paint colours .faint ("(mode: " ++ result.mode.name ++ ")")) :: "" ::
    (result.attemptLines colours ++ "" :: result.foundLines colours)

end DispatchResult

/-- Lines as text. -/
def ofLines (lines : List String) : String := String.join (lines.map (· ++ "\n"))

instance : Presentable DispatchResult where
  toJson := DispatchResult.toJson
  render colours result := ofLines (result.lines colours)

end RequestRouting
