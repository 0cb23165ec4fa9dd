import RequestRouting.Condition.Options
import RequestRouting.Knowledge
import RequestRouting.Url.Pattern

/-!
# Request conditions

A request condition tests the method of a request and matches its path against a URL pattern.

## Main definitions

* `RequestCondition` — the condition.
* `RequestCondition.ofOptions`, `RequestCondition.config` — building and reporting.
* `RequestCondition.evaluate` — the verdict and what it captures.
-/

set_option autoImplicit false

namespace RequestRouting

/-- A pattern text together with its template. -/
structure PathTemplate where
  text : String
  template : Template

/-- A condition on the method and the path of a request. -/
structure RequestCondition where
  /-- The methods, in upper case; any method is accepted if there are none. -/
  methods : List String
  /-- The template of the path. -/
  path : Option PathTemplate

namespace RequestCondition

/-- The tag of the kind. -/
def kind : String := "request"

/-- A condition that accepts every request. -/
def blank : RequestCondition := ⟨[], none⟩

/-- Adds a method. -/
def withMethod (condition : RequestCondition) (method : String) : RequestCondition :=
  { condition with methods := condition.methods ++ [asciiUpper method] }

/-- Sets the template of the path. -/
def withPath (condition : RequestCondition) (text : String) : Except UrlError RequestCondition :=
  (Template.compile text).map fun template => { condition with path := some ⟨text, template⟩ }

/-- The methods of an option. -/
def readMethods : Option (List String) → OptionM (List String)
  | none => return []
  | some methods =>
    if methods.isEmpty then Options.invalid .noMethod else return methods.map asciiUpper

/-- The template of an option. -/
def readPath : Option String → OptionM (Option PathTemplate)
  | none => return none
  | some text =>
    match Template.compile text with
    | .ok template => return some ⟨text, template⟩
    | .error cause => Options.invalid (.badPath cause)

/-- Takes the options of a request condition. -/
def builder : OptionM RequestCondition := do
  let methods ← readMethods (← Options.takeStrings "method")
  let path ← readPath (← Options.takeString "path")
  if methods.isEmpty && path.isNone then Options.invalid .noRequestTest
  Options.finish
  return ⟨methods, path⟩

/-- The condition of a table of options. -/
def ofOptions (fields : List (String × Json)) : Except RuleError RequestCondition :=
  Options.build kind fields builder

/-- The options from which a condition can be built again. -/
def config (condition : RequestCondition) : Json :=
  let methods := if condition.methods.isEmpty then []
    else [("method", Json.ofStrings condition.methods)]
  let path := match condition.path with
    | some path => [("path", Json.string path.text)]
    | none => []
  Json.ofFields ([("type", .string kind)] ++ methods ++ path)

/-- Whether the method of a request is accepted. -/
def acceptsMethod (condition : RequestCondition) (method : String) : Bool :=
  condition.methods.any fun accepted => asciiLower accepted = asciiLower method

/-- A path without its query string. -/
def withoutQuery (path : String) : String :=
  String.ofList (path.toList.takeWhile (· ≠ '?'))

/-- Captures the values of a match, and writes each as a result under its dotted name. -/
def capture (knowledge : Knowledge) (values : List (PropertyPath × String)) : Knowledge :=
  values.foldl (fun acc (path, value) =>
    (acc.addBackreferences [.string value]).setResult path.text (.string value) true) knowledge

/-- The verdict on the path of a request. -/
def evaluatePath (condition : RequestCondition) (knowledge : Knowledge) :
    Except RuleError Bool × Knowledge :=
  match condition.path with
  | none => (.ok true, knowledge)
  | some path =>
    match knowledge.factText Knowledge.pathFact with
    | .error e => (.error e, knowledge)
    | .ok raw =>
      match path.template.match? (withoutQuery raw) with
      | none => (.ok false, knowledge)
      | some found => (.ok true, capture knowledge found.values)

/-- The verdict of a condition. -/
def evaluate (condition : RequestCondition) (knowledge : Knowledge) :
    Except RuleError Bool × Knowledge :=
  if condition.methods.isEmpty then condition.evaluatePath knowledge
  else
    match knowledge.factText Knowledge.methodFact with
    | .error e => (.error e, knowledge)
    | .ok method =>
      if condition.acceptsMethod method then condition.evaluatePath knowledge
      else (.ok false, knowledge)

end RequestCondition

end RequestRouting
