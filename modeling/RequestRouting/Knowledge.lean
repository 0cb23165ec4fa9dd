import RequestRouting.Request.Identity
import RequestRouting.Request.Parameters
import RequestRouting.Rule.Error
import RequestRouting.Scalar

/-!
# Knowledge

What is known in one dispatch cycle: the facts of the request, who makes it and with which
parameters, and the output of the rules that have matched.  While a rule is attempted its
conditions write into a layer of their own, which is merged into the committed output if the rule
matches and thrown away if not.

## Main definitions

* `Layer` — results, backreferences and fact extractors.
* `Extraction` — a run of an extractor.
* `Knowledge` — facts, the committed layer, and the staged one while a transaction is open.
* `Knowledge.begin`, `Knowledge.commit`, `Knowledge.rollback` — transactions.
* `Savepoint`, `Knowledge.savepoint`, `Knowledge.rollbackTo` — partial rollback.
* `Knowledge.runExtractor`, `Knowledge.extractFacts` — derives facts from committed results.
-/

set_option autoImplicit false

namespace RequestRouting

/-- A function from results to the facts that follow from them. -/
abbrev Extractor := Dict Json → Dict Json

/-- The output of conditions and actions. -/
structure Layer where
  /-- Named results. -/
  results : Dict Json
  /-- Captured values, in the order of capture. -/
  backreferences : List Json
  /-- Functions that will derive facts from the results. -/
  extractors : List Extractor

namespace Layer

/-- No output. -/
def empty : Layer := ⟨.empty, [], []⟩

instance : Inhabited Layer := ⟨empty⟩

/-- Writes a result. -/
def setResult (layer : Layer) (name : String) (value : Json) : Layer :=
  { layer with results := layer.results.insert name value }

/-- Appends captured values. -/
def addBackreferences (layer : Layer) (values : List Json) : Layer :=
  { layer with backreferences := layer.backreferences ++ values }

/-- Appends an extractor. -/
def addExtractor (layer : Layer) (extractor : Extractor) : Layer :=
  { layer with extractors := layer.extractors ++ [extractor] }

/-- Adds the output of a later layer. -/
def merge (layer later : Layer) : Layer :=
  ⟨layer.results.overlay later.results.entries,
    layer.backreferences ++ later.backreferences,
    layer.extractors ++ later.extractors⟩

end Layer

/-- A run of an extractor over some results. -/
structure Extraction where
  extractor : Extractor
  results : Dict Json

/-- The facts that a run gives. -/
def Extraction.output (extraction : Extraction) : Dict Json :=
  extraction.extractor extraction.results

/-- What is known in one dispatch cycle. -/
structure Knowledge where
  /-- The facts of the request; they never change. -/
  facts : Dict Json
  /-- The facts that extractors have derived. -/
  derived : Dict Json
  /-- The output of the rules that have matched. -/
  committed : Layer
  /-- The output of the rule that is being attempted. -/
  staged : Option Layer
  /-- The parameters of the request, if they are known.  Sources of parameters that are not the
  library's own are not covered. -/
  parameters : Option Parameters
  /-- Who makes the request, if that is known.  Providers of identities that are not the library's
  own are not covered. -/
  identity : Option Identity
  /-- The runs of extractors so far, in order.  They are kept for the record, and nothing depends on
  them. -/
  runs : List Extraction
  deriving Inhabited

/-- A state of the active layer to which one can return. -/
structure Savepoint where
  /-- Whether the active layer was the staged one. -/
  inTransaction : Bool
  /-- The results of that layer. -/
  results : Dict Json
  /-- The number of its captured values. -/
  backreferences : Nat
  /-- The number of its extractors. -/
  extractors : Nat

namespace Knowledge

/-- The fact that holds the method of a request. -/
def methodFact : String := "method"

/-- The fact that holds the path of a request. -/
def pathFact : String := "path"

/-- The fact that holds the path behind the script that serves a request. -/
def extraPathFact : String := "extra_path"

/-- The result that holds the identity that a condition has accepted. -/
def identityResult : String := "identity"

/-- Nothing is known. -/
def empty : Knowledge := ⟨.empty, .empty, .empty, none, none, none, []⟩

/-- Knowledge of some facts only. -/
def ofFacts (facts : Dict Json) : Knowledge := { empty with facts := facts }

/-- Adds a fact of the request. -/
def withFact (knowledge : Knowledge) (name : String) (value : Json) : Knowledge :=
  { knowledge with facts := knowledge.facts.insert name value }

/-- Knowledge of the method and the path of a request. -/
def forRequest (method path : String) : Knowledge :=
  (empty.withFact methodFact (.string method)).withFact pathFact (.string path)

/-- Adds facts of the request. -/
def withFacts (knowledge : Knowledge) (facts : List (String × Json)) : Knowledge :=
  { knowledge with facts := knowledge.facts.overlay facts }

/-! ## Facts -/

/-- The value of a fact, of the request or derived. -/
def fact? (knowledge : Knowledge) (name : String) : Option Json :=
  (knowledge.facts.get? name).or (knowledge.derived.get? name)

/-- The value of a fact that has to be there. -/
def fact (knowledge : Knowledge) (name : String) : Except RuleError Json :=
  match knowledge.fact? name with
  | some value => .ok value
  | none => .error (.missingFact name)

/-- The value of a fact, or a default if there is none. -/
def optionalFact (knowledge : Knowledge) (name : String) (default : Json) : Json :=
  match knowledge.fact name with
  | .ok value => value
  | .error _ => default

/-- The text of a fact that has to be a scalar. -/
def factText (knowledge : Knowledge) (name : String) : Except RuleError String :=
  match knowledge.fact name with
  | .error e => .error e
  | .ok value =>
    match value.display? with
    | some text => .ok text
    | none => .error (.invalidFact name)

/-- Whether a fact is known. -/
def hasFact (knowledge : Knowledge) (name : String) : Bool := (knowledge.fact? name).isSome

/-! ## Output -/

/-- Whether a rule is being attempted. -/
def inTransaction (knowledge : Knowledge) : Bool := knowledge.staged.isSome

/-- The layer that conditions write to: the staged one, or the committed one outside of
transactions. -/
def active (knowledge : Knowledge) : Layer := knowledge.staged.getD knowledge.committed

/-- Changes the layer that conditions write to. -/
def mapActive (knowledge : Knowledge) (change : Layer → Layer) : Knowledge :=
  match knowledge.staged with
  | some layer => { knowledge with staged := some (change layer) }
  | none => { knowledge with committed := change knowledge.committed }

/-- Changes the committed layer. -/
def mapCommitted (knowledge : Knowledge) (change : Layer → Layer) : Knowledge :=
  { knowledge with committed := change knowledge.committed }

/-- Writes a result.  A speculative one goes to the active layer, any other is committed. -/
def setResult (knowledge : Knowledge) (name : String) (value : Json) (speculative : Bool) :
    Knowledge :=
  if speculative then knowledge.mapActive (·.setResult name value)
  else knowledge.mapCommitted (·.setResult name value)

/-- A committed result. -/
def result? (knowledge : Knowledge) (name : String) : Option Json :=
  knowledge.committed.results.get? name

/-- A staged result, or the committed one of that name. -/
def stagedResult? (knowledge : Knowledge) (name : String) : Option Json :=
  (knowledge.staged.bind fun layer => layer.results.get? name).or (knowledge.result? name)

/-- Appends captured values to the active layer. -/
def addBackreferences (knowledge : Knowledge) (values : List Json) : Knowledge :=
  knowledge.mapActive (·.addBackreferences values)

/-- The captured values of the open transaction. -/
def stagedBackreferences (knowledge : Knowledge) : List Json :=
  (knowledge.staged.map Layer.backreferences).getD []

/-- Registers an extractor.  A speculative one goes to the active layer, any other is committed. -/
def addExtractor (knowledge : Knowledge) (extractor : Extractor) (speculative : Bool) :
    Knowledge :=
  if speculative then knowledge.mapActive (·.addExtractor extractor)
  else knowledge.mapCommitted (·.addExtractor extractor)

/-! ## Transactions -/

/-- Opens a transaction; an unfinished one is thrown away. -/
def begin (knowledge : Knowledge) : Knowledge := { knowledge with staged := some .empty }

/-- Merges the staged layer into the committed one, and returns the captured values that it had. -/
def commit (knowledge : Knowledge) : List Json × Knowledge :=
  match knowledge.staged with
  | none => ([], knowledge)
  | some layer =>
    (layer.backreferences,
      { knowledge with committed := knowledge.committed.merge layer, staged := none })

/-- Throws the staged layer away. -/
def rollback (knowledge : Knowledge) : Knowledge := { knowledge with staged := none }

/-! ## Partial rollback -/

/-- The present state of the active layer. -/
def savepoint (knowledge : Knowledge) : Savepoint :=
  ⟨knowledge.inTransaction, knowledge.active.results, knowledge.active.backreferences.length,
    knowledge.active.extractors.length⟩

/-- Takes a layer back to a savepoint. -/
def rewind (savepoint : Savepoint) (layer : Layer) : Layer :=
  ⟨savepoint.results, layer.backreferences.take savepoint.backreferences,
    layer.extractors.take savepoint.extractors⟩

/-- Takes the active layer back to a savepoint.  A savepoint of the staged layer has no effect
outside of transactions, and one of the committed layer has none inside. -/
def rollbackTo (knowledge : Knowledge) (savepoint : Savepoint) : Knowledge :=
  if savepoint.inTransaction = knowledge.inTransaction then knowledge.mapActive (rewind savepoint)
  else knowledge

/-! ## Derived facts -/

/-- Adds derived facts; a fact of the request is never replaced. -/
def addDerived (facts derived : Dict Json) (news : List (String × Json)) : Dict Json :=
  news.foldl (fun acc (name, value) => if facts.has name then acc else acc.insert name value)
    derived

/-- Runs an extractor over the committed results. -/
def runExtractor (knowledge : Knowledge) (extractor : Extractor) : Knowledge :=
  let extraction : Extraction := ⟨extractor, knowledge.committed.results⟩
  { knowledge with
    derived := addDerived knowledge.facts knowledge.derived extraction.output.entries
    runs := knowledge.runs ++ [extraction] }

/-- Runs the committed extractors one after another, and forgets them afterwards if `clear` is
set. -/
def extractFacts (knowledge : Knowledge) (clear : Bool) : Knowledge :=
  let ran := knowledge.committed.extractors.foldl runExtractor knowledge
  if clear then ran.mapCommitted fun layer => { layer with extractors := [] } else ran

end Knowledge

end RequestRouting
