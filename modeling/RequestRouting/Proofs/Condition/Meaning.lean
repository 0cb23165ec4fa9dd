import Mathlib.Tactic.Lemma
import RequestRouting.Condition.Registry

/-!
# What conditions mean

A reading of condition trees that knows nothing of layers, transactions and savepoints.  It maps
the evidence, which is all that conditions may look at, to an error, to a refusal, or to a match
with an output: the captured values and the results to write, in order.

## Main definitions

* `Evidence` — facts, derived facts, parameters and identity; `Knowledge.evidence`.
* `Output`, `Verdict` — what a match leaves behind, and what conditions answer.
* `Verdict.all`, `Verdict.any`, `Verdict.negate` — conjunction, choice and negation of verdicts.
* `Condition.meaning` — the reading of a tree; `Condition.allMean` — the reading of a list of
  conditions as a conjunction.
* `Condition.Native` — the trees without conditions from outside of the library.
* `Evidence.Lacks` — a fact that is needed is absent or is no scalar.

## Main results

* `Condition.Native.failsFor` — the reading fails only over the method, the path or
  the extra path, and only if that fact is absent or no scalar.
-/

set_option autoImplicit false

namespace RequestRouting

/-! ## Evidence and verdicts -/

/-- All that conditions may look at. -/
structure Evidence where
  facts : Dict Json
  derived : Dict Json
  parameters : Option Parameters
  identity : Option Identity

/-- The evidence in a state of knowledge. -/
def Knowledge.evidence (knowledge : Knowledge) : Evidence :=
  ⟨knowledge.facts, knowledge.derived, knowledge.parameters, knowledge.identity⟩

namespace Evidence

/-- A fact, of the request or derived. -/
def fact? (evidence : Evidence) (name : String) : Option Json :=
  (evidence.facts.get? name).or (evidence.derived.get? name)

/-- The text of a fact that has to be there and to be a scalar. -/
def text (evidence : Evidence) (name : String) : Except RuleError String :=
  match evidence.fact? name with
  | none => .error (.missingFact name)
  | some value =>
    match value.display? with
    | none => .error (.invalidFact name)
    | some text => .ok text

/-- A fact that is needed is absent, or is null or a container; and the error says which. -/
inductive Lacks (evidence : Evidence) (name : String) : RuleError → Prop where
  | absent (h : evidence.fact? name = none) : Lacks evidence name (.missingFact name)
  | noScalar (value : Json) (h : evidence.fact? name = some value) (h' : value.display? = none) :
    Lacks evidence name (.invalidFact name)

/-- The text of a fact is refused only where the fact is lacking. -/
lemma lacks_of_text {evidence : Evidence} {name : String} {e : RuleError}
    (h : evidence.text name = .error e) : evidence.Lacks name e := by
  unfold text at h
  split at h
  · next hfact =>
    cases h
    exact .absent hfact
  · next value hfact =>
    split at h
    · next hdisplay =>
      cases h
      exact .noScalar value hfact hdisplay
    · cases h

/-- So is anything that is made of the text. -/
lemma lacks_of_map_text {α : Type} {evidence : Evidence} {name : String} {e : RuleError}
    {f : String → α} (h : (evidence.text name).map f = .error e) : evidence.Lacks name e := by
  cases htext : evidence.text name with
  | error e' =>
    rw [htext] at h
    cases h
    exact lacks_of_text htext
  | ok text =>
    rw [htext] at h
    cases h

end Evidence

/-- What a match leaves behind. -/
structure Output where
  /-- Captured values, in the order of capture. -/
  backreferences : List Json
  /-- Results to write, one after another. -/
  results : List (String × Json)

namespace Output

/-- Nothing. -/
def none : Output := ⟨[], []⟩

/-- One output after another. -/
def append (first second : Output) : Output :=
  ⟨first.backreferences ++ second.backreferences, first.results ++ second.results⟩

end Output

/-- What conditions answer: an error, a refusal, or a match with its output. -/
abbrev Verdict := Except RuleError (Option Output)

namespace Verdict

/-- A match without output, or a refusal. -/
def ofBool (isMatch : Bool) : Verdict := .ok (if isMatch then some .none else none)

/-- A match with captured values, or a refusal. -/
def ofCaptures (captures : Option (List Json)) : Verdict :=
  .ok (captures.map fun values => ⟨values, []⟩)

/-- The conjunction of verdicts: the outputs of all of them one after another, up to the first
refusal or error. -/
def all : List Verdict → Verdict
  | [] => .ok (some .none)
  | .error e :: _ => .error e
  | .ok none :: _ => .ok none
  | .ok (some output) :: rest => (all rest).map fun answer => answer.map output.append

/-- The choice among verdicts: the output of the first match, unless an error comes before it. -/
def any : List Verdict → Verdict
  | [] => .ok none
  | .error e :: _ => .error e
  | .ok none :: rest => any rest
  | .ok (some output) :: _ => .ok (some output)

/-- The negation of a verdict, which has no output. -/
def negate : Verdict → Verdict
  | .error e => .error e
  | .ok none => .ok (some .none)
  | .ok (some _) => .ok none

end Verdict

/-! ## Leaves -/

namespace UrlPathCondition

/-- The path that a condition looks at. -/
def subjectIn (condition : UrlPathCondition) (evidence : Evidence) : Except RuleError String :=
  match condition.source with
  | .request => evidence.text Knowledge.pathFact
  | .extra => (evidence.text Knowledge.extraPathFact).map fun text =>
      String.ofList (trimText condition.delimiter.toList text.toList)

/-- What the pattern of the whole path captures. -/
def wholeCaptures (condition : UrlPathCondition) (subject : String) : Option (List Json) :=
  match condition.pattern with
  | none => some []
  | some regex => (regex.captures? subject).map groupValues

/-- What the pattern of a chunk captures. -/
def chunkCaptures (chunks : List String) (entry : Int × Regex.Compiled) : Option (List Json) := do
  let position ← resolveChunkIndex entry.1 chunks.length
  let chunk ← chunks[position]?
  let groups ← entry.2.captures? chunk
  some (chunkValues entry.2 chunk groups)

/-- What the patterns of chunks capture, one after another. -/
def allChunkCaptures (chunks : List String) (entries : List (Int × Regex.Compiled)) :
    Option (List Json) :=
  (entries.mapM (chunkCaptures chunks)).map List.flatten

/-- What a condition captures of a path: the groups of the whole pattern, then those of the chunks
in the order of their indices. -/
def capturesIn (condition : UrlPathCondition) (subject : String) : Option (List Json) :=
  (condition.wholeCaptures subject).bind fun whole =>
    (allChunkCaptures (condition.chunksOf subject) condition.chunks).map (whole ++ ·)

/-- The reading of a path condition. -/
def meaning (condition : UrlPathCondition) (evidence : Evidence) : Verdict :=
  match condition.subjectIn evidence with
  | .error e => .error e
  | .ok subject => .ofCaptures (condition.capturesIn subject)

end UrlPathCondition

/-- What a test captures of the value of a parameter. -/
def ParamOperator.capturesIn (value : Json) : ParamOperator → Option (List Json)
  | .isSet => some []
  | .isNumeric => if value.isNumeric then some [] else none
  | .equal expected => if looseEq value expected then some [] else none
  | .regexp regex => (value.display?.bind regex.captures?).map UrlPathCondition.groupValues

/-- The reading of a parameter condition. -/
def UrlParamsCondition.meaning (condition : UrlParamsCondition) (evidence : Evidence) : Verdict :=
  .ofCaptures do
    let parameters ← evidence.parameters
    let value ← parameters.get? condition.name condition.scope
    condition.operator.capturesIn value

/-- The reading of an authentication condition: the identity that it accepts becomes a result. -/
def AuthenticationCondition.meaning (condition : AuthenticationCondition) (evidence : Evidence) :
    Verdict :=
  match evidence.identity.bind fun identity => identity.current.map (identity, ·) with
  | none => .ofBool (condition = .isAnonymous)
  | some (identity, current) =>
    .ok (if condition.accepts identity current then
      some ⟨[], [(Knowledge.identityResult, .string current)]⟩ else none)

namespace RequestCondition

/-- Whether the method of a request is accepted; it is looked at only if it matters. -/
def methodIn (condition : RequestCondition) (evidence : Evidence) : Except RuleError Bool :=
  if condition.methods.isEmpty then .ok true
  else (evidence.text Knowledge.methodFact).map condition.acceptsMethod

/-- The output of a match of a path: every value is captured, and written under its name. -/
def outputOf (found : PatternMatch) : Output :=
  ⟨found.values.map fun entry => .string entry.2,
    found.values.map fun entry => (entry.1.text, .string entry.2)⟩

/-- The reading of the path of a request condition. -/
def pathMeaning (condition : RequestCondition) (evidence : Evidence) : Verdict :=
  match condition.path with
  | none => .ofBool true
  | some path => (evidence.text Knowledge.pathFact).map fun raw =>
      (path.template.match? (withoutQuery raw)).map outputOf

/-- The reading of a request condition. -/
def meaning (condition : RequestCondition) (evidence : Evidence) : Verdict :=
  match condition.methodIn evidence with
  | .error e => .error e
  | .ok false => .ofBool false
  | .ok true => condition.pathMeaning evidence

end RequestCondition

/-! ## Trees -/

namespace Condition

mutual

/-- The reading of a condition.  Conditions from outside of the library count as refusing. -/
def meaning : Condition → Evidence → Verdict
  | .urlPath condition, evidence => condition.meaning evidence
  | .urlParams condition, evidence => condition.meaning evidence
  | .authentication condition, evidence => condition.meaning evidence
  | .request condition, evidence => condition.meaning evidence
  | .bool .and conditions, evidence => .all (meanings conditions evidence)
  | .bool .or conditions, evidence => .any (meanings conditions evidence)
  | .bool .not conditions, evidence => .negate (.all (meanings conditions evidence))
  | .custom _, _ => .ofBool false

/-- The readings of a list of conditions. -/
def meanings : List Condition → Evidence → List Verdict
  | [], _ => []
  | condition :: rest, evidence => meaning condition evidence :: meanings rest evidence

end

/-- The readings of a list are those of its members. -/
lemma meanings_eq_map (conditions : List Condition) (evidence : Evidence) :
    meanings conditions evidence = conditions.map fun condition => condition.meaning evidence := by
  induction conditions with
  | nil => rfl
  | cons condition rest ih => simp only [meanings, List.map_cons, ih]

/-- The reading of a list of conditions as a conjunction. -/
def allMean (conditions : List Condition) (evidence : Evidence) : Verdict :=
  .all (meanings conditions evidence)

/-- A tree without conditions from outside of the library. -/
inductive Native : Condition → Prop where
  | urlPath (condition : UrlPathCondition) : Native (.urlPath condition)
  | urlParams (condition : UrlParamsCondition) : Native (.urlParams condition)
  | authentication (condition : AuthenticationCondition) : Native (.authentication condition)
  | request (condition : RequestCondition) : Native (.request condition)
  | bool (operator : BoolOperator) (conditions : List Condition)
      (h : ∀ condition ∈ conditions, Native condition) : Native (.bool operator conditions)

/-! ## Where the reading fails -/

end Condition

namespace Verdict

/-- A conjunction fails with the error of one of its members. -/
lemma mem_of_all_eq_error {verdicts : List Verdict} {e : RuleError}
    (h : all verdicts = .error e) : .error e ∈ verdicts := by
  fun_induction all verdicts with
  | case1 => cases h
  | case2 e' rest =>
    cases h
    exact List.mem_cons_self ..
  | case3 rest => cases h
  | case4 output rest ih =>
    cases hrest : all rest with
    | error e' =>
      rw [hrest] at h
      cases h
      exact List.mem_cons_of_mem _ (ih hrest)
    | ok answer =>
      rw [hrest] at h
      cases h

/-- A choice fails with the error of one of its members. -/
lemma mem_of_any_eq_error {verdicts : List Verdict} {e : RuleError}
    (h : any verdicts = .error e) : .error e ∈ verdicts := by
  fun_induction any verdicts with
  | case1 => cases h
  | case2 e' rest =>
    cases h
    exact List.mem_cons_self ..
  | case3 rest ih => exact List.mem_cons_of_mem _ (ih h)
  | case4 output rest => cases h

/-- A negation fails with the error of what it negates. -/
lemma eq_error_of_negate {verdict : Verdict} {e : RuleError} (h : verdict.negate = .error e) :
    verdict = .error e := by
  rcases verdict with e' | _ | output <;> simp_all [negate]

end Verdict

/-- The facts that conditions may need. -/
def neededFacts : List String :=
  [Knowledge.methodFact, Knowledge.pathFact, Knowledge.extraPathFact]

/-- A reading fails only over a needed fact that is lacking. -/
def Verdict.FailsFor (evidence : Evidence) (verdict : Verdict) : Prop :=
  ∀ e, verdict = .error e → ∃ name ∈ neededFacts, evidence.Lacks name e

namespace UrlPathCondition

/-- A path condition fails only over its path. -/
lemma failsFor (condition : UrlPathCondition) (evidence : Evidence) :
    (condition.meaning evidence).FailsFor evidence := by
  intro e h
  unfold meaning at h
  split at h
  · next e' hsubject =>
    cases h
    unfold subjectIn at hsubject
    split at hsubject
    · exact ⟨Knowledge.pathFact, by simp [neededFacts], Evidence.lacks_of_text hsubject⟩
    · exact ⟨Knowledge.extraPathFact, by simp [neededFacts], Evidence.lacks_of_map_text hsubject⟩
  · cases h

end UrlPathCondition

namespace RequestCondition

/-- A request condition fails only over the method or the path. -/
lemma failsFor (condition : RequestCondition) (evidence : Evidence) :
    (condition.meaning evidence).FailsFor evidence := by
  intro e h
  unfold meaning at h
  split at h
  · next e' hmethod =>
    cases h
    unfold methodIn at hmethod
    split at hmethod
    · cases hmethod
    · exact ⟨Knowledge.methodFact, by simp [neededFacts], Evidence.lacks_of_map_text hmethod⟩
  · cases h
  · unfold pathMeaning at h
    split at h
    · cases h
    · exact ⟨Knowledge.pathFact, by simp [neededFacts], Evidence.lacks_of_map_text h⟩

end RequestCondition

namespace Condition

/-- A conjunction of readings fails only as its members do. -/
lemma failsFor_all {conditions : List Condition} {evidence : Evidence}
    (h : ∀ condition ∈ conditions, (condition.meaning evidence).FailsFor evidence) :
    (allMean conditions evidence).FailsFor evidence := by
  intro e he
  have hmem := Verdict.mem_of_all_eq_error he
  rw [meanings_eq_map] at hmem
  obtain ⟨condition, hcondition, hmeaning⟩ := List.mem_map.1 hmem
  exact h condition hcondition e hmeaning

/-- **The reading of a native tree fails only over the method, the path or the extra path**, and
only if that fact is absent or no scalar.

**Proof sketch.** Induction on the tree.  Parameter and authentication conditions never fail, path
and request conditions fail where they read a text, and a Boolean node fails with the error of one
of its parts. -/
theorem Native.failsFor {condition : Condition} (h : condition.Native) (evidence : Evidence) :
    (condition.meaning evidence).FailsFor evidence := by
  induction h with
  | urlPath condition => exact condition.failsFor evidence
  | urlParams condition =>
    intro e he
    cases he
  | authentication condition =>
    intro e he
    simp only [meaning, AuthenticationCondition.meaning] at he
    split at he <;> cases he
  | request condition => exact condition.failsFor evidence
  | bool operator conditions _ ih =>
    intro e he
    cases operator with
    | and => exact failsFor_all ih e he
    | or =>
      have hmem := Verdict.mem_of_any_eq_error he
      rw [meanings_eq_map] at hmem
      obtain ⟨condition, hcondition, hmeaning⟩ := List.mem_map.1 hmem
      exact ih condition hcondition e hmeaning
    | not => exact failsFor_all ih e (Verdict.eq_error_of_negate he)

/-- The reading of a list of native trees as a conjunction fails only as its members do. -/
theorem failsFor_allMean {conditions : List Condition}
    (h : ∀ condition ∈ conditions, condition.Native) (evidence : Evidence) :
    (allMean conditions evidence).FailsFor evidence :=
  failsFor_all fun condition hcondition => (h condition hcondition).failsFor evidence

end Condition

end RequestRouting
