import RequestRouting.Proofs.Condition.Construction
import RequestRouting.Proofs.Condition.Evaluation
import RequestRouting.Proofs.Url.Caching

/-!
# What is built can be evaluated

Whatever can be wrong with a condition is found when it is built.  All patterns and templates of a
built condition are compiled, delimiters are not empty and indices are in range; so evaluation fails
only over the facts of the request.

## Main definitions

* `UrlPathCondition.Sound`, `UrlParamsCondition.Sound`, `RequestCondition.Sound`, `Condition.Sound`
  — nothing is wrong with a condition.
* `Knowledge.Permits` — what an evaluation may answer on some knowledge.
* `RequestCondition.evaluatePathWith` — the verdict on a path by a pattern that is compiled late.

## Main results

* `Condition.Registered.sound` — nothing is wrong with a condition of the registry.
* `Condition.Native.permits` — an evaluation fails only over a fact of the request.
* `RequestCondition.Sound.evaluatePathWith_eq` — that the pattern of a built condition may be
  compiled late makes no difference.
-/

set_option autoImplicit false

namespace RequestRouting

open Options

/-! ## Sound conditions -/

/-- A compiled pattern is what its text compiles to. -/
def Regex.Compiled.Genuine (regex : Regex.Compiled) : Prop :=
  Regex.compile regex.source = .ok regex

/-- What is compiled is genuine. -/
lemma Regex.genuine_of_compile {pattern : String} {regex : Regex.Compiled}
    (h : Regex.compile pattern = .ok regex) : regex.Genuine := by
  unfold Compiled.Genuine
  rwa [Regex.source_of_compile h]

/-- Nothing is wrong with a path condition: its patterns are compiled, its delimiter is not empty,
the indices of its chunks are in range and in order, and it tests something. -/
structure UrlPathCondition.Sound (condition : UrlPathCondition) : Prop where
  delimiter : condition.delimiter ≠ ""
  pattern : ∀ regex ∈ condition.pattern, regex.Genuine
  chunks : ∀ chunk ∈ condition.chunks, IndexInRange chunk.1 ∧ chunk.2.Genuine
  sorted : SortedChunks condition.chunks
  tests : condition.pattern ≠ none ∨ condition.chunks ≠ []

/-- Nothing is wrong with a parameter condition: its pattern is compiled, and it compares with no
null. -/
structure UrlParamsCondition.Sound (condition : UrlParamsCondition) : Prop where
  pattern : ∀ regex, condition.operator = .regexp regex → regex.Genuine
  value : condition.operator ≠ .equal .null

/-- Nothing is wrong with a request condition: its template is compiled, and it tests something. -/
structure RequestCondition.Sound (condition : RequestCondition) : Prop where
  path : ∀ path ∈ condition.path, Template.compile path.text = .ok path.template
  tests : condition.methods ≠ [] ∨ condition.path ≠ none

/-- Nothing is wrong with a condition: it is native, and nothing is wrong with any of its leaves. -/
inductive Condition.Sound : Condition → Prop where
  | urlPath {condition : UrlPathCondition} (h : condition.Sound) : Sound (.urlPath condition)
  | urlParams {condition : UrlParamsCondition} (h : condition.Sound) : Sound (.urlParams condition)
  | authentication (condition : AuthenticationCondition) : Sound (.authentication condition)
  | request {condition : RequestCondition} (h : condition.Sound) : Sound (.request condition)
  | bool (operator : BoolOperator) {conditions : List Condition} (some : conditions ≠ [])
      (parts : ∀ condition ∈ conditions, Sound condition) : Sound (.bool operator conditions)

variable {fields : List (String × Json)}

/-- A pattern that has been read is genuine. -/
lemma UrlPathCondition.genuine_of_reads {found : Option Json} {pattern : Option Regex.Compiled}
    (h : Reads Compiles none found pattern) : ∀ regex ∈ pattern, regex.Genuine := by
  obtain _ | ⟨regex, hcompile, rfl⟩ := h
  · simp
  · simpa using Regex.genuine_of_compile hcompile

/-- What options spell is sound. -/
lemma UrlPathCondition.SpeltBy.sound {condition : UrlPathCondition} (h : condition.SpeltBy fields) :
    condition.Sound := by
  obtain ⟨-, -, hdelimiter, hpattern, ⟨read, hread, hkept⟩, hsome⟩ := h
  refine ⟨delimiter_ne_empty hdelimiter, genuine_of_reads hpattern, fun chunk hchunk => ?_,
    hkept ▸ sorted_insertChunks read, hsome⟩
  rw [hkept] at hchunk
  obtain ⟨field, -, hname, pattern, -, hcompile⟩ :=
    exists_mem_of_forall₂ hread.flip (mem_insertChunks hchunk)
  exact ⟨hname.inRange, Regex.genuine_of_compile hcompile⟩

/-- What options spell is sound. -/
lemma UrlParamsCondition.SpeltBy.sound {condition : UrlParamsCondition}
    (h : condition.SpeltBy fields) : condition.Sound := by
  obtain ⟨-, -, -, name, -, htest⟩ := h
  generalize Fields.get? "value" fields = value at htest
  refine ⟨fun regex hregex => ?_, fun hnull => ?_⟩
  · rw [hregex] at htest
    obtain _ | _ | _ | hcompile := htest
    exact Regex.genuine_of_compile hcompile
  · rw [hnull] at htest
    obtain _ | _ | ⟨_, hne⟩ := htest
    exact hne rfl

/-- What options spell is sound. -/
lemma RequestCondition.SpeltBy.sound {condition : RequestCondition} (h : condition.SpeltBy fields) :
    condition.Sound := by
  obtain ⟨-, -, hpath, hsome⟩ := h
  generalize Fields.get? "path" fields = found at hpath
  refine ⟨?_, hsome⟩
  generalize condition.path = read at hpath
  obtain _ | ⟨template, hcompile, rfl⟩ := hpath
  · simp
  · simpa using hcompile

namespace ConditionRegistry

/-- What a constructor of the library builds is sound, if those parts are that the inner constructor
builds. -/
lemma sound_of_constructWith {inner : Table → Except RuleError Condition}
    (h : ∀ table condition, inner table = .ok condition → condition.Sound)
    {tag : String} {options : Table} {condition : Condition}
    (hbuilt : builtins.constructWith inner tag options = .ok condition) : condition.Sound := by
  unfold constructWith at hbuilt
  split at hbuilt
  · next factory hfactory =>
    have hmem := Dict.mem_of_get?_ofList hfactory
    simp only [List.mem_cons, Prod.mk.injEq, List.not_mem_nil, or_false] at hmem
    obtain ⟨-, rfl⟩ | ⟨-, rfl⟩ | ⟨-, rfl⟩ | ⟨-, rfl⟩ | ⟨-, rfl⟩ := hmem
    · obtain ⟨leaf, hleaf, rfl⟩ := exists_of_map_eq_ok hbuilt
      exact .urlPath (UrlPathCondition.ofOptions_eq_ok.1 hleaf).sound
    · obtain ⟨leaf, hleaf, rfl⟩ := exists_of_map_eq_ok hbuilt
      exact .urlParams (UrlParamsCondition.ofOptions_eq_ok.1 hleaf).sound
    · obtain ⟨leaf, -, rfl⟩ := exists_of_map_eq_ok hbuilt
      exact .authentication leaf
    · obtain ⟨-, operator, tables, conditions, hspelt, hparts, rfl⟩ := boolFactory_eq_ok.1 hbuilt
      refine .bool operator ?_ fun condition hcondition => ?_
      · rintro rfl
        exact hspelt.some (List.forall₂_nil_right_iff.1 hparts)
      · obtain ⟨table, -, htable⟩ := exists_mem_of_forall₂ hparts.flip hcondition
        exact h table condition htable
    · obtain ⟨leaf, hleaf, rfl⟩ := exists_of_map_eq_ok hbuilt
      exact .request (RequestCondition.ofOptions_eq_ok.1 hleaf).sound
  · cases hbuilt

/-- What the registry of the library builds of a table is sound, with whatever fuel.

**Proof sketch.** Induction on the fuel: the parts of a Boolean condition are built with less. -/
lemma sound_of_constructLevels (fuel : Nat) (table : Table) (condition : Condition)
    (h : builtins.constructLevels fuel table = .ok condition) : condition.Sound := by
  induction fuel generalizing table condition with
  | zero => exact absurd h constructLevels_zero
  | succ fuel ih =>
    obtain ⟨tag, -, h⟩ := constructLevels_eq_ok.1 h
    exact sound_of_constructWith ih h

end ConditionRegistry

/-- **Nothing is wrong with what the registry of the library has built.** -/
theorem Condition.Registered.sound {condition : Condition} (h : condition.Registered) :
    condition.Sound := by
  cases h with
  | ofTable table h => exact ConditionRegistry.sound_of_constructLevels _ table condition h
  | ofTag tag options h =>
    exact ConditionRegistry.sound_of_constructWith
      (ConditionRegistry.sound_of_constructLevels _) h

/-! ## What an evaluation answers -/

/-- A value that has no text: null, an array or an object. -/
inductive Json.Textless : Json → Prop where
  | null : Textless .null
  | array (items : List Json) : Textless (.array items)
  | object (fields : List (String × Json)) : Textless (.object fields)

/-- A value without a printed text is no scalar. -/
lemma Json.textless_of_display? {value : Json} (h : value.display? = none) : value.Textless := by
  cases value with
  | null => exact .null
  | array items => exact .array items
  | object fields => exact .object fields
  | _ => cases h

/-- What an evaluation may answer: a verdict, or that the method, the path or the extra path is
absent or no scalar, where it is. -/
inductive Knowledge.Permits (knowledge : Knowledge) : Except RuleError Bool → Prop where
  | verdict (isMatch : Bool) : Permits knowledge (.ok isMatch)
  | missing {name : String} (needed : name ∈ neededFacts) (absent : knowledge.fact? name = none) :
    Permits knowledge (.error (.missingFact name))
  | invalid {name : String} {value : Json} (needed : name ∈ neededFacts)
      (present : knowledge.fact? name = some value) (textless : value.Textless) :
    Permits knowledge (.error (.invalidFact name))

/-- An evaluation may fail over a needed fact that is lacking. -/
lemma Knowledge.permits_of_lacks {knowledge : Knowledge} {name : String} {e : RuleError}
    (needed : name ∈ neededFacts) (h : knowledge.evidence.Lacks name e) :
    knowledge.Permits (.error e) := by
  cases h with
  | absent h => exact .missing needed h
  | noScalar value h hdisplay => exact .invalid needed h (Json.textless_of_display? hdisplay)

namespace Condition

/-- A sound condition is native. -/
lemma Sound.native {condition : Condition} (h : condition.Sound) : condition.Native := by
  induction h with
  | urlPath => exact .urlPath _
  | urlParams => exact .urlParams _
  | authentication condition => exact .authentication condition
  | request => exact .request _
  | bool operator _ _ ih => exact .bool operator _ ih

/-- **An evaluation fails only over the facts of the request.**

**Proof sketch.** It answers what the reading of the condition answers, and a reading fails only
over the method, the path or the extra path. -/
theorem Native.permits {condition : Condition} (h : condition.Native) (knowledge : Knowledge) :
    knowledge.Permits (condition.evaluate knowledge).1 := by
  rw [(h.follows knowledge).fst_eq]
  cases hmeaning : condition.meaning knowledge.evidence with
  | error e =>
    obtain ⟨name, needed, hlacks⟩ := h.failsFor knowledge.evidence e hmeaning
    exact Knowledge.permits_of_lacks needed hlacks
  | ok answer => exact .verdict answer.isSome

end Condition

/-! ## Patterns that are compiled late -/

namespace RequestCondition

/-- The verdict on the path of a request, by a pattern that is compiled now if it has not been
before. -/
def evaluatePathWith (cached : CachedPattern) (knowledge : Knowledge) :
    Except RuleError Bool × Knowledge :=
  match knowledge.factText Knowledge.pathFact with
  | .error e => (.error e, knowledge)
  | .ok raw =>
    match (cached.match? (withoutQuery raw)).1 with
    | .error cause => (.error (.url cause), knowledge)
    | .ok none => (.ok false, knowledge)
    | .ok (some found) => (.ok true, capture knowledge found.values)

/-- **A pattern of a sound condition may be compiled late.**  That it compiles is known, so the
verdict is the same, and in no case the pattern is at fault. -/
theorem Sound.evaluatePathWith_eq {condition : RequestCondition} (h : condition.Sound)
    {path : PathTemplate} (hpath : condition.path = some path) {cached : CachedPattern}
    (hcached : cached.Faithful) (htext : cached.pattern.text = path.text) (knowledge : Knowledge) :
    evaluatePathWith cached knowledge = condition.evaluatePath knowledge := by
  have hcompile : Template.compile cached.pattern.text = .ok path.template :=
    htext ▸ h.path path hpath
  simp only [evaluatePathWith, evaluatePath, hpath, CachedPattern.match?,
    hcached.use_eq hcompile]
  cases knowledge.factText Knowledge.pathFact with
  | error e => rfl
  | ok raw => cases hmatch : path.template.match? (withoutQuery raw) <;> simp [hmatch]

end RequestCondition

end RequestRouting
