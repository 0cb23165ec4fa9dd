import RequestRouting.Proofs.Condition.Meaning
import RequestRouting.Proofs.Fields
import RequestRouting.Proofs.Knowledge.Active

/-!
# Evaluation follows the meaning

The evaluation of a native tree answers what its reading answers, and writes what the reading puts
out: on a match the output is added to the active layer and nothing else happens, and otherwise the
active layer has only grown.

## Main definitions

* `Layer.add` — a layer with an output added to it.
* `Knowledge.Follows` — an evaluation, as a verdict and the knowledge after it, agrees with a
  reading.
* `Condition.andThen` — what two evaluations come to, one behind the other.

## Main results

* `Condition.Native.follows` — the evaluation of a native tree agrees with its reading.
* `Condition.follows_all` — so does that of a list of native trees with the reading of the list as a
  conjunction.
* `Condition.evaluateAll_append` — two conjunctions, one behind the other.
-/

set_option autoImplicit false

namespace RequestRouting

/-! ## Adding an output -/

namespace Layer

/-- A layer with an output added to it: its values are appended, and its results written, one after
another, over those that are there. -/
def add (layer : Layer) (output : Output) : Layer :=
  { layer with
    results := layer.results.overlay output.results
    backreferences := layer.backreferences ++ output.backreferences }

@[simp] lemma add_none (layer : Layer) : layer.add .none = layer := by
  obtain ⟨results, backreferences, extractors⟩ := layer
  simp [add, Output.none]

@[simp] lemma add_append (layer : Layer) (first second : Output) :
    layer.add (first.append second) = (layer.add first).add second := by
  simp [add, Output.append, Dict.overlay_append]

/-- A layer to which an output has been added extends what it was. -/
lemma extends_add (layer : Layer) (output : Output) : layer.Extends (layer.add output) :=
  ⟨List.prefix_append _ _, List.prefix_refl _⟩

end Layer

namespace Knowledge

variable {knowledge : Knowledge}

/-- The evidence is not in the active layer. -/
@[simp] lemma evidence_withActive (knowledge : Knowledge) (layer : Layer) :
    (knowledge.withActive layer).evidence = knowledge.evidence := by
  simp [evidence]

/-- The text of a fact is read from the evidence. -/
lemma factText_eq (knowledge : Knowledge) (name : String) :
    knowledge.factText name = knowledge.evidence.text name := by
  unfold factText fact Evidence.text
  have hfact : knowledge.fact? name = knowledge.evidence.fact? name := rfl
  rw [hfact]
  cases knowledge.evidence.fact? name with
  | none => rfl
  | some value => cases hdisplay : value.display? <;> simp [hdisplay]

/-- Captured values are an output without results. -/
lemma addBackreferences_eq_withActive_add (knowledge : Knowledge) (values : List Json) :
    knowledge.addBackreferences values =
      knowledge.withActive (knowledge.active.add ⟨values, []⟩) :=
  knowledge.addBackreferences_eq values

/-- A speculative result is an output without captured values. -/
lemma setResult_true_eq_add (knowledge : Knowledge) (name : String) (value : Json) :
    knowledge.setResult name value true =
      knowledge.withActive (knowledge.active.add ⟨[], [(name, value)]⟩) := by
  rw [setResult_true]
  simp [Layer.add, Layer.setResult]

/-- Capturing nothing. -/
@[simp] lemma addBackreferences_nil (knowledge : Knowledge) :
    knowledge.addBackreferences [] = knowledge := by
  have hnone : knowledge.active.add ⟨[], []⟩ = knowledge.active := Layer.add_none _
  rw [addBackreferences_eq_withActive_add, hnone, withActive_active]

/-! ## Agreement with a reading -/

/-- An evaluation agrees with a reading: it answers the same, on a match it has added the output to
the active layer, and otherwise it has at most extended that layer. -/
inductive Follows (knowledge : Knowledge) : Verdict → Except RuleError Bool × Knowledge → Prop where
  | fails (e : RuleError) (layer : Layer) (h : knowledge.active.Extends layer) :
    Follows knowledge (.error e) (.error e, knowledge.withActive layer)
  | refuses (layer : Layer) (h : knowledge.active.Extends layer) :
    Follows knowledge (.ok none) (.ok false, knowledge.withActive layer)
  | accepts (output : Output) :
    Follows knowledge (.ok (some output))
      (.ok true, knowledge.withActive (knowledge.active.add output))

namespace Follows

/-- An evaluation that fails without writing anything. -/
lemma fails_unchanged (knowledge : Knowledge) (e : RuleError) :
    knowledge.Follows (.error e) (.error e, knowledge) := by
  have h : knowledge.Follows (.error e) _ := .fails e knowledge.active (.refl _)
  simpa using h

/-- An evaluation that refuses without writing anything. -/
lemma refuses_unchanged (knowledge : Knowledge) :
    knowledge.Follows (.ok none) (.ok false, knowledge) := by
  have h : knowledge.Follows (.ok none) _ := .refuses knowledge.active (.refl _)
  simpa using h

/-- An evaluation that accepts without writing anything. -/
lemma accepts_unchanged (knowledge : Knowledge) :
    knowledge.Follows (.ok (some .none)) (.ok true, knowledge) := by
  have h : knowledge.Follows (.ok (some .none)) _ := .accepts .none
  simpa using h

/-- An evaluation that writes nothing, whatever it answers. -/
lemma ofBool (knowledge : Knowledge) (isMatch : Bool) :
    knowledge.Follows (.ofBool isMatch) (.ok isMatch, knowledge) := by
  cases isMatch
  · exact refuses_unchanged knowledge
  · exact accepts_unchanged knowledge

/-- An evaluation goes on after an output has been added. -/
lemma after_add {verdict : Verdict} {outcome : Except RuleError Bool × Knowledge} (output : Output)
    (h : (knowledge.withActive (knowledge.active.add output)).Follows verdict outcome) :
    knowledge.Follows (verdict.map fun answer => answer.map output.append) outcome := by
  have hadd := knowledge.active.extends_add output
  cases h with
  | fails e layer h =>
    rw [active_withActive] at h
    rw [withActive_withActive]
    exact .fails e layer (hadd.trans h)
  | refuses layer h =>
    rw [active_withActive] at h
    rw [withActive_withActive]
    exact .refuses layer (hadd.trans h)
  | accepts later =>
    rw [active_withActive, withActive_withActive, ← Layer.add_append]
    exact .accepts (output.append later)

/-- An evaluation goes on after values have been captured. -/
lemma after_captures {captures : Option (List Json)} {outcome : Except RuleError Bool × Knowledge}
    (values : List Json)
    (h : (knowledge.addBackreferences values).Follows (.ofCaptures captures) outcome) :
    knowledge.Follows (.ofCaptures (captures.map (values ++ ·))) outcome := by
  rw [addBackreferences_eq_withActive_add] at h
  have h := after_add _ h
  cases captures <;> exact h

/-- The answer of an evaluation is that of the reading. -/
lemma fst_eq {verdict : Verdict} {outcome : Except RuleError Bool × Knowledge}
    (h : knowledge.Follows verdict outcome) : outcome.1 = verdict.map Option.isSome := by
  cases h <;> rfl

/-- On a match the output has been added to the active layer. -/
lemma snd_eq_add {output : Output} {outcome : Except RuleError Bool × Knowledge}
    (h : knowledge.Follows (.ok (some output)) outcome) :
    outcome.2 = knowledge.withActive (knowledge.active.add output) := by
  cases h
  rfl

/-- In every case returning to where the evaluation began undoes it. -/
lemma rollbackTo_eq {verdict : Verdict} {outcome : Except RuleError Bool × Knowledge}
    (h : knowledge.Follows verdict outcome) :
    outcome.2.rollbackTo knowledge.savepoint = knowledge := by
  cases h with
  | fails e layer h => exact rollbackTo_savepoint h
  | refuses layer h => exact rollbackTo_savepoint h
  | accepts output => exact rollbackTo_savepoint (knowledge.active.extends_add output)

end Follows

end Knowledge

open Knowledge

/-! ## Leaves -/

namespace UrlPathCondition

/-- The path that a condition looks at is read from the evidence. -/
lemma subject_eq (condition : UrlPathCondition) (knowledge : Knowledge) :
    condition.subject knowledge = condition.subjectIn knowledge.evidence := by
  unfold subject subjectIn
  cases condition.source <;> simp only [factText_eq]

/-- The evaluation of chunks goes on after the captures of the first one. -/
lemma evaluateChunks_cons (chunks : List String) (entry : Int × Regex.Compiled)
    (rest : List (Int × Regex.Compiled)) (knowledge : Knowledge) :
    evaluateChunks chunks (entry :: rest) knowledge =
      match chunkCaptures chunks entry with
      | none => (false, knowledge)
      | some values => evaluateChunks chunks rest (knowledge.addBackreferences values) := by
  simp only [evaluateChunks, chunkCaptures, Option.bind_eq_bind]
  cases resolveChunkIndex entry.1 chunks.length with
  | none => rfl
  | some position =>
    cases hchunk : chunks[position]? with
    | none => simp [hchunk]
    | some chunk => cases hgroups : entry.2.captures? chunk <;> simp [hchunk, hgroups]

/-- The evaluation of chunks captures what their patterns capture, in order.

**Proof sketch.** Induction on the patterns.  A chunk that is absent or does not match ends the
evaluation; otherwise its captures are added, and the rest follows by the induction hypothesis. -/
lemma follows_evaluateChunks (chunks : List String) (entries : List (Int × Regex.Compiled))
    (knowledge : Knowledge) :
    knowledge.Follows (.ofCaptures (allChunkCaptures chunks entries))
      (Condition.definite (evaluateChunks chunks entries knowledge)) := by
  induction entries generalizing knowledge with
  | nil => exact Follows.accepts_unchanged knowledge
  | cons entry rest ih =>
    rw [evaluateChunks_cons, allChunkCaptures, List.mapM_cons]
    cases chunkCaptures chunks entry with
    | none => exact Follows.refuses_unchanged knowledge
    | some values =>
      have h := (ih (knowledge.addBackreferences values)).after_captures values
      unfold allChunkCaptures at h
      generalize rest.mapM (chunkCaptures chunks) = parts at h ⊢
      cases parts <;> exact h

/-- The evaluation of a path goes on with its chunks after the captures of the whole pattern. -/
lemma evaluateSubject_eq (condition : UrlPathCondition) (subject : String)
    (knowledge : Knowledge) :
    condition.evaluateSubject subject knowledge =
      match condition.wholeCaptures subject with
      | none => (false, knowledge)
      | some values => evaluateChunks (condition.chunksOf subject) condition.chunks
          (knowledge.addBackreferences values) := by
  unfold evaluateSubject wholeCaptures
  cases condition.pattern with
  | none => simp only [addBackreferences_nil]
  | some regex => cases hgroups : regex.captures? subject <;> simp [hgroups]

/-- The evaluation of a path condition agrees with its reading. -/
lemma follows_evaluate (condition : UrlPathCondition) (knowledge : Knowledge) :
    knowledge.Follows (condition.meaning knowledge.evidence) (condition.evaluate knowledge) := by
  simp only [evaluate, meaning, subject_eq]
  cases condition.subjectIn knowledge.evidence with
  | error e => exact Follows.fails_unchanged knowledge e
  | ok subject =>
    dsimp only
    rw [evaluateSubject_eq, capturesIn]
    cases condition.wholeCaptures subject with
    | none => exact Follows.refuses_unchanged knowledge
    | some values => exact (follows_evaluateChunks _ _ _).after_captures values

end UrlPathCondition

/-- The evaluation of a parameter condition agrees with its reading. -/
lemma UrlParamsCondition.follows_evaluate (condition : UrlParamsCondition)
    (knowledge : Knowledge) :
    knowledge.Follows (condition.meaning knowledge.evidence)
      (Condition.definite (condition.evaluate knowledge)) := by
  have hevidence : knowledge.evidence.parameters = knowledge.parameters := rfl
  simp only [evaluate, meaning, hevidence, Option.bind_eq_bind, ← Option.bind_assoc]
  cases knowledge.parameters.bind fun params => params.get? condition.name condition.scope with
  | none => exact Follows.refuses_unchanged knowledge
  | some value =>
    simp only [evaluateValue, ParamOperator.capturesIn, Option.bind_some]
    cases condition.operator with
    | isSet => exact Follows.accepts_unchanged knowledge
    | isNumeric =>
      cases value.isNumeric
      · exact Follows.refuses_unchanged knowledge
      · exact Follows.accepts_unchanged knowledge
    | equal expected =>
      dsimp only
      cases looseEq value expected
      · exact Follows.refuses_unchanged knowledge
      · exact Follows.accepts_unchanged knowledge
    | regexp regex =>
      dsimp only
      cases value.display?.bind regex.captures? with
      | none => exact Follows.refuses_unchanged knowledge
      | some groups =>
        simp only [addBackreferences_eq_withActive_add]
        exact Follows.accepts _

/-- The evaluation of an authentication condition agrees with its reading. -/
lemma AuthenticationCondition.follows_evaluate (condition : AuthenticationCondition)
    (knowledge : Knowledge) :
    knowledge.Follows (condition.meaning knowledge.evidence)
      (Condition.definite (condition.evaluate knowledge)) := by
  have hevidence : knowledge.evidence.identity = knowledge.identity := rfl
  simp only [evaluate, meaning, hevidence]
  cases knowledge.identity.bind fun identity => identity.current.map (identity, ·) with
  | none => exact Follows.ofBool knowledge _
  | some entry =>
    dsimp only
    split
    · rw [setResult_true_eq_add]
      exact Follows.accepts _
    · exact Follows.refuses_unchanged knowledge

namespace RequestCondition

/-- Capturing the values of a match adds its output.

**Proof sketch.** Induction on the values, each of which is captured and then written. -/
lemma capture_eq (values : List (PropertyPath × String)) (knowledge : Knowledge) :
    capture knowledge values = knowledge.withActive (knowledge.active.add (outputOf ⟨values⟩)) := by
  induction values generalizing knowledge with
  | nil =>
    have hnone : outputOf ⟨[]⟩ = .none := rfl
    rw [hnone, Layer.add_none, withActive_active]
    rfl
  | cons entry rest ih =>
    have hfirst : (knowledge.addBackreferences [.string entry.2]).setResult entry.1.text
        (.string entry.2) true =
        knowledge.withActive (knowledge.active.add (outputOf ⟨[entry]⟩)) := by
      rw [setResult_true, addBackreferences_eq, active_withActive, withActive_withActive]
      rfl
    have hsplit : outputOf ⟨entry :: rest⟩ = (outputOf ⟨[entry]⟩).append (outputOf ⟨rest⟩) := rfl
    rw [hsplit, Layer.add_append]
    have h := ih (knowledge.withActive (knowledge.active.add (outputOf ⟨[entry]⟩)))
    rw [active_withActive, withActive_withActive] at h
    rw [← h, ← hfirst]
    rfl

/-- The evaluation of the path of a request condition agrees with its reading. -/
lemma follows_evaluatePath (condition : RequestCondition) (knowledge : Knowledge) :
    knowledge.Follows (condition.pathMeaning knowledge.evidence)
      (condition.evaluatePath knowledge) := by
  simp only [evaluatePath, pathMeaning, factText_eq]
  cases condition.path with
  | none => exact Follows.accepts_unchanged knowledge
  | some path =>
    dsimp only
    cases knowledge.evidence.text pathFact with
    | error e => exact Follows.fails_unchanged knowledge e
    | ok raw =>
      dsimp only [Except.map]
      cases path.template.match? (withoutQuery raw) with
      | none => exact Follows.refuses_unchanged knowledge
      | some found =>
        dsimp only [Option.map]
        rw [capture_eq]
        exact Follows.accepts _

/-- The evaluation of a request condition agrees with its reading. -/
lemma follows_evaluate (condition : RequestCondition) (knowledge : Knowledge) :
    knowledge.Follows (condition.meaning knowledge.evidence) (condition.evaluate knowledge) := by
  have hpath := condition.follows_evaluatePath knowledge
  simp only [evaluate, meaning, methodIn, factText_eq]
  cases condition.methods.isEmpty with
  | true => exact hpath
  | false =>
    simp only [Bool.false_eq_true, ↓reduceIte]
    cases knowledge.evidence.text methodFact with
    | error e => exact Follows.fails_unchanged knowledge e
    | ok method =>
      dsimp only [Except.map]
      cases condition.acceptsMethod method
      · exact Follows.refuses_unchanged knowledge
      · exact hpath

end RequestCondition

/-! ## Trees -/

namespace Condition

/-- The evaluation of a list of conditions agrees with its reading as a conjunction, if that of
every member agrees with its reading.

**Proof sketch.** Induction on the list.  After a match the rest is evaluated with the output of
the match in the active layer, which is not part of the evidence. -/
theorem follows_evaluateAll {conditions : List Condition}
    (h : ∀ condition ∈ conditions, ∀ knowledge : Knowledge,
      knowledge.Follows (condition.meaning knowledge.evidence) (condition.evaluate knowledge))
    (knowledge : Knowledge) :
    knowledge.Follows (allMean conditions knowledge.evidence)
      (evaluateAll conditions knowledge) := by
  induction conditions generalizing knowledge with
  | nil => exact Follows.accepts_unchanged knowledge
  | cons condition rest ih =>
    have hfirst := h condition (List.mem_cons_self ..) knowledge
    have hrest := ih fun other hother => h other (List.mem_cons_of_mem _ hother)
    simp only [allMean, meanings, evaluateAll] at hrest ⊢
    generalize condition.meaning knowledge.evidence = verdict at hfirst ⊢
    generalize condition.evaluate knowledge = outcome at hfirst ⊢
    cases hfirst with
    | fails e layer hlayer => exact .fails e layer hlayer
    | refuses layer hlayer => exact .refuses layer hlayer
    | accepts output =>
      have hafter := hrest (knowledge.withActive (knowledge.active.add output))
      rw [evidence_withActive] at hafter
      exact Follows.after_add output hafter

/-- The evaluation of the parts of an `or` node agrees with the choice among their readings, if that
of every part agrees with its reading.

**Proof sketch.** Induction on the parts.  A part that refuses has only extended the active layer,
and returning to the savepoint takes that back, so the next part starts where the node did. -/
theorem follows_evaluateAny {conditions : List Condition}
    (h : ∀ condition ∈ conditions, ∀ knowledge : Knowledge,
      knowledge.Follows (condition.meaning knowledge.evidence) (condition.evaluate knowledge))
    (knowledge : Knowledge) :
    knowledge.Follows (.any (meanings conditions knowledge.evidence))
      (evaluateAny conditions knowledge) := by
  induction conditions with
  | nil => exact Follows.refuses_unchanged knowledge
  | cons condition rest ih =>
    have hfirst := h condition (List.mem_cons_self ..) knowledge
    have hrest := ih fun other hother => h other (List.mem_cons_of_mem _ hother)
    simp only [meanings, evaluateAny]
    generalize condition.meaning knowledge.evidence = verdict at hfirst ⊢
    generalize condition.evaluate knowledge = outcome at hfirst ⊢
    cases hfirst with
    | fails e layer hlayer => exact .fails e layer hlayer
    | refuses layer hlayer =>
      dsimp only [Verdict.any]
      rw [rollbackTo_savepoint hlayer]
      exact hrest
    | accepts output => exact .accepts output

/-- The evaluation of a `not` node agrees with the negation of a reading, if that of the conjunction
of its parts agrees with the reading: whatever the parts have written is taken back. -/
lemma follows_not {verdict : Verdict} {outcome : Except RuleError Bool × Knowledge}
    {knowledge : Knowledge} (h : knowledge.Follows verdict outcome) :
    knowledge.Follows verdict.negate
      (outcome.1.map (! ·), outcome.2.rollbackTo knowledge.savepoint) := by
  rw [h.rollbackTo_eq]
  cases h with
  | fails e layer _ => exact Follows.fails_unchanged knowledge e
  | refuses layer _ => exact Follows.accepts_unchanged knowledge
  | accepts output => exact Follows.refuses_unchanged knowledge

/-- **The evaluation of a native tree agrees with its reading**, inside of transactions and outside.

**Proof sketch.** Induction on the tree, one lemma for each kind of leaf and each operator. -/
theorem Native.follows {condition : Condition} (h : condition.Native) (knowledge : Knowledge) :
    knowledge.Follows (condition.meaning knowledge.evidence) (condition.evaluate knowledge) := by
  induction h generalizing knowledge with
  | urlPath condition =>
    simp only [meaning, evaluate]
    exact condition.follows_evaluate knowledge
  | urlParams condition =>
    simp only [meaning, evaluate]
    exact condition.follows_evaluate knowledge
  | authentication condition =>
    simp only [meaning, evaluate]
    exact condition.follows_evaluate knowledge
  | request condition =>
    simp only [meaning, evaluate]
    exact condition.follows_evaluate knowledge
  | bool operator conditions _ ih =>
    cases operator with
    | and =>
      simp only [meaning, evaluate]
      exact follows_evaluateAll ih knowledge
    | or =>
      simp only [meaning, evaluate]
      exact follows_evaluateAny ih knowledge
    | not =>
      simp only [meaning, evaluate]
      exact follows_not (follows_evaluateAll ih knowledge)

/-- The evaluation of a list of native trees agrees with its reading as a conjunction. -/
theorem follows_all {conditions : List Condition}
    (h : ∀ condition ∈ conditions, condition.Native) (knowledge : Knowledge) :
    knowledge.Follows (allMean conditions knowledge.evidence)
      (evaluateAll conditions knowledge) :=
  follows_evaluateAll (fun condition hcondition => (h condition hcondition).follows) knowledge

/-! ## Conjunctions, one behind the other -/

/-- What an evaluation comes to if another one follows wherever the first has matched. -/
def andThen (first : Except RuleError Bool × Knowledge)
    (next : Knowledge → Except RuleError Bool × Knowledge) : Except RuleError Bool × Knowledge :=
  match first with
  | (.ok true, knowledge) => next knowledge
  | (.ok false, knowledge) => (.ok false, knowledge)
  | (.error e, knowledge) => (.error e, knowledge)

/-- It does not matter which of three evaluations are taken together. -/
lemma andThen_assoc (first : Except RuleError Bool × Knowledge)
    (second third : Knowledge → Except RuleError Bool × Knowledge) :
    andThen (andThen first second) third =
      andThen first fun knowledge => andThen (second knowledge) third := by
  obtain ⟨_ | _ | _, knowledge⟩ := first <;> rfl

/-- An evaluation that always matches may follow. -/
lemma andThen_match (first : Except RuleError Bool × Knowledge) :
    (andThen first fun knowledge => (.ok true, knowledge)) = first := by
  obtain ⟨_ | _ | _, knowledge⟩ := first <;> rfl

/-- The first part of a conjunction is followed by the others. -/
lemma evaluateAll_cons (part : Condition) (rest : List Condition) (knowledge : Knowledge) :
    evaluateAll (part :: rest) knowledge =
      andThen (part.evaluate knowledge) (evaluateAll rest) := by
  rw [evaluateAll]
  rfl

/-- A conjunction of one part. -/
lemma evaluateAll_singleton (part : Condition) (knowledge : Knowledge) :
    evaluateAll [part] knowledge = part.evaluate knowledge := by
  have hnil : evaluateAll [] = fun knowledge => (.ok true, knowledge) := by
    funext knowledge
    rw [evaluateAll]
  rw [evaluateAll_cons, hnil, andThen_match]

/-- **Two conjunctions, one behind the other.** -/
theorem evaluateAll_append (first second : List Condition) (knowledge : Knowledge) :
    evaluateAll (first ++ second) knowledge =
      andThen (evaluateAll first knowledge) (evaluateAll second) := by
  induction first generalizing knowledge with
  | nil => rw [List.nil_append, evaluateAll, andThen]
  | cons part rest ih =>
    rw [List.cons_append, evaluateAll_cons, evaluateAll_cons, andThen_assoc]
    exact congrArg _ (funext ih)

end Condition

end RequestRouting
