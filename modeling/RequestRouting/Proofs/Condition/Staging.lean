import RequestRouting.Proofs.Condition.Evaluation
import RequestRouting.Proofs.Condition.Registered

/-!
# What conditions stage

Inside of a transaction all that a condition writes goes to the staged layer.  For the conditions of
the library it is the output of their reading; of a condition from outside it is known only that it
writes speculatively, if it does.

## Main definitions

* `Knowledge.Stages` — an evaluation agrees with a reading, and writes to the staged layer only.
* `Knowledge.Frame` — a relation that holds for lists and trees of conditions if it holds for each.
* `Condition.Speculative` — a condition makes speculative writes only, wherever it is evaluated.

## Main results

* `Condition.evaluate_stages` — inside of a transaction the conditions of the registry, one by one
  and as a conjunction, agree with their readings.
* `Knowledge.Frame.keeps_bool` — what all parts of a Boolean node keep to, the node keeps to.
* `Condition.speculative_bool` — a Boolean node over speculative parts is speculative.
* `Condition.Native.speculative` — so is every native tree.
-/

set_option autoImplicit false

namespace RequestRouting

/-! ## Agreement inside of a transaction -/

/-- An evaluation inside of a transaction agrees with a reading.  The layer that is staged when it
begins is `staged`. -/
structure Knowledge.Stages (knowledge : Knowledge) (staged : Layer) (verdict : Verdict)
    (outcome : Except RuleError Bool × Knowledge) : Prop where
  /-- The answer, or the error, is that of the reading. -/
  answer : outcome.1 = verdict.map Option.isSome
  /-- Whatever the answer, only the staged layer changes, and it keeps what it has captured. -/
  frame : ∃ layer, staged.Extends layer ∧ outcome.2 = { knowledge with staged := some layer }
  /-- On a match the output of the reading has been staged, and nothing else. -/
  output : ∀ output, verdict = .ok (some output) →
    outcome.2 = { knowledge with staged := some (staged.add output) }

namespace Knowledge.Follows

variable {knowledge : Knowledge} {staged : Layer} {verdict : Verdict}
  {outcome : Except RuleError Bool × Knowledge}

/-- Agreement with a reading, seen inside of a transaction. -/
lemma stages (h : knowledge.Follows verdict outcome) (hstaged : knowledge.staged = some staged) :
    knowledge.Stages staged verdict outcome := by
  have hactive : knowledge.active = staged := by simp [active, hstaged]
  have hwith := withActive_of_staged hstaged
  refine ⟨h.fst_eq, ?_, ?_⟩
  · cases h with
    | fails e layer hlayer => exact ⟨layer, hactive ▸ hlayer, hwith layer⟩
    | refuses layer hlayer => exact ⟨layer, hactive ▸ hlayer, hwith layer⟩
    | accepts output =>
      exact ⟨_, hactive ▸ knowledge.active.extends_add output, hwith _⟩
  · rintro output rfl
    rw [h.snd_eq_add, hactive]
    exact hwith _

end Knowledge.Follows

namespace Condition

/-- **Inside of a transaction, evaluation agrees with the reading.**  Of any conditions that the
registry has built, each alone and all of them as a conjunction answer what is read off the
evidence, and stage the output that the reading has; so nothing remains of the parts of a tree that
were tried in vain. -/
theorem evaluate_stages {conditions : List Condition}
    (h : ∀ condition ∈ conditions, condition.Registered) {knowledge : Knowledge} {staged : Layer}
    (hstaged : knowledge.staged = some staged) :
    (∀ condition ∈ conditions,
      knowledge.Stages staged (condition.meaning knowledge.evidence)
        (condition.evaluate knowledge)) ∧
    knowledge.Stages staged (allMean conditions knowledge.evidence)
      (evaluateAll conditions knowledge) := by
  have hnative : ∀ condition ∈ conditions, condition.Native :=
    fun condition hcondition => (h condition hcondition).native
  refine ⟨fun condition hcondition => ?_, ?_⟩
  · exact ((hnative condition hcondition).follows knowledge).stages hstaged
  · exact (follows_all hnative knowledge).stages hstaged

/-- What is known of a request by `ada`, who belongs to the staff, while a rule is attempted. -/
def staffKnowledge : Knowledge :=
  { Knowledge.empty.begin with identity := some ((Identity.user "ada").withGroup "staff") }

/-- The name is staged once: what the first part of the tree has staged is gone. -/
theorem evaluate_stages_staffTree :
    staffTree.Registered ∧ staffKnowledge.staged = some .empty ∧
    allMean [staffTree] staffKnowledge.evidence =
      .ok (some ⟨[], [(Knowledge.identityResult, .string "ada")]⟩) ∧
    staffKnowledge.Stages .empty (allMean [staffTree] staffKnowledge.evidence)
      (evaluateAll [staffTree] staffKnowledge) := by
  have hregistered : ∀ condition ∈ [staffTree], condition.Registered :=
    List.forall_mem_singleton.2 registered_staffTree
  exact ⟨registered_staffTree, rfl, rfl, (evaluate_stages hregistered rfl).2⟩

end Condition

/-! ## Frames -/

/-- A relation between what is known before and behind an evaluation that holds for one evaluation
after another, if it holds for each, and also if what has been written is undone in between. -/
structure Knowledge.Frame (relates : Knowledge → Knowledge → Prop) : Prop where
  refl : ∀ knowledge, relates knowledge knowledge
  trans : ∀ {before between after : Knowledge},
    relates before between → relates between after → relates before after
  rollbackTo : ∀ {before after : Knowledge} (savepoint : Savepoint),
    relates before after → relates before (after.rollbackTo savepoint)

/-- The relation holds for a condition, wherever it is evaluated and whatever it answers. -/
def Condition.Keeps (condition : Condition) (relates : Knowledge → Knowledge → Prop) : Prop :=
  ∀ knowledge : Knowledge, relates knowledge (condition.evaluate knowledge).2

namespace Knowledge.Frame

variable {relates : Knowledge → Knowledge → Prop} (hframe : Frame relates)
  {conditions : List Condition} (h : ∀ condition ∈ conditions, condition.Keeps relates)

include hframe h

/-- It holds for a list of conditions, up to the first that does not match. -/
lemma evaluateAll (knowledge : Knowledge) :
    relates knowledge (Condition.evaluateAll conditions knowledge).2 := by
  induction conditions generalizing knowledge with
  | nil => exact hframe.refl knowledge
  | cons condition rest ih =>
    obtain ⟨hfirst, hrest⟩ := List.forall_mem_cons.1 h
    have hafter := hfirst knowledge
    unfold Condition.evaluateAll
    split
    · next after heq =>
      rw [heq] at hafter
      exact hframe.trans hafter (ih hrest after)
    · next after heq => exact heq ▸ hafter
    · next e after heq => exact heq ▸ hafter

/-- It holds for the parts of an `or` node, with returns to the beginning in between. -/
lemma evaluateAny (knowledge : Knowledge) :
    relates knowledge (Condition.evaluateAny conditions knowledge).2 := by
  induction conditions generalizing knowledge with
  | nil => exact hframe.refl knowledge
  | cons condition rest ih =>
    obtain ⟨hfirst, hrest⟩ := List.forall_mem_cons.1 h
    have hafter := hfirst knowledge
    unfold Condition.evaluateAny
    split
    · next after heq => exact heq ▸ hafter
    · next after heq =>
      rw [heq] at hafter
      exact hframe.trans (hframe.rollbackTo knowledge.savepoint hafter) (ih hrest _)
    · next e after heq => exact heq ▸ hafter

/-- **What all parts of a Boolean node keep to, the node keeps to.** -/
theorem keeps_bool (operator : BoolOperator) :
    (Condition.bool operator conditions).Keeps relates := by
  intro knowledge
  unfold Condition.evaluate
  cases operator with
  | and => exact hframe.evaluateAll h knowledge
  | or => exact hframe.evaluateAny h knowledge
  | not => exact hframe.rollbackTo knowledge.savepoint (hframe.evaluateAll h knowledge)

end Knowledge.Frame

/-! ## Speculative conditions -/

/-- A condition makes speculative writes only, wherever it is evaluated and whatever it answers. -/
def Condition.Speculative (condition : Condition) : Prop :=
  ∀ knowledge : Knowledge, knowledge.Writes (condition.evaluate knowledge).2

/-- Writes are a frame. -/
lemma Knowledge.Writes.frame : Knowledge.Frame Knowledge.Writes where
  refl _ := .nothing
  trans := Knowledge.Writes.trans
  rollbackTo savepoint h := h.rollbackTo savepoint

open Knowledge (Writes)

namespace UrlPathCondition

/-- The evaluation of chunks only captures values. -/
lemma writes_evaluateChunks (chunks : List String) (entries : List (Int × Regex.Compiled))
    (knowledge : Knowledge) : knowledge.Writes (evaluateChunks chunks entries knowledge).2 := by
  induction entries generalizing knowledge with
  | nil => exact .nothing
  | cons entry rest ih =>
    rw [evaluateChunks_cons]
    cases chunkCaptures chunks entry with
    | none => exact .nothing
    | some values => exact (Writes.nothing.addBackreferences values).trans (ih _)

/-- A path condition only captures values. -/
lemma writes_evaluate (condition : UrlPathCondition) (knowledge : Knowledge) :
    knowledge.Writes (condition.evaluate knowledge).2 := by
  unfold evaluate
  cases condition.subject knowledge with
  | error e => exact .nothing
  | ok subject =>
    dsimp only
    rw [evaluateSubject_eq]
    cases condition.wholeCaptures subject with
    | none => exact .nothing
    | some values =>
      exact (Writes.nothing.addBackreferences values).trans (writes_evaluateChunks _ _ _)

end UrlPathCondition

/-- A parameter condition only captures values. -/
lemma UrlParamsCondition.writes_evaluate (condition : UrlParamsCondition) (knowledge : Knowledge) :
    knowledge.Writes (condition.evaluate knowledge).2 := by
  unfold evaluate
  split
  · exact .nothing
  · next value hvalue =>
    unfold evaluateValue
    split
    · exact .nothing
    · exact .nothing
    · exact .nothing
    · split
      · exact .nothing
      · exact Writes.nothing.addBackreferences _

/-- An authentication condition only writes the identity. -/
lemma AuthenticationCondition.writes_evaluate (condition : AuthenticationCondition)
    (knowledge : Knowledge) : knowledge.Writes (condition.evaluate knowledge).2 := by
  unfold evaluate
  split
  · exact .nothing
  · split
    · exact Writes.nothing.setResult _ _
    · exact .nothing

namespace RequestCondition

/-- The values of a match are captured and written. -/
lemma writes_capture (values : List (PropertyPath × String)) (knowledge : Knowledge) :
    knowledge.Writes (capture knowledge values) := by
  induction values generalizing knowledge with
  | nil => exact .nothing
  | cons entry rest ih =>
    exact ((Writes.nothing.addBackreferences _).setResult _ _).trans (ih _)

/-- A request condition only captures and writes the values of its path. -/
lemma writes_evaluate (condition : RequestCondition) (knowledge : Knowledge) :
    knowledge.Writes (condition.evaluate knowledge).2 := by
  have hpath : knowledge.Writes (condition.evaluatePath knowledge).2 := by
    unfold evaluatePath
    split
    · exact .nothing
    · split
      · exact .nothing
      · split
        · exact .nothing
        · exact writes_capture _ knowledge
  unfold evaluate
  split
  · exact hpath
  · split
    · exact .nothing
    · split
      · exact hpath
      · exact .nothing

end RequestCondition

namespace Condition

/-- A Boolean node over speculative parts is speculative. -/
theorem speculative_bool (operator : BoolOperator) {conditions : List Condition}
    (h : ∀ condition ∈ conditions, condition.Speculative) :
    (Condition.bool operator conditions).Speculative :=
  Writes.frame.keeps_bool h operator

/-- A native tree is speculative.

**Proof sketch.** Induction on the tree; the leaves only capture values and write results. -/
theorem Native.speculative {condition : Condition} (h : condition.Native) :
    condition.Speculative := by
  induction h with
  | urlPath condition =>
    intro knowledge
    simp only [evaluate]
    exact condition.writes_evaluate knowledge
  | urlParams condition =>
    intro knowledge
    simp only [evaluate]
    exact condition.writes_evaluate knowledge
  | authentication condition =>
    intro knowledge
    simp only [evaluate]
    exact condition.writes_evaluate knowledge
  | request condition =>
    intro knowledge
    simp only [evaluate]
    exact condition.writes_evaluate knowledge
  | bool operator conditions _ ih => exact speculative_bool operator ih

end Condition

end RequestRouting
