import RequestRouting.Proofs.Condition.Staging
import RequestRouting.Rule.Attempt

/-!
# Attempts that leave no trace

An attempt at a rule ends in one of five ways.  In four of them the rule does not fire: it has no
conditions, a condition fails, a condition does not match, or a veto refuses.  Whatever has been
staged until then is rolled back, so nothing of the attempt can be seen afterwards.

## Main definitions

* `Rule.Ends` — the ways in which an attempt can end.
* `Notice.OfAction` — the traces of actions.
* `Rule.Unseen` — an outcome in which nothing has happened.

## Main results

* `Rule.ends_attempt`, `Rule.Ends.eq_attempt` — an attempt ends in exactly one of those ways.
* `Rule.attempt_unseen` — an attempt in which the rule does not fire leaves no trace.
-/

set_option autoImplicit false

namespace RequestRouting

/-! ## The ways in which an attempt can end -/

/-- The ways in which an attempt at a rule can end. -/
inductive Rule.Ends (engine : Engine) (rule : Rule) (knowledge : Knowledge) (book : RuleBook) :
    Outcome Bool → Prop where
  /-- The rule has no conditions. -/
  | idle (h : rule.conditions = []) :
    Ends engine rule knowledge book ⟨.ok false, knowledge, book, []⟩
  /-- A condition fails. -/
  | fails (e : RuleError) (after : Knowledge)
      (h : Condition.evaluateAll rule.conditions knowledge.begin = (.error e, after)) :
    Ends engine rule knowledge book ⟨.error e, after.rollback, book, []⟩
  /-- A condition does not match. -/
  | refuses (after : Knowledge)
      (h : Condition.evaluateAll rule.conditions knowledge.begin = (.ok false, after)) :
    Ends engine rule knowledge book ⟨.ok false, after.rollback, book, []⟩
  /-- All conditions match, and a veto refuses. -/
  | vetoed (after : Knowledge) (hne : rule.conditions ≠ [])
      (h : Condition.evaluateAll rule.conditions knowledge.begin = (.ok true, after))
      (hveto : (engine.hooks.approve rule after).1 = false) :
    Ends engine rule knowledge book ⟨.ok false, after.rollback, book,
      engine.hooks.emit .processSucceeded rule after ++ (engine.hooks.approve rule after).2⟩
  /-- All conditions match, no veto refuses, and the rule fires. -/
  | fires (after : Knowledge) (hne : rule.conditions ≠ [])
      (h : Condition.evaluateAll rule.conditions knowledge.begin = (.ok true, after))
      (hveto : (engine.hooks.approve rule after).1 = true) :
    Ends engine rule knowledge book ((rule.fire engine after book).after
      (engine.hooks.emit .processSucceeded rule after ++ (engine.hooks.approve rule after).2))

namespace Rule

variable {engine : Engine} {rule : Rule} {knowledge : Knowledge} {book : RuleBook}

/-- An attempt ends in one of the ways. -/
theorem ends_attempt (engine : Engine) (rule : Rule) (knowledge : Knowledge) (book : RuleBook) :
    rule.Ends engine knowledge book (rule.attempt engine knowledge book) := by
  unfold attempt
  split
  · next hempty => exact .idle (List.isEmpty_iff.1 hempty)
  · next hempty =>
    have hne : rule.conditions ≠ [] := fun h => hempty (List.isEmpty_iff.2 h)
    split
    · next e after h => exact .fails e after h
    · next after h => exact .refuses after h
    · next after h =>
      cases hveto : (engine.hooks.approve rule after).1 with
      | true =>
        have hends : rule.Ends engine knowledge book _ := .fires after hne h hveto
        simpa [hveto] using hends
      | false =>
        have hends : rule.Ends engine knowledge book _ := .vetoed after hne h hveto
        simpa [hveto] using hends

/-- Conditions that do not all match are not none. -/
lemma conditions_ne_nil {verdict : Except RuleError Bool} {reached after : Knowledge}
    (h : Condition.evaluateAll rule.conditions reached = (verdict, after))
    (hverdict : verdict ≠ .ok true) : rule.conditions ≠ [] := by
  intro hnil
  rw [hnil] at h
  cases h
  exact hverdict rfl

/-- The way in which an attempt ends determines its outcome. -/
theorem Ends.eq_attempt {outcome : Outcome Bool} (h : rule.Ends engine knowledge book outcome) :
    outcome = rule.attempt engine knowledge book := by
  cases h with
  | idle h => simp [attempt, h]
  | fails e after h =>
    have hne : rule.conditions ≠ [] := conditions_ne_nil h (by simp)
    simp [attempt, h, hne]
  | refuses after h =>
    have hne : rule.conditions ≠ [] := conditions_ne_nil h (by simp)
    simp [attempt, h, hne]
  | vetoed after hne h hveto => simp [attempt, h, hne, hveto]
  | fires after hne h hveto => simp [attempt, h, hne, hveto]

/-- A rule that fires is not passed over. -/
lemma fire_result_ne (engine : Engine) (rule : Rule) (knowledge : Knowledge) (book : RuleBook) :
    (rule.fire engine knowledge book).result ≠ .ok false := by
  unfold fire act
  dsimp only
  split <;> simp

end Rule

/-! ## Traces -/

/-- The traces of actions: calls of handlers, messages for the log, and the news that all actions
have run. -/
def Notice.OfAction : Notice → Prop
  | .event _ step _ _ => step = .actionExecuted
  | .veto .. => False
  | .called .. | .logged .. => True

namespace Hooks

/-- Telling the observers about anything but actions is no trace of an action. -/
lemma not_ofAction_of_mem_emit {hooks : Hooks} {step : RuleEvent} (hstep : step ≠ .actionExecuted)
    {rule : Rule} {knowledge : Knowledge} {notice : Notice}
    (h : notice ∈ hooks.emit step rule knowledge) : ¬ notice.OfAction := by
  obtain ⟨observer, -, rfl⟩ := List.mem_map.1 h
  exact hstep

/-- Asking the vetoes is no trace of an action. -/
lemma not_ofAction_of_mem_approveFrom {position : Nat} {rule : Rule} {knowledge : Knowledge}
    {vetoes : List Veto} {notice : Notice}
    (h : notice ∈ (approveFrom position rule knowledge vetoes).2) : ¬ notice.OfAction := by
  fun_induction approveFrom position rule knowledge vetoes with
  | case1 => cases h
  | case2 position veto rest hveto approved notices hrest ih =>
    rcases List.mem_cons.1 h with rfl | h
    · exact id
    · exact ih (by rwa [hrest])
  | case3 position veto rest hveto =>
    obtain rfl := List.mem_singleton.1 h
    exact id

end Hooks

/-! ## Rules that do not fire -/

/-- A condition raises an error in an attempt at a rule: all conditions before it have matched, and
it fails on what they have made of the knowledge. -/
def Rule.Raises (rule : Rule) (knowledge : Knowledge) (e : RuleError) : Prop :=
  ∃ before condition later reached,
    rule.conditions = before ++ condition :: later ∧
    Condition.evaluateAll before knowledge.begin = (.ok true, reached) ∧
    (condition.evaluate reached).1 = .error e

/-- An outcome in which nothing has happened.  That no handler has been run shows in the outcome
being the same with any other handlers. -/
structure Rule.Unseen (engine : Engine) (rule : Rule) (knowledge : Knowledge) (book : RuleBook)
    (outcome : Outcome Bool) : Prop where
  knowledge_eq : outcome.knowledge = knowledge
  closed : outcome.knowledge.inTransaction = false
  book_eq : outcome.book = book
  silent : ∀ notice ∈ outcome.notices, ¬ notice.OfAction
  handlers : ∀ handlers : Handlers,
    rule.attempt { engine with handlers := handlers } knowledge book = outcome

namespace Rule

variable {engine : Engine} {rule : Rule} {knowledge : Knowledge} {book : RuleBook}

/-- The conditions of a rule fail with the error that one of them raises. -/
lemma Raises.evaluateAll_eq {e : RuleError} (h : rule.Raises knowledge e) :
    (Condition.evaluateAll rule.conditions knowledge.begin).1 = .error e := by
  obtain ⟨before, condition, later, reached, heq, hbefore, hcondition⟩ := h
  rw [heq, Condition.evaluateAll_append, hbefore, Condition.andThen, Condition.evaluateAll_cons]
  generalize condition.evaluate reached = outcome at hcondition
  obtain ⟨verdict, after⟩ := outcome
  cases hcondition
  rfl

/-- Rolling back undoes what speculative conditions have staged, however far they got. -/
lemma rollback_evaluateAll (hspeculative : ∀ condition ∈ rule.conditions, condition.Speculative)
    (hclosed : knowledge.inTransaction = false) :
    (Condition.evaluateAll rule.conditions knowledge.begin).2.rollback = knowledge := by
  have hwrites := Knowledge.Writes.frame.evaluateAll hspeculative knowledge.begin
  rw [hwrites.rollback_begin, Knowledge.rollback_of_not_inTransaction hclosed]

/-- **An attempt in which the rule does not fire leaves no trace.**  Every condition of the registry
writes speculatively only.  If all conditions of a rule do so, and an attempt outside of
transactions returns false or the error of a condition, then the knowledge and the book are what
they were, no transaction is open, and no action has been run.

**Proof sketch.** Case analysis on how the attempt ends.  Where it does not end with the actions of
the rule, it ends with a rollback to the knowledge at the beginning. -/
theorem attempt_unseen :
    (∀ condition : Condition, condition.Registered → condition.Speculative) ∧
    ∀ (engine : Engine) (rule : Rule) (knowledge : Knowledge) (book : RuleBook),
      (∀ condition ∈ rule.conditions, condition.Speculative) →
      knowledge.inTransaction = false →
      ((rule.attempt engine knowledge book).result = .ok false ∨
        ∃ e, (rule.attempt engine knowledge book).result = .error e ∧ rule.Raises knowledge e) →
      rule.Unseen engine knowledge book (rule.attempt engine knowledge book) := by
  refine ⟨fun condition h => h.native.speculative, ?_⟩
  intro engine rule knowledge book hspeculative hclosed hresult
  have hback := rollback_evaluateAll hspeculative hclosed
  have hends := ends_attempt engine rule knowledge book
  generalize rule.attempt engine knowledge book = outcome at hresult hends ⊢
  cases hends with
  | idle h =>
    refine ⟨rfl, hclosed, rfl, List.forall_mem_nil _, fun handlers => ?_⟩
    exact (Ends.idle h).eq_attempt.symm
  | fails e after h =>
    rw [h] at hback
    refine ⟨hback, rfl, rfl, List.forall_mem_nil _, fun handlers => ?_⟩
    exact (Ends.fails e after h).eq_attempt.symm
  | refuses after h =>
    rw [h] at hback
    refine ⟨hback, rfl, rfl, List.forall_mem_nil _, fun handlers => ?_⟩
    exact (Ends.refuses after h).eq_attempt.symm
  | vetoed after hne h hveto =>
    rw [h] at hback
    refine ⟨hback, rfl, rfl, fun notice hnotice => ?_, fun handlers => ?_⟩
    · rcases List.mem_append.1 hnotice with hnotice | hnotice
      · exact Hooks.not_ofAction_of_mem_emit (by decide) hnotice
      · exact Hooks.not_ofAction_of_mem_approveFrom hnotice
    · have hends : rule.Ends { engine with handlers := handlers } knowledge book _ :=
        .vetoed after hne h hveto
      exact hends.eq_attempt.symm
  | fires after hne h hveto =>
    -- The rule fires, so neither of the two results is possible.
    exfalso
    rcases hresult with hresult | ⟨e, -, hraises⟩
    · exact fire_result_ne engine rule after book hresult
    · have hfails := hraises.evaluateAll_eq
      rw [h] at hfails
      cases hfails

/-- A rule for a member of the staff who uses a method. -/
def staffRule (methods : List String) : Rule :=
  ⟨"staff", none, 0, [Condition.staffTree, .request ⟨methods, none⟩], [.log "welcome"]⟩

/-- An observer, and a veto that refuses everything. -/
def strictEngine : Engine := ⟨.empty, ⟨["observer"], [fun _ _ => false]⟩, true⟩

/-- A request by a member of the staff, whose method is not known, leaves no trace, if the rule
needs the method and so raises an error, and if it does not and is refused by the veto. -/
theorem attempt_unseen_staffRule :
    let knowledge := Condition.staffKnowledge.rollback
    ((staffRule ["GET"]).attempt strictEngine knowledge .empty).result =
      .error (.missingFact Knowledge.methodFact) ∧
    (staffRule ["GET"]).Unseen strictEngine knowledge .empty
      ((staffRule ["GET"]).attempt strictEngine knowledge .empty) ∧
    ((staffRule []).attempt strictEngine knowledge .empty).result = .ok false ∧
    (staffRule []).Unseen strictEngine knowledge .empty
      ((staffRule []).attempt strictEngine knowledge .empty) := by
  intro knowledge
  have hspeculative (methods : List String) :
      ∀ condition ∈ (staffRule methods).conditions, condition.Speculative :=
    List.forall_mem_cons.2 ⟨attempt_unseen.1 _ Condition.registered_staffTree,
      List.forall_mem_singleton.2 (Condition.Native.request _).speculative⟩
  have hraises : (staffRule ["GET"]).Raises knowledge (.missingFact Knowledge.methodFact) :=
    ⟨[Condition.staffTree], _, [], _, rfl, rfl, rfl⟩
  refine ⟨rfl, ?_, rfl, ?_⟩
  · exact attempt_unseen.2 _ _ _ _ (hspeculative _) rfl (.inr ⟨_, rfl, hraises⟩)
  · exact attempt_unseen.2 _ _ _ _ (hspeculative _) rfl (.inl rfl)

end Rule

end RequestRouting
