import RequestRouting.Proofs.Dispatch
import RequestRouting.Proofs.Modes
import RequestRouting.Session.Basic

/-!
# Runs of harmless rules

The actions of a dry run store results, write to the log, and call handlers that do nothing.  They
cannot fail, and they leave what conditions look at as it is.  A run over such rules goes to its
end, unless a condition fails over a fact that the request does not have.

## Main definitions

* `RuleAction.Harmless`, `Rule.Harmless` — actions of a dry run, and rules of native conditions with
  such actions.
* `Knowledge.Settled` — the knowledge between two attempts of a run.
* `Outcome.Expected` — a step ends with such knowledge, and fails only over a fact that is lacking.

## Main results

* `Rule.Harmless.attempt_expected` — an attempt at a harmless rule ends as expected.
* `Engine.attemptAll_expected` — so does a run over harmless rules.
-/

set_option autoImplicit false

namespace RequestRouting

/-! ## The knowledge between two attempts -/

/-- Between two attempts of a run no transaction is open, nothing waits to derive facts, and the
evidence is that at the beginning. -/
structure Knowledge.Settled (evidence : Evidence) (knowledge : Knowledge) : Prop where
  evidence_eq : knowledge.evidence = evidence
  closed : knowledge.inTransaction = false
  extractors : knowledge.committed.extractors = []

/-- A step ends between two attempts, and fails only over a needed fact that is lacking. -/
structure Outcome.Expected {α : Type} (evidence : Evidence) (outcome : Outcome α) : Prop where
  settled : outcome.knowledge.Settled evidence
  error : ∀ e, outcome.result = .error e → ∃ name ∈ neededFacts, evidence.Lacks name e

namespace Knowledge.Settled

variable {evidence : Evidence} {knowledge : Knowledge}

/-- Storing a result settles nothing anew. -/
lemma setResult (h : knowledge.Settled evidence) (name : String) (value : Json) :
    (knowledge.setResult name value false).Settled evidence :=
  ⟨h.evidence_eq, h.closed, h.extractors⟩

/-- So does storing captured values under names. -/
lemma bindReferences (h : knowledge.Settled evidence) (names : List String)
    (references : List Json) : (bindReferences knowledge names references).Settled evidence := by
  induction names generalizing knowledge references with
  | nil => exact h
  | cons name names ih => exact ih (h.setResult name _) references.tail

/-- So does storing several results. -/
lemma setResults (h : knowledge.Settled evidence) (values : List (String × Json)) :
    (setResults knowledge values).Settled evidence := by
  induction values generalizing knowledge with
  | nil => exact h
  | cons entry rest ih => exact ih (h.setResult entry.1 entry.2)

/-- So does committing the output of conditions. -/
lemma absorb (h : knowledge.Settled evidence) (output : Output) :
    (knowledge.absorb output).Settled evidence :=
  ⟨h.evidence_eq, h.closed, h.extractors⟩

/-- Where nothing waits to derive facts, none are derived. -/
lemma extractFacts (h : knowledge.Settled evidence) (clear : Bool) :
    (knowledge.extractFacts clear).Settled evidence := by
  obtain ⟨facts, derived, ⟨results, backreferences, extractors⟩, staged, parameters, identity,
    runs⟩ := knowledge
  obtain rfl : extractors = [] := h.extractors
  cases clear <;> exact ⟨h.evidence_eq, h.closed, rfl⟩

end Knowledge.Settled

/-! ## Actions -/

/-- An action of a dry run: if it calls a handler, that one is there and does nothing. -/
inductive RuleAction.Harmless (handlers : Handlers) : RuleAction → Prop where
  | handler {name : String} (h : handlers.table.get? name = some recordingHandler) :
    Harmless handlers (.handler name)
  | bind (names : List String) : Harmless handlers (.bind names)
  | set (values : Dict Json) : Harmless handlers (.set values)
  | log (message : String) : Harmless handlers (.log message)

variable {evidence : Evidence} {knowledge : Knowledge}

/-- A harmless action succeeds. -/
lemma RuleAction.Harmless.perform {handlers : Handlers} {action : RuleAction}
    (haction : action.Harmless handlers) (rule : String) (references : List Json)
    (h : knowledge.Settled evidence) (book : RuleBook) :
    (action.perform handlers rule references knowledge book).outcome = .ok () ∧
      (action.perform handlers rule references knowledge book).knowledge.Settled evidence := by
  cases haction with
  | handler hhandler =>
    simp only [RuleAction.perform, Handlers.call, hhandler]
    exact ⟨rfl, h⟩
  | bind names => exact ⟨rfl, h.bindReferences names references⟩
  | set values => exact ⟨rfl, h.setResults values.entries⟩
  | log message => exact ⟨rfl, h⟩

/-- So do harmless actions one after another. -/
lemma performAll_harmless {handlers : Handlers} {actions : List RuleAction}
    (hactions : ∀ action ∈ actions, action.Harmless handlers) (rule : String)
    (references : List Json) (h : knowledge.Settled evidence) (book : RuleBook) :
    (performAll handlers rule references actions knowledge book).outcome = .ok () ∧
      (performAll handlers rule references actions knowledge book).knowledge.Settled evidence := by
  induction actions generalizing knowledge book with
  | nil => exact ⟨rfl, h⟩
  | cons action rest ih =>
    obtain ⟨haction, hrest⟩ := List.forall_mem_cons.1 hactions
    obtain ⟨houtcome, hsettled⟩ := haction.perform rule references h book
    simp only [performAll, houtcome]
    exact ih hrest hsettled _

/-! ## Rules -/

/-- A rule of a dry run. -/
structure Rule.Harmless (handlers : Handlers) (rule : Rule) : Prop where
  conditions : ∀ condition ∈ rule.conditions, condition.Native
  actions : ∀ action ∈ rule.actions, action.Harmless handlers

/-- A rule decides to fail only over a needed fact that is lacking. -/
lemma Rule.lacks_of_decision? {engine : Engine} {rule : Rule} {e : RuleError}
    (hnative : ∀ condition ∈ rule.conditions, condition.Native)
    (h : rule.decision? engine knowledge = some (.error e)) :
    ∃ name ∈ neededFacts, knowledge.evidence.Lacks name e := by
  unfold decision? at h
  split at h
  · cases h
  split at h
  · next e' hmeaning =>
    cases h
    exact Condition.failsFor_allMean hnative _ e hmeaning
  · cases h
  · split at h <;> cases h

/-- **An attempt at a harmless rule ends as expected.**

**Proof sketch.** The attempt carries out the decision of the rule.  If it decides to fail, then
over a fact that is lacking; and if it decides to fire, then its actions succeed. -/
theorem Rule.Harmless.attempt_expected {engine : Engine} {rule : Rule}
    (hrule : rule.Harmless engine.handlers) (h : knowledge.Settled evidence) (book : RuleBook) :
    (engine.attempt rule knowledge book).Expected evidence := by
  have hvisible : (engine.attempt rule knowledge book).visible = _ :=
    Rule.visible_attempt hrule.conditions h.closed
  generalize engine.attempt rule knowledge book = outcome at hvisible ⊢
  obtain ⟨result, after, later, notices⟩ := outcome
  cases hdecision : rule.decision? engine knowledge with
  | none =>
    rw [hdecision] at hvisible
    obtain ⟨rfl, rfl, rfl⟩ := by simpa [Outcome.visible] using hvisible
    exact ⟨h, fun e he => by cases he⟩
  | some decision =>
    rw [hdecision] at hvisible
    cases decision with
    | error e =>
      obtain ⟨rfl, rfl, rfl⟩ := by simpa [Outcome.visible, Engine.conclude] using hvisible
      refine ⟨h, fun e' he => ?_⟩
      obtain rfl : e = e' := by simpa [Except.map] using he
      exact h.evidence_eq ▸ Rule.lacks_of_decision? hrule.conditions hdecision
    | ok output =>
      have hsettled := (h.absorb output).extractFacts engine.clearExtractors
      obtain ⟨houtcome, hafter⟩ := performAll_harmless hrule.actions rule.name
        output.backreferences hsettled book
      obtain ⟨rfl, rfl, rfl⟩ := by
        simpa [Outcome.visible, Engine.conclude, houtcome] using hvisible
      exact ⟨hafter, fun e he => by cases he⟩

/-! ## Runs -/

/-- **A run over harmless rules ends as expected.**

**Proof sketch.** Induction on the rules: an attempt that does not fail ends with settled knowledge,
from which the rest of the run starts. -/
theorem Engine.attemptAll_expected {engine : Engine} {rules : List Rule}
    (hrules : ∀ rule ∈ rules, rule.Harmless engine.handlers) (cut : Bool)
    (h : knowledge.Settled evidence) (book : RuleBook) :
    (engine.attemptAll cut rules knowledge book).Expected evidence := by
  induction rules generalizing knowledge book with
  | nil => exact ⟨h, fun e he => by cases he⟩
  | cons rule rest ih =>
    obtain ⟨hrule, hrest⟩ := List.forall_mem_cons.1 hrules
    have hattempt := hrule.attempt_expected h book
    have hlater := ih hrest hattempt.settled (engine.attempt rule knowledge book).book
    unfold attemptAll
    dsimp only
    split
    · next e he =>
      refine ⟨hattempt.settled, fun e' he' => ?_⟩
      cases he'
      exact hattempt.error e he
    · split
      · exact ⟨hattempt.settled, fun e he => by cases he⟩
      · refine ⟨hlater.settled, fun e he => hlater.error e ?_⟩
        generalize engine.attemptAll cut rest _ _ = later at he ⊢
        obtain ⟨_ | _, _, _, _⟩ := later
        · exact he
        · cases he

end RequestRouting
