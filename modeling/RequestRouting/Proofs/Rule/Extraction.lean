import RequestRouting.Proofs.Knowledge.Extraction
import RequestRouting.Proofs.Rule.Block

/-!
# Fact extraction in an attempt

Conditions may stage extractors.  Those that are staged when an attempt commits become registered
and run before the actions of the rule; those of any other attempt are gone with its transaction.

## Main definitions

* `Condition.StagesExtractors`, `RuleAction.RegistersNone` — what conditions and actions may do.
* `RuleAction.PublishesOnly` — what actions do that leave the extractors alone.
* `Trial` — an attempt at a rule, with the handlers, hooks and rule book of the time.
* `Trial.Reaches` — the moments of an attempt.
* `Trial.staging`, `Trial.extractions` — the extractors that an attempt leaves to its commit, and
  those that run at the commit.

## Main results

* `Condition.stagesExtractors_bool` — Boolean conditions stage extractors only, if their parts do.
* `Trial.Reaches.steady` — the facts of the request are the same at every moment.
* `Trial.Behaved.commits` — which extractors run at a commit, and what they derive.
* `Trial.Reaches.runsOnly` — which extractors have run at any moment.
-/

set_option autoImplicit false

namespace RequestRouting

/-! ## Conditions -/

/-- What becomes of knowledge while a transaction is open and extractors are staged only: the facts,
derived or not, and the registered extractors are the same, none has run, and the transaction is
still open. -/
structure Knowledge.Stays (before after : Knowledge) : Prop where
  facts : after.facts = before.facts
  derived : after.derived = before.derived
  registered : after.committed.extractors = before.committed.extractors
  runs : after.runs = before.runs
  inTransaction : after.inTransaction = true

/-- What is staged only for some time and then for some more is staged only. -/
lemma Knowledge.Stays.trans {before between after : Knowledge} (h : before.Stays between)
    (h' : between.Stays after) : before.Stays after :=
  ⟨h'.facts.trans h.facts, h'.derived.trans h.derived, h'.registered.trans h.registered,
    h'.runs.trans h.runs, h'.inTransaction⟩

/-- A condition stages extractors, but registers and runs none: inside of a transaction it leaves
the facts and the registered extractors as they are, and the transaction open. -/
def Condition.StagesExtractors (condition : Condition) : Prop :=
  ∀ knowledge : Knowledge, knowledge.inTransaction = true →
    knowledge.Stays (condition.evaluate knowledge).2

/-- Speculative conditions do no more than that. -/
lemma Condition.Speculative.stagesExtractors {condition : Condition}
    (h : condition.Speculative) : condition.StagesExtractors := by
  intro knowledge hopen
  obtain ⟨layer, hafter⟩ := (h knowledge).exists_withActive
  obtain ⟨staged, hstaged⟩ := Option.isSome_iff_exists.1 hopen
  rw [hafter, Knowledge.withActive_of_staged hstaged]
  exact ⟨rfl, rfl, rfl, rfl, rfl⟩

/-- Returning to a savepoint does no more than that. -/
lemma Knowledge.Stays.rollbackTo {before after : Knowledge} (h : before.Stays after)
    (savepoint : Savepoint) : before.Stays (after.rollbackTo savepoint) := by
  obtain ⟨staged, hstaged⟩ := Option.isSome_iff_exists.1 h.inTransaction
  unfold Knowledge.rollbackTo Knowledge.mapActive
  rw [hstaged]
  split
  · exact ⟨h.facts, h.derived, h.registered, h.runs, rfl⟩
  · exact h

/-- To stage only, inside of a transaction, is a frame. -/
lemma Knowledge.Stays.frame :
    Knowledge.Frame fun before after => before.inTransaction = true → before.Stays after where
  refl _ hopen := ⟨rfl, rfl, rfl, rfl, hopen⟩
  trans h h' hopen := (h hopen).trans (h' (h hopen).inTransaction)
  rollbackTo savepoint h hopen := (h hopen).rollbackTo savepoint

/-- **Boolean conditions stage extractors only**, if their parts do; what parts have staged that are
undone is gone. -/
theorem Condition.stagesExtractors_bool (operator : BoolOperator) {conditions : List Condition}
    (h : ∀ condition ∈ conditions, condition.StagesExtractors) :
    (Condition.bool operator conditions).StagesExtractors :=
  Knowledge.Stays.frame.keeps_bool h operator

/-! ## Actions -/

/-- An action registers no extractors, whatever other edits it makes. -/
def RuleAction.RegistersNone (handlers : Handlers) (action : RuleAction) : Prop :=
  ∀ (rule : String) (references : List Json) (knowledge : Knowledge) (book : RuleBook),
    knowledge.Edits (action.perform handlers rule references knowledge book).knowledge

/-- Results are written to the committed layer, and nothing else happens. -/
inductive Knowledge.Publishes (knowledge : Knowledge) : Knowledge → Prop where
  | nothing : Publishes knowledge knowledge
  | setResult {after : Knowledge} (name : String) (value : Json) (h : Publishes knowledge after) :
      Publishes knowledge (after.setResult name value false)

namespace Knowledge.Publishes

variable {before between after : Knowledge}

/-- Writing may go on. -/
lemma trans (h : before.Publishes between) (h' : between.Publishes after) :
    before.Publishes after := by
  induction h' with
  | nothing => exact h
  | setResult name value _ ih => exact ih.setResult name value

/-- To write results is to register no extractors. -/
lemma edits (h : before.Publishes after) : before.Edits after := by
  induction h with
  | nothing => exact .nothing
  | setResult name value _ ih => exact ih.setResult name value false

/-- No extractor runs. -/
lemma runs_eq (h : before.Publishes after) : after.runs = before.runs := by
  induction h with
  | nothing => rfl
  | setResult name value _ ih => exact ih

/-- The registered extractors stay. -/
lemma registered_eq (h : before.Publishes after) :
    after.committed.extractors = before.committed.extractors := by
  induction h with
  | nothing => rfl
  | setResult name value _ ih => exact ih

end Knowledge.Publishes

/-- An action does not do more than to write results. -/
def RuleAction.PublishesOnly (handlers : Handlers) (action : RuleAction) : Prop :=
  ∀ (rule : String) (references : List Json) (knowledge : Knowledge) (book : RuleBook),
    knowledge.Publishes (action.perform handlers rule references knowledge book).knowledge

namespace RuleAction

variable {handlers : Handlers}

/-- If it writes results only, then it registers no extractors. -/
lemma PublishesOnly.registersNone {action : RuleAction} (h : action.PublishesOnly handlers) :
    action.RegistersNone handlers :=
  fun _ _ _ _ => (h _ _ _ _).edits

variable (handlers)

/-- Storing captured values writes results only. -/
lemma publishesOnly_bind (names : List String) : (bind names).PublishesOnly handlers := by
  intro rule references knowledge book
  have hbind : ∀ (names : List String) (references : List Json) {after : Knowledge},
      knowledge.Publishes after → knowledge.Publishes (bindReferences after names references) := by
    intro names
    induction names with
    | nil => exact fun _ _ h => h
    | cons name rest ih => exact fun references _ h => ih references.tail (h.setResult ..)
  exact hbind names references .nothing

/-- So does storing constant results. -/
lemma publishesOnly_set (values : Dict Json) : (set values).PublishesOnly handlers := by
  intro rule references knowledge book
  have hset : ∀ (fields : List (String × Json)) {after : Knowledge},
      knowledge.Publishes after → knowledge.Publishes (setResults after fields) := by
    intro fields
    induction fields with
    | nil => exact fun h => h
    | cons field rest ih => exact fun h => ih (h.setResult ..)
  exact hset values.entries .nothing

/-- Writing to the log writes no results. -/
lemma publishesOnly_log (message : String) : (log message).PublishesOnly handlers :=
  fun _ _ _ _ => .nothing

end RuleAction

/-- Actions one after another do not do more than to write results, if none of them does. -/
lemma publishes_performAll {handlers : Handlers} {rule : String} {references : List Json}
    {actions : List RuleAction} (hactions : ∀ action ∈ actions, action.PublishesOnly handlers)
    (knowledge : Knowledge) (book : RuleBook) :
    knowledge.Publishes (performAll handlers rule references actions knowledge book).knowledge := by
  fun_induction performAll handlers rule references actions knowledge book with
  | case1 => exact .nothing
  | case2 action rest knowledge book performed e he =>
    exact hactions action List.mem_cons_self _ _ _ _
  | case3 action rest knowledge book performed he later ih =>
    obtain ⟨hfirst, hrest⟩ := List.forall_mem_cons.1 hactions
    exact (hfirst rule references knowledge book).trans (ih hrest)

/-- Actions one after another spare the facts of the request, and register nothing. -/
lemma spares_performAll {handlers : Handlers} {rule : String} {references : List Json}
    {actions : List RuleAction} (hactions : ∀ action ∈ actions, action.RegistersNone handlers)
    {knowledge : Knowledge} (hnone : knowledge.stagedExtractors = []) (book : RuleBook) :
    knowledge.Spares (performAll handlers rule references actions knowledge book).knowledge := by
  fun_induction performAll handlers rule references actions knowledge book with
  | case1 => exact Knowledge.Edits.nothing.spares hnone
  | case2 action rest knowledge book performed e he =>
    exact (hactions action List.mem_cons_self _ _ _ _).spares hnone
  | case3 action rest knowledge book performed he later ih =>
    obtain ⟨hfirst, hrest⟩ := List.forall_mem_cons.1 hactions
    have hperformed := (hfirst rule references knowledge book).spares hnone
    exact hperformed.trans (ih hrest hperformed.staged)

/-! ## One attempt -/

/-- An attempt at a rule: what attempts need to know besides, and the book at the time. -/
structure Trial where
  engine : Engine
  rule : Rule
  book : RuleBook

namespace Trial

/-- Conditions stage extractors only, and actions register none. -/
structure Behaved (trial : Trial) : Prop where
  conditions : ∀ condition ∈ trial.rule.conditions, condition.StagesExtractors
  actions : ∀ action ∈ trial.rule.actions, action.RegistersNone trial.engine.handlers

/-- What is known when the attempt is over. -/
def after (trial : Trial) (before : Knowledge) : Knowledge :=
  (trial.rule.attempt trial.engine before trial.book).knowledge

/-- What is known when the attempt is about to commit, if it gets so far. -/
def staged? (trial : Trial) (before : Knowledge) : Option Knowledge :=
  trial.rule.staged? trial.engine before

/-- What is known when facts have been derived after the commit, and no action has been run. -/
def extracted (trial : Trial) (staged : Knowledge) : Knowledge :=
  staged.commit.2.extractFacts trial.engine.clearExtractors

/-- What is known behind some of the actions. -/
def acted (trial : Trial) (staged : Knowledge) (actions : List RuleAction) : Knowledge :=
  (performAll trial.engine.handlers trial.rule.name staged.commit.1 actions
    (trial.extracted staged) trial.book).knowledge

/-- The moments of an attempt: its beginning; behind some of its conditions; its commit; behind some
of its actions, where none of them means that facts have just been derived; and its end. -/
inductive Reaches (trial : Trial) (before : Knowledge) : Knowledge → Prop where
  | start : Reaches trial before before
  | conditions (done rest : List Condition) (h : trial.rule.conditions = done ++ rest) :
      Reaches trial before (Condition.evaluateAll done before.begin).2
  | commit {staged : Knowledge} (h : trial.staged? before = some staged) :
      Reaches trial before staged.commit.2
  | actions {staged : Knowledge} (done rest : List RuleAction)
      (h : trial.staged? before = some staged) (hactions : trial.rule.actions = done ++ rest) :
      Reaches trial before (trial.acted staged done)
  | ended : Reaches trial before (trial.after before)

/-- The extractors that are staged when the attempt commits; if it does not, there are none. -/
def staging (trial : Trial) (before : Knowledge) : List Extractor :=
  (trial.staged? before).elim [] Knowledge.stagedExtractors

/-- The runs of extractors at the commit of the attempt; if it does not commit, there are none. -/
def extractions (trial : Trial) (before : Knowledge) : List Extraction :=
  (trial.staged? before).elim [] fun staged => staged.commit.2.extractions

variable {trial : Trial} {before staged moment : Knowledge}

/-- An attempt that does not commit leaves no extractors to a commit. -/
lemma staging_of_none (h : trial.staged? before = none) : trial.staging before = [] := by
  rw [staging, h]
  rfl

/-- An attempt that does not commit runs no extractors. -/
lemma extractions_of_none (h : trial.staged? before = none) : trial.extractions before = [] := by
  rw [extractions, h]
  rfl

/-- An attempt that commits is over when its actions have been run. -/
lemma after_of_staged? (h : trial.staged? before = some staged) :
    trial.after before = trial.acted staged trial.rule.actions := by
  have hattempt := trial.rule.attempt_eq_of_staged? trial.engine before trial.book
  unfold staged? at h
  rw [h] at hattempt
  exact hattempt.2.1

/-- Conditions leave facts and registered extractors, and run none. -/
lemma Behaved.stays_conditions (h : trial.Behaved) {done rest : List Condition}
    (hconditions : trial.rule.conditions = done ++ rest) (before : Knowledge) :
    before.begin.Stays (Condition.evaluateAll done before.begin).2 := by
  have hdone : ∀ condition ∈ done, condition.StagesExtractors := fun condition hmem =>
    h.conditions condition (by rw [hconditions]; exact List.mem_append_left _ hmem)
  exact Knowledge.Stays.frame.evaluateAll hdone before.begin rfl

/-- Until an attempt commits, facts and registered extractors stay. -/
lemma Behaved.stays (h : trial.Behaved) (hstaged : trial.staged? before = some staged) :
    before.begin.Stays staged := by
  have hattempt := trial.rule.attempt_eq_of_staged? trial.engine before trial.book
  unfold staged? at hstaged
  rw [hstaged] at hattempt
  have hstays := h.stays_conditions (List.append_nil _).symm before
  rw [hattempt.1] at hstays
  exact hstays

/-- What an attempt that does not commit leaves. -/
lemma Behaved.idle (h : trial.Behaved) (hnone : trial.staged? before = none) :
    (trial.after before).facts = before.facts ∧ (trial.after before).derived = before.derived ∧
      (trial.after before).committed.extractors = before.committed.extractors ∧
      (trial.after before).runs = before.runs := by
  have hattempt := trial.rule.attempt_eq_of_staged? trial.engine before trial.book
  unfold staged? at hnone
  rw [hnone] at hattempt
  have hstays := h.stays_conditions (List.append_nil _).symm before
  unfold after
  rcases hattempt.1 with hsame | hback
  · rw [hsame]
    exact ⟨rfl, rfl, rfl, rfl⟩
  · rw [hback]
    exact ⟨hstays.facts, hstays.derived, hstays.registered, hstays.runs⟩

/-- The actions of an attempt spare what there is when facts have been derived. -/
lemma Behaved.spares (h : trial.Behaved) {done rest : List RuleAction}
    (hactions : trial.rule.actions = done ++ rest) (staged : Knowledge) :
    (trial.extracted staged).Spares (trial.acted staged done) := by
  have hdone : ∀ action ∈ done, action.RegistersNone trial.engine.handlers := fun action hmem =>
    h.actions action (by rw [hactions]; exact List.mem_append_left _ hmem)
  have hnone : (trial.extracted staged).stagedExtractors = [] := by
    rw [extracted, Knowledge.stagedExtractors, Knowledge.staged_extractFacts]
    exact Knowledge.stagedExtractors_commit staged
  exact spares_performAll hdone hnone trial.book

/-- **At every moment of an attempt the facts of the request are the same.**

**Proof sketch.** Case analysis on the moment.  Up to the commit nothing is derived; deriving facts
leaves those of the request; and so do the actions. -/
theorem Reaches.steady (h : trial.Reaches before moment) (hbehaved : trial.Behaved) :
    before.Steady moment := by
  -- these two moments are passed on the way to the later ones
  have hcommit {staged : Knowledge} (hstaged : trial.staged? before = some staged) :
      before.Steady staged.commit.2 := by
    have hstays := hbehaved.stays hstaged
    exact .of_eq (by rw [Knowledge.facts_commit, hstays.facts]; rfl)
      (by rw [Knowledge.derived_commit, hstays.derived]; rfl)
  have hacted {staged : Knowledge} {done rest : List RuleAction}
      (hstaged : trial.staged? before = some staged)
      (hactions : trial.rule.actions = done ++ rest) : before.Steady (trial.acted staged done) :=
    ((hcommit hstaged).trans (.extractFacts _ _)).trans (hbehaved.spares hactions staged).steady
  cases h with
  | start => exact .refl before
  | conditions done rest hconditions =>
    have hstays := hbehaved.stays_conditions hconditions before
    exact .of_eq hstays.facts hstays.derived
  | commit hstaged => exact hcommit hstaged
  | actions done rest hstaged hactions => exact hacted hstaged hactions
  | ended =>
    cases hstaged : trial.staged? before with
    | none =>
      obtain ⟨hfacts, hderived, -⟩ := hbehaved.idle hstaged
      exact .of_eq hfacts hderived
    | some staged =>
      rw [after_of_staged? hstaged]
      exact hacted hstaged (List.append_nil _).symm

/-- What happens in an attempt that commits, between the commit and the actions. -/
structure Commits (trial : Trial) (before staged : Knowledge) : Prop where
  /-- The runs of the commit come behind all earlier ones. -/
  runs : (trial.extracted staged).runs = before.runs ++ trial.extractions before
  /-- Those extractors run that are registered when the attempt begins, and then those that it has
  staged, each once and in order. -/
  order : (trial.extractions before).map Extraction.extractor =
    before.committed.extractors ++ trial.staging before
  /-- They run over the results right after the commit. -/
  results : ∀ extraction ∈ trial.extractions before,
    extraction.results = staged.commit.2.committed.results
  /-- What the last of them gives goes before what the others give, and before what was derived
  earlier; but nothing is derived under the name of a fact of the request. -/
  derived : ∀ name, (trial.extracted staged).derived.get? name =
    if before.facts.has name then before.derived.get? name
    else (Extraction.latest? (trial.extractions before) name).or (before.derived.get? name)
  /-- Then they are forgotten, or all of them stay registered. -/
  registered : (trial.extracted staged).committed.extractors =
    if trial.engine.clearExtractors then []
    else before.committed.extractors ++ trial.staging before
  /-- The actions start from there. -/
  actions : trial.after before = trial.acted staged trial.rule.actions
  /-- They take extractors away at most, and run no others than are left. -/
  spared : (trial.extracted staged).Spares (trial.after before)

/-- **Which extractors run at a commit, and what they derive.** -/
theorem Behaved.commits (h : trial.Behaved) (hstaged : trial.staged? before = some staged) :
    trial.Commits before staged := by
  have hstays := h.stays hstaged
  have hregistered : staged.commit.2.committed.extractors =
      before.committed.extractors ++ trial.staging before := by
    rw [Knowledge.extractors_commit, hstays.registered, staging, hstaged]
    rfl
  have hextractions : trial.extractions before = staged.commit.2.extractions := by
    rw [extractions, hstaged]
    rfl
  refine ⟨?_, ?_, ?_, fun name => ?_, ?_, after_of_staged? hstaged, ?_⟩
  · rw [extracted, Knowledge.runs_extractFacts, Knowledge.runs_commit, hstays.runs, hextractions]
    rfl
  · rw [hextractions, Knowledge.extractions, List.map_map, ← hregistered]
    exact List.map_id _
  · rw [hextractions]
    intro extraction hmem
    obtain ⟨extractor, -, rfl⟩ := List.mem_map.1 hmem
    rfl
  · rw [extracted, Knowledge.get?_derived_extractFacts, hextractions, Knowledge.facts_commit,
      Knowledge.derived_commit, hstays.facts, hstays.derived]
    rfl
  · rw [extracted, Knowledge.extractors_extractFacts, hregistered]
  · rw [after_of_staged? hstaged]
    exact h.spares (List.append_nil _).symm staged

/-- **What has run at any moment of an attempt** had been registered before, or has been staged for
the commit of the attempt.

**Proof sketch.** Case analysis on the moment.  Nothing runs up to the commit; then those run that
are registered; and actions can run no others. -/
theorem Reaches.runsOnly (h : trial.Reaches before moment) (hbehaved : trial.Behaved) :
    before.RunsOnly moment (before.committed.extractors ++ trial.staging before) := by
  have hacted {staged : Knowledge} {done rest : List RuleAction}
      (hstaged : trial.staged? before = some staged)
      (hactions : trial.rule.actions = done ++ rest) :
      before.RunsOnly (trial.acted staged done)
        (before.committed.extractors ++ trial.staging before) := by
    have hcommits := hbehaved.commits hstaged
    have hcommitted : before.RunsOnly (trial.extracted staged)
        (before.committed.extractors ++ trial.staging before) :=
      ⟨_, hcommits.runs, fun extraction hmem => hcommits.order ▸ List.mem_map_of_mem hmem⟩
    have hleft : (trial.extracted staged).committed.extractors ⊆
        before.committed.extractors ++ trial.staging before := by
      rw [hcommits.registered]
      split
      · exact List.nil_subset _
      · exact List.Subset.refl _
    exact hcommitted.trans ((hbehaved.spares hactions staged).runsOnly.mono hleft)
  cases h with
  | start => exact .of_eq rfl
  | conditions done rest hconditions =>
    exact .of_eq (hbehaved.stays_conditions hconditions before).runs
  | commit hstaged =>
    refine .of_eq ?_
    rw [Knowledge.runs_commit, (hbehaved.stays hstaged).runs]
    rfl
  | actions done rest hstaged hactions => exact hacted hstaged hactions
  | ended =>
    cases hstaged : trial.staged? before with
    | none => exact .of_eq (hbehaved.idle hstaged).2.2.2
    | some staged =>
      rw [after_of_staged? hstaged]
      exact hacted hstaged (List.append_nil _).symm

end Trial

end RequestRouting
