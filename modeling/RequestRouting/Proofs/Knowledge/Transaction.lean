import Mathlib.Data.List.Forall2
import Mathlib.Tactic.Lemma
import RequestRouting.Knowledge
import RequestRouting.Proofs.Fields

/-!
# Transactions

A transaction puts a layer of its own over the committed one.  Steps that write speculatively, take
savepoints and return to them do the same to that layer as they would do to the committed one: at
every point of a sequence of steps the committed layer, with the staged one merged into it, is what
the same steps would have made of it directly.

## Main definitions

* `Knowledge.Step`, `Knowledge.runSteps` — sequences of steps, which number their savepoints.
* `Savepoint.Shifts` — savepoints of a staged layer, and of the committed layer with that one merged
  into it.
* `Knowledge.Progress.Shadows` — a sequence of steps has got equally far inside of a transaction and
  without one.

## Main results

* `Knowledge.Progress.Shadows.apply` — each step keeps both runs together.
* `Knowledge.commit_runSteps` — committing a sequence of steps is the same as running them without a
  transaction, and rolling it back is the same as not running them.
-/

set_option autoImplicit false

namespace RequestRouting

namespace Knowledge

/-! ## Sequences of steps -/

/-- A speculative write, or a part of a partial rollback. -/
inductive Step where
  | setResult (name : String) (value : Json)
  | push (value : Json)
  | extend (values : List Json)
  | addExtractor (extractor : Extractor)
  /-- Takes a savepoint.  The savepoints of a sequence are numbered from zero on. -/
  | savepoint
  /-- Returns to the savepoint with a number, if it has been taken. -/
  | rollbackTo (number : Nat)

/-- What is known after some steps, and the savepoints that they have taken, by their numbers. -/
structure Progress where
  knowledge : Knowledge
  savepoints : List Savepoint

/-- Takes a step. -/
def Step.apply (step : Step) (progress : Progress) : Progress :=
  match step with
  | .setResult name value =>
    { progress with knowledge := progress.knowledge.setResult name value true }
  | .push value => { progress with knowledge := progress.knowledge.addBackreferences [value] }
  | .extend values => { progress with knowledge := progress.knowledge.addBackreferences values }
  | .addExtractor extractor =>
    { progress with knowledge := progress.knowledge.addExtractor extractor true }
  | .savepoint =>
    { progress with savepoints := progress.savepoints ++ [progress.knowledge.savepoint] }
  | .rollbackTo number =>
    match progress.savepoints[number]? with
    | some taken => { progress with knowledge := progress.knowledge.rollbackTo taken }
    | none => progress

/-- Takes steps one after another, with no savepoint at the beginning. -/
def runSteps (steps : List Step) (knowledge : Knowledge) : Progress :=
  steps.foldl (fun progress step => step.apply progress) ⟨knowledge, []⟩

end Knowledge

/-! ## Merging -/

namespace Layer

variable (base layer : Layer)

/-- Merging a layer without output changes nothing. -/
@[simp] lemma merge_empty : base.merge .empty = base := by
  simp [merge, empty, Dict.empty]

/-- A result of the later layer is a result of the merged one. -/
lemma merge_setResult (name : String) (value : Json) :
    base.merge (layer.setResult name value) = (base.merge layer).setResult name value := by
  have hresults := base.results.overlay_entries_overlay layer.results [(name, value)]
  simpa [merge, setResult] using hresults

/-- What the later layer captures comes last in the merged one. -/
lemma merge_addBackreferences (values : List Json) :
    base.merge (layer.addBackreferences values) = (base.merge layer).addBackreferences values := by
  simp [merge, addBackreferences]

/-- The extractors of the later layer come last in the merged one. -/
lemma merge_addExtractor (extractor : Extractor) :
    base.merge (layer.addExtractor extractor) = (base.merge layer).addExtractor extractor := by
  simp [merge, addExtractor]

end Layer

/-! ## Savepoints -/

/-- A savepoint of a staged layer, and one of the committed layer `base` with that layer merged into
it: the copy of the results goes over those of `base`, and the counts go on from its own. -/
structure Savepoint.Shifts (base : Layer) (staged direct : Savepoint) : Prop where
  inside : staged.inTransaction = true
  outside : direct.inTransaction = false
  results : direct.results = base.results.overlay staged.results.entries
  backreferences : direct.backreferences = base.backreferences.length + staged.backreferences
  extractors : direct.extractors = base.extractors.length + staged.extractors

/-- Rewinding commutes with merging: the lists of `base` are never cut, since the counts are beyond
their ends. -/
lemma Savepoint.Shifts.merge_rewind {base : Layer} {staged direct : Savepoint}
    (h : Savepoint.Shifts base staged direct) (layer : Layer) :
    base.merge (Knowledge.rewind staged layer) = Knowledge.rewind direct (base.merge layer) := by
  simp [Layer.merge, Knowledge.rewind, h.results, h.backreferences, h.extractors,
    List.take_length_add_append]

namespace Knowledge

/-! ## Both runs side by side -/

/-- Steps that began with `knowledge` have got equally far inside of a transaction and without one:
the one run has staged a layer, and the other has merged that layer into the committed one. -/
structure Progress.Shadows (knowledge : Knowledge) (inside outside : Progress) : Prop where
  layer : ∃ layer, inside.knowledge = { knowledge with staged := some layer } ∧
    outside.knowledge =
      { knowledge with committed := knowledge.committed.merge layer, staged := none }
  savepoints : List.Forall₂ (Savepoint.Shifts knowledge.committed) inside.savepoints
    outside.savepoints

namespace Progress.Shadows

variable {knowledge : Knowledge} {inside outside : Progress}

/-- At the beginning nothing has been staged. -/
lemma start (hclosed : knowledge.inTransaction = false) :
    Shadows knowledge ⟨knowledge.begin, []⟩ ⟨knowledge, []⟩ := by
  refine ⟨⟨.empty, rfl, ?_⟩, .nil⟩
  obtain ⟨facts, derived, committed, staged, parameters, identity, runs⟩ := knowledge
  cases staged with
  | some layer => cases hclosed
  | none => simp

/-- A write keeps both runs together if it commutes with merging. -/
lemma mapActive (h : Shadows knowledge inside outside) {change : Layer → Layer}
    (hchange : ∀ layer, knowledge.committed.merge (change layer) =
      change (knowledge.committed.merge layer)) :
    Shadows knowledge { inside with knowledge := inside.knowledge.mapActive change }
      { outside with knowledge := outside.knowledge.mapActive change } := by
  obtain ⟨layer, hinside, houtside⟩ := h.layer
  refine ⟨⟨change layer, ?_, ?_⟩, h.savepoints⟩
  · simp [hinside, Knowledge.mapActive]
  · simp [houtside, Knowledge.mapActive, hchange]

/-- Savepoints that are taken at the same point correspond. -/
lemma shifts_savepoint (h : Shadows knowledge inside outside) :
    Savepoint.Shifts knowledge.committed inside.knowledge.savepoint
      outside.knowledge.savepoint := by
  obtain ⟨layer, hinside, houtside⟩ := h.layer
  rw [hinside, houtside]
  exact ⟨rfl, rfl, rfl, List.length_append, List.length_append⟩

/-- Returning to corresponding savepoints keeps both runs together. -/
lemma rollbackTo (h : Shadows knowledge inside outside) {staged direct : Savepoint}
    (hshifts : Savepoint.Shifts knowledge.committed staged direct) :
    Shadows knowledge { inside with knowledge := inside.knowledge.rollbackTo staged }
      { outside with knowledge := outside.knowledge.rollbackTo direct } := by
  obtain ⟨layer, hinside, houtside⟩ := h.layer
  refine ⟨⟨rewind staged layer, ?_, ?_⟩, h.savepoints⟩
  · simp [hinside, Knowledge.rollbackTo, Knowledge.mapActive, inTransaction, hshifts.inside]
  · simp [houtside, Knowledge.rollbackTo, Knowledge.mapActive, inTransaction, hshifts.outside,
      hshifts.merge_rewind]

/-- **Each step keeps both runs together.** -/
theorem apply (h : Shadows knowledge inside outside) (step : Step) :
    Shadows knowledge (step.apply inside) (step.apply outside) := by
  cases step with
  | setResult name value =>
    exact h.mapActive fun layer => knowledge.committed.merge_setResult layer name value
  | push value =>
    exact h.mapActive fun layer => knowledge.committed.merge_addBackreferences layer [value]
  | extend values =>
    exact h.mapActive fun layer => knowledge.committed.merge_addBackreferences layer values
  | addExtractor extractor =>
    exact h.mapActive fun layer => knowledge.committed.merge_addExtractor layer extractor
  | savepoint =>
    exact ⟨h.layer, List.rel_append h.savepoints (.cons h.shifts_savepoint .nil)⟩
  | rollbackTo number =>
    simp only [Step.apply]
    -- Both runs have taken equally many savepoints, so the number names one in both or in neither.
    by_cases hnumber : number < inside.savepoints.length
    · have hnumber' : number < outside.savepoints.length := h.savepoints.length_eq ▸ hnumber
      rw [List.getElem?_eq_getElem hnumber, List.getElem?_eq_getElem hnumber']
      exact h.rollbackTo (h.savepoints.get hnumber hnumber')
    · have hnumber' : ¬ number < outside.savepoints.length := h.savepoints.length_eq ▸ hnumber
      rw [List.getElem?_eq_none (Nat.not_lt.1 hnumber),
        List.getElem?_eq_none (Nat.not_lt.1 hnumber')]
      exact h

/-- Steps keep both runs together. -/
lemma foldl_apply (h : Shadows knowledge inside outside) (steps : List Step) :
    Shadows knowledge (steps.foldl (fun progress step => step.apply progress) inside)
      (steps.foldl (fun progress step => step.apply progress) outside) := by
  induction steps generalizing inside outside with
  | nil => exact h
  | cons step rest ih => exact ih (h.apply step)

end Progress.Shadows

/-! ## Committing and rolling back -/

/-- **Committing a sequence of steps is the same as running them without a transaction**, and
rolling it back is the same as not running them.  The commit returns the backreferences by which the
steps without a transaction have extended the committed ones.

**Proof sketch.** Both runs stay together, so the committed layer of the run without a transaction
is the one at the beginning with the staged layer of the other run merged into it.  A commit merges
the same two layers, and a rollback forgets the staged one. -/
theorem commit_runSteps {knowledge : Knowledge} (hclosed : knowledge.inTransaction = false)
    (steps : List Step) :
    let inside := (runSteps steps knowledge.begin).knowledge
    let outside := (runSteps steps knowledge).knowledge
    inside.commit.2 = outside ∧
    outside.committed.backreferences =
      knowledge.committed.backreferences ++ inside.commit.1 ∧
    inside.rollback = knowledge := by
  intro inside outside
  obtain ⟨layer, hinside, houtside⟩ := ((Progress.Shadows.start hclosed).foldl_apply steps).layer
  have hinside : inside = { knowledge with staged := some layer } := hinside
  have houtside : outside =
    { knowledge with committed := knowledge.committed.merge layer, staged := none } := houtside
  rw [hinside, houtside]
  refine ⟨rfl, rfl, ?_⟩
  obtain ⟨facts, derived, committed, staged, parameters, identity, runs⟩ := knowledge
  cases staged with
  | some layer => cases hclosed
  | none => rfl

/-- Knowledge with a committed result and a committed backreference. -/
def visitedKnowledge : Knowledge :=
  (empty.setResult "page" (.string "index") false).addBackreferences [.string "index"]

/-- Steps that return to an early savepoint, then to a later one, and to the early one again. -/
def wanderingSteps : List Step :=
  [.push (.string "a"), .savepoint, .setResult "page" (.string "b"),
    .extend [.string "b", .string "c"], .savepoint, .rollbackTo 0, .push (.string "d"),
    .rollbackTo 1, .setResult "kept" (.bool true), .push (.string "e"), .rollbackTo 0,
    .rollbackTo 1]

/-- The later savepoint brings its results back, but not the values that the early one had cut
off. -/
theorem commit_runSteps_wanderingSteps :
    let inside := (runSteps wanderingSteps visitedKnowledge.begin).knowledge
    let outside := (runSteps wanderingSteps visitedKnowledge).knowledge
    visitedKnowledge.inTransaction = false ∧
    inside.commit.2 = outside ∧
    outside.committed.backreferences =
      visitedKnowledge.committed.backreferences ++ inside.commit.1 ∧
    inside.rollback = visitedKnowledge ∧
    inside.commit.1 = [.string "a"] ∧
    outside.result? "page" = some (.string "b") := by
  intro inside outside
  have hclosed : visitedKnowledge.inTransaction = false := rfl
  obtain ⟨hcommit, hreferences, hrollback⟩ := commit_runSteps hclosed wanderingSteps
  exact ⟨rfl, hcommit, hreferences, hrollback, rfl, by cbv⟩

end Knowledge

end RequestRouting
