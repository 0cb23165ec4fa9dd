import Mathlib.Tactic.Lemma
import RequestRouting.Knowledge

/-!
# The active layer

Conditions write to the active layer only: the staged one while a transaction is open, and the
committed one otherwise.  Replacing that layer is one operation, `withActive`, and every
speculative write is an instance of it.

## Main definitions

* `Knowledge.withActive` — the same knowledge with another active layer.
* `Layer.Extends` — a layer has all backreferences and extractors of another, in front of its own.
* `Knowledge.Writes` — what some speculative writes make of a state of knowledge.

## Main results

* `Knowledge.rollbackTo_savepoint` — returning to a savepoint undoes whatever has extended the
  active layer since.
* `Knowledge.Writes.exists_withActive` — speculative writes change nothing but the active layer.
* `Knowledge.Writes.rollback_begin` — a rollback undoes all speculative writes of a transaction.
-/

set_option autoImplicit false

namespace RequestRouting

namespace Knowledge

/-- The same knowledge with another active layer. -/
def withActive (knowledge : Knowledge) (layer : Layer) : Knowledge :=
  knowledge.mapActive fun _ => layer

section WithActive

variable (knowledge : Knowledge) (layer later : Layer)

/-- Inside a transaction the active layer is the staged one. -/
lemma withActive_of_staged {knowledge : Knowledge} {staged : Layer}
    (h : knowledge.staged = some staged) (layer : Layer) :
    knowledge.withActive layer = { knowledge with staged := some layer } := by
  simp [withActive, mapActive, h]

@[simp] lemma facts_withActive : (knowledge.withActive layer).facts = knowledge.facts := by
  unfold withActive mapActive; split <;> rfl

@[simp] lemma derived_withActive : (knowledge.withActive layer).derived = knowledge.derived := by
  unfold withActive mapActive; split <;> rfl

@[simp] lemma parameters_withActive :
    (knowledge.withActive layer).parameters = knowledge.parameters := by
  unfold withActive mapActive; split <;> rfl

@[simp] lemma identity_withActive :
    (knowledge.withActive layer).identity = knowledge.identity := by
  unfold withActive mapActive; split <;> rfl

@[simp] lemma inTransaction_withActive :
    (knowledge.withActive layer).inTransaction = knowledge.inTransaction := by
  unfold withActive mapActive; split <;> simp_all [inTransaction]

@[simp] lemma active_withActive : (knowledge.withActive layer).active = layer := by
  unfold withActive mapActive; split <;> simp_all [active]

@[simp] lemma withActive_active : knowledge.withActive knowledge.active = knowledge := by
  obtain ⟨_, _, _, staged, _, _⟩ := knowledge
  cases staged <;> rfl

@[simp] lemma withActive_withActive :
    (knowledge.withActive layer).withActive later = knowledge.withActive later := by
  obtain ⟨_, _, _, staged, _, _⟩ := knowledge
  cases staged <;> rfl

/-- Changing the active layer puts the changed layer in its place. -/
lemma mapActive_eq (change : Layer → Layer) :
    knowledge.mapActive change = knowledge.withActive (change knowledge.active) := by
  unfold withActive mapActive active
  split <;> simp_all

/-- A speculative result goes to the active layer. -/
lemma setResult_true (name : String) (value : Json) :
    knowledge.setResult name value true =
      knowledge.withActive (knowledge.active.setResult name value) := by
  simp [setResult, mapActive_eq]

/-- Captured values go to the active layer. -/
lemma addBackreferences_eq (values : List Json) :
    knowledge.addBackreferences values =
      knowledge.withActive (knowledge.active.addBackreferences values) := by
  simp [addBackreferences, mapActive_eq]

/-- A speculative extractor goes to the active layer. -/
lemma addExtractor_true (extractor : Extractor) :
    knowledge.addExtractor extractor true =
      knowledge.withActive (knowledge.active.addExtractor extractor) := by
  simp [addExtractor, mapActive_eq]

end WithActive

end Knowledge

/-! ## Savepoints -/

/-- A layer extends another if it has all its backreferences and all its extractors, in front of any
others.  Nothing is asked of the results, of which savepoints keep a copy. -/
structure Layer.Extends (layer later : Layer) : Prop where
  backreferences : layer.backreferences <+: later.backreferences
  extractors : layer.extractors <+: later.extractors

namespace Layer.Extends

/-- Every layer extends itself. -/
lemma refl (layer : Layer) : layer.Extends layer :=
  ⟨List.prefix_refl _, List.prefix_refl _⟩

/-- An extension of an extension is an extension. -/
lemma trans {first second third : Layer} (h : first.Extends second) (h' : second.Extends third) :
    first.Extends third :=
  ⟨h.backreferences.trans h'.backreferences, h.extractors.trans h'.extractors⟩

/-- Rewinding an extension gives the layer back. -/
lemma rewind {knowledge : Knowledge} {later : Layer} (h : knowledge.active.Extends later) :
    Knowledge.rewind knowledge.savepoint later = knowledge.active := by
  simp only [Knowledge.rewind, Knowledge.savepoint, ← List.prefix_iff_eq_take.1 h.backreferences,
    ← List.prefix_iff_eq_take.1 h.extractors]

end Layer.Extends

namespace Knowledge

/-- **Partial rollback.**  Returning to a savepoint undoes whatever has extended the active layer
since the savepoint was taken. -/
theorem rollbackTo_savepoint {knowledge : Knowledge} {later : Layer}
    (h : knowledge.active.Extends later) :
    (knowledge.withActive later).rollbackTo knowledge.savepoint = knowledge := by
  have hside : knowledge.savepoint.inTransaction = (knowledge.withActive later).inTransaction := by
    rw [inTransaction_withActive]
    rfl
  simp [rollbackTo, hside, mapActive_eq, h.rewind]

/-! ## Speculative writes -/

/-- `knowledge.Writes after` says that speculative writes take `knowledge` to `after`: results,
backreferences and extractors for the active layer, and returns to savepoints, wherever and whenever
these were taken. -/
inductive Writes (knowledge : Knowledge) : Knowledge → Prop where
  | nothing : Writes knowledge knowledge
  | setResult {after : Knowledge} (name : String) (value : Json) (h : Writes knowledge after) :
    Writes knowledge (after.setResult name value true)
  | addBackreferences {after : Knowledge} (values : List Json) (h : Writes knowledge after) :
    Writes knowledge (after.addBackreferences values)
  | addExtractor {after : Knowledge} (extractor : Extractor) (h : Writes knowledge after) :
    Writes knowledge (after.addExtractor extractor true)
  | rollbackTo {after : Knowledge} (savepoint : Savepoint) (h : Writes knowledge after) :
    Writes knowledge (after.rollbackTo savepoint)

namespace Writes

/-- Writes may follow each other. -/
lemma trans {first second third : Knowledge} (h : first.Writes second) (h' : second.Writes third) :
    first.Writes third := by
  induction h' with
  | nothing => exact h
  | setResult name value _ ih => exact ih.setResult name value
  | addBackreferences values _ ih => exact ih.addBackreferences values
  | addExtractor extractor _ ih => exact ih.addExtractor extractor
  | rollbackTo savepoint _ ih => exact ih.rollbackTo savepoint

/-- **Speculative writes change nothing but the active layer.**

**Proof sketch.** Induction on the writes.  Each of them replaces the active layer, and the second
of two replacements stands. -/
theorem exists_withActive {knowledge after : Knowledge} (h : knowledge.Writes after) :
    ∃ layer, after = knowledge.withActive layer := by
  induction h with
  | nothing => exact ⟨knowledge.active, (withActive_active knowledge).symm⟩
  | setResult name value _ ih =>
    obtain ⟨layer, rfl⟩ := ih
    exact ⟨_, by rw [setResult_true, withActive_withActive]⟩
  | addBackreferences values _ ih =>
    obtain ⟨layer, rfl⟩ := ih
    exact ⟨_, by rw [addBackreferences_eq, withActive_withActive]⟩
  | addExtractor extractor _ ih =>
    obtain ⟨layer, rfl⟩ := ih
    exact ⟨_, by rw [addExtractor_true, withActive_withActive]⟩
  | rollbackTo savepoint _ ih =>
    obtain ⟨layer, rfl⟩ := ih
    unfold Knowledge.rollbackTo
    split
    · exact ⟨_, by rw [mapActive_eq, withActive_withActive]⟩
    · exact ⟨layer, rfl⟩

/-- Rolling a transaction back undoes every speculative write that was made in it. -/
theorem rollback_begin {knowledge after : Knowledge} (h : knowledge.begin.Writes after) :
    after.rollback = knowledge.rollback := by
  obtain ⟨layer, rfl⟩ := h.exists_withActive
  rfl

end Writes

/-- Outside of transactions there is nothing to roll back. -/
lemma rollback_of_not_inTransaction {knowledge : Knowledge}
    (h : knowledge.inTransaction = false) : knowledge.rollback = knowledge := by
  obtain ⟨_, _, _, staged, _, _⟩ := knowledge
  cases staged with
  | none => rfl
  | some layer => cases h

end Knowledge

end RequestRouting
