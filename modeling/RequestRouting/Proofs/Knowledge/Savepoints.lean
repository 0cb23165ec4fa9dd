import Mathlib.Data.List.TakeDrop
import RequestRouting.Proofs.Knowledge.Extraction
import RequestRouting.Proofs.Knowledge.Transaction

/-!
# Savepoints and the steps behind them

A savepoint has a copy of the results of the active layer, but only the lengths of its lists.  As
long as no transaction is opened or closed, that is enough to bring the layer back: the steps behind
the savepoint only append to the lists, and the savepoints that they take lie further on.

A savepoint does not say to which transaction it belongs.  When that transaction has been closed, it
has no effect while none is open; but in another transaction it is taken for one of that.

## Main definitions

* `Knowledge.InnerStep` — steps that neither open nor close a transaction.
* `Knowledge.Operation` — all operations on knowledge.
* `Savepoint.NotBefore` — a savepoint of the same layer, taken no earlier.
* `Knowledge.Progress.Since` — what some steps have made of knowledge.
* `Knowledge.reopened` — whether some operations leave another transaction open.

## Main results

* `Knowledge.Progress.Since.apply` — a step extends the active layer, and changes nothing beneath it
  but for the writes that are committed at once.
* `Knowledge.rollbackTo_runInner` — returning to a savepoint undoes exactly what the steps behind it
  have done to the active layer.
* `Knowledge.inTransaction_runOperations` — the last opening or closing decides whether a
  transaction is open.
* `Knowledge.rollbackTo_of_closed` — what a savepoint does when its transaction has been closed.
-/

set_option autoImplicit false

namespace RequestRouting

/-! ## Layers and their savepoints -/

namespace Layer

variable (layer : Layer)

/-- A result adds nothing to the lists. -/
lemma extends_setResult (name : String) (value : Json) :
    layer.Extends (layer.setResult name value) :=
  ⟨List.prefix_refl _, List.prefix_refl _⟩

/-- Captured values are appended. -/
lemma extends_addBackreferences (values : List Json) :
    layer.Extends (layer.addBackreferences values) :=
  ⟨List.prefix_append _ _, List.prefix_refl _⟩

/-- An extractor is appended. -/
lemma extends_addExtractor (extractor : Extractor) : layer.Extends (layer.addExtractor extractor) :=
  ⟨List.prefix_refl _, List.prefix_append _ _⟩

end Layer

/-- A savepoint of the layer that is active in `knowledge`, taken when that layer had no fewer
backreferences and no fewer extractors. -/
structure Savepoint.NotBefore (knowledge : Knowledge) (savepoint : Savepoint) : Prop where
  inTransaction : savepoint.inTransaction = knowledge.inTransaction
  backreferences : knowledge.active.backreferences.length ≤ savepoint.backreferences
  extractors : knowledge.active.extractors.length ≤ savepoint.extractors

/-- Rewinding to such a savepoint cuts nothing off that was there in the beginning. -/
lemma Layer.Extends.rewind_of_notBefore {knowledge : Knowledge} {savepoint : Savepoint}
    {later : Layer} (h : knowledge.active.Extends later) (hpoint : savepoint.NotBefore knowledge) :
    knowledge.active.Extends (Knowledge.rewind savepoint later) :=
  ⟨List.prefix_take_iff.2 ⟨h.backreferences, hpoint.backreferences⟩,
    List.prefix_take_iff.2 ⟨h.extractors, hpoint.extractors⟩⟩

namespace Knowledge

/-! ## Steps between two transactions or inside of one -/

/-- A step that neither opens nor closes a transaction. -/
inductive InnerStep where
  /-- A speculative write, or a part of a partial rollback. -/
  | speculative (step : Step)
  /-- Writes a result that is committed at once. -/
  | setResult (name : String) (value : Json)
  /-- Registers an extractor at once. -/
  | addExtractor (extractor : Extractor)

namespace InnerStep

/-- Takes a step. -/
def apply (step : InnerStep) (progress : Progress) : Progress :=
  match step with
  | .speculative step => step.apply progress
  | .setResult name value =>
    { progress with knowledge := progress.knowledge.setResult name value false }
  | .addExtractor extractor =>
    { progress with knowledge := progress.knowledge.addExtractor extractor false }

/-- What a step writes to the committed layer, past an open transaction. -/
def direct : InnerStep → Layer → Layer
  | .speculative _, layer => layer
  | .setResult name value, layer => layer.setResult name value
  | .addExtractor extractor, layer => layer.addExtractor extractor

/-- What a step changes beneath the active layer. -/
def beneath (step : InnerStep) (knowledge : Knowledge) : Knowledge :=
  if knowledge.inTransaction then knowledge.mapCommitted step.direct else knowledge

end InnerStep

/-- Takes steps one after another. -/
def runInner (steps : List InnerStep) (progress : Progress) : Progress :=
  steps.foldl (fun progress step => step.apply progress) progress

section Beneath

variable (step : InnerStep) (knowledge : Knowledge)

/-- What lies beneath the active layer has no influence on it. -/
@[simp] lemma active_beneath : (step.beneath knowledge).active = knowledge.active := by
  obtain ⟨_, _, _, staged, _, _⟩ := knowledge
  cases staged <;> rfl

/-- A step leaves a transaction open, and opens none. -/
@[simp] lemma inTransaction_beneath :
    (step.beneath knowledge).inTransaction = knowledge.inTransaction := by
  obtain ⟨_, _, _, staged, _, _⟩ := knowledge
  cases staged <;> rfl

/-- A write to the committed layer either goes beneath the active layer, or to the active one. -/
lemma mapCommitted_withActive (change : Layer → Layer) (layer : Layer) :
    (knowledge.withActive layer).mapCommitted change =
      if knowledge.inTransaction then (knowledge.mapCommitted change).withActive layer
      else knowledge.withActive (change layer) := by
  obtain ⟨_, _, _, staged, _, _⟩ := knowledge
  cases staged <;> rfl

/-- The writes of some steps beneath the active layer are those to the committed layer, if there is
another one in front of it. -/
lemma foldl_beneath (steps : List InnerStep) :
    steps.foldl (fun knowledge step => step.beneath knowledge) knowledge =
      if knowledge.inTransaction then
        knowledge.mapCommitted fun layer => steps.foldl (fun layer step => step.direct layer) layer
      else knowledge := by
  induction steps generalizing knowledge with
  | nil => cases knowledge.inTransaction <;> rfl
  | cons step rest ih =>
    rw [List.foldl_cons, ih, inTransaction_beneath]
    cases hopen : knowledge.inTransaction <;> simp [InnerStep.beneath, hopen, mapCommitted]

/-- However many steps are taken, what lies beneath the active layer has no influence on it. -/
lemma active_foldl_beneath (steps : List InnerStep) :
    (steps.foldl (fun knowledge step => step.beneath knowledge) knowledge).active =
      knowledge.active := by
  induction steps generalizing knowledge with
  | nil => rfl
  | cons step rest ih => rw [List.foldl_cons, ih, active_beneath]

/-- However many steps are taken, a transaction stays open. -/
lemma inTransaction_foldl_beneath (steps : List InnerStep) :
    (steps.foldl (fun knowledge step => step.beneath knowledge) knowledge).inTransaction =
      knowledge.inTransaction := by
  induction steps generalizing knowledge with
  | nil => rfl
  | cons step rest ih => rw [List.foldl_cons, ih, inTransaction_beneath]

end Beneath

/-! ## Partial rollback -/

/-- What some steps have made of `knowledge`: the active layer has been extended, and the savepoints
that have been taken are not before it.  Beneath the active layer nothing has changed. -/
structure Progress.Since (knowledge : Knowledge) (progress : Progress) : Prop where
  layer : ∃ layer, knowledge.active.Extends layer ∧
    progress.knowledge = knowledge.withActive layer
  savepoints : ∀ savepoint ∈ progress.savepoints, savepoint.NotBefore knowledge

namespace Progress.Since

variable {knowledge : Knowledge} {progress : Progress}

/-- At the beginning nothing has changed. -/
lemma start (knowledge : Knowledge) : Since knowledge ⟨knowledge, []⟩ :=
  ⟨⟨knowledge.active, .refl _, (withActive_active knowledge).symm⟩, List.forall_mem_nil _⟩

/-- A savepoint that is taken now is not before the beginning. -/
lemma notBefore (h : Since knowledge progress) :
    progress.knowledge.savepoint.NotBefore knowledge := by
  obtain ⟨layer, hlayer, heq⟩ := h.layer
  rw [heq]
  refine ⟨inTransaction_withActive knowledge layer, ?_, ?_⟩
  · simpa [savepoint] using hlayer.backreferences.length_le
  · simpa [savepoint] using hlayer.extractors.length_le

/-- A write that extends every layer extends the active one further. -/
lemma mapActive (h : Since knowledge progress) {change : Layer → Layer}
    (hchange : ∀ layer : Layer, layer.Extends (change layer)) :
    Since knowledge { progress with knowledge := progress.knowledge.mapActive change } := by
  obtain ⟨layer, hlayer, heq⟩ := h.layer
  refine ⟨⟨change layer, hlayer.trans (hchange layer), ?_⟩, h.savepoints⟩
  simp [heq, mapActive_eq]

/-- Returning to a savepoint that has been taken on the way goes back no further than to the
beginning. -/
lemma rollbackTo (h : Since knowledge progress) {savepoint : Savepoint}
    (hmem : savepoint ∈ progress.savepoints) :
    Since knowledge { progress with knowledge := progress.knowledge.rollbackTo savepoint } := by
  obtain ⟨layer, hlayer, heq⟩ := h.layer
  have hpoint := h.savepoints savepoint hmem
  refine ⟨⟨rewind savepoint layer, hlayer.rewind_of_notBefore hpoint, ?_⟩, h.savepoints⟩
  simp [heq, Knowledge.rollbackTo, hpoint.inTransaction, mapActive_eq]

/-- A speculative step changes nothing beneath the active layer. -/
lemma speculative (h : Since knowledge progress) (step : Step) :
    Since knowledge (step.apply progress) := by
  cases step with
  | setResult name value => exact h.mapActive fun layer => layer.extends_setResult name value
  | push value => exact h.mapActive fun layer => layer.extends_addBackreferences [value]
  | extend values => exact h.mapActive fun layer => layer.extends_addBackreferences values
  | addExtractor extractor => exact h.mapActive fun layer => layer.extends_addExtractor extractor
  | savepoint =>
    refine ⟨h.layer, fun point hpoint => ?_⟩
    rcases List.mem_append.1 hpoint with hpoint | hpoint
    · exact h.savepoints point hpoint
    · obtain rfl := List.mem_singleton.1 hpoint
      exact h.notBefore
  | rollbackTo number =>
    simp only [Step.apply]
    split
    · next point hpoint => exact h.rollbackTo (List.mem_of_getElem? hpoint)
    · exact h

/-- A write to the committed layer goes beneath the active layer inside of transactions; outside, it
extends the active one. -/
lemma mapCommitted (h : Since knowledge progress) (step : InnerStep)
    (hextends : ∀ layer : Layer, layer.Extends (step.direct layer)) :
    Since (step.beneath knowledge)
      { progress with knowledge := progress.knowledge.mapCommitted step.direct } := by
  obtain ⟨layer, hlayer, heq⟩ := h.layer
  refine ⟨?_, fun point hpoint => ?_⟩
  · rw [heq, mapCommitted_withActive, active_beneath, InnerStep.beneath]
    split
    · exact ⟨layer, hlayer, rfl⟩
    · exact ⟨step.direct layer, hlayer.trans (hextends layer), rfl⟩
  · obtain ⟨hside, hreferences, hextractors⟩ := h.savepoints point hpoint
    exact ⟨by simpa using hside, by simpa using hreferences, by simpa using hextractors⟩

/-- **A step extends the active layer**, and changes nothing beneath it but for the writes that are
committed at once. -/
theorem apply (h : Since knowledge progress) (step : InnerStep) :
    Since (step.beneath knowledge) (step.apply progress) := by
  cases step with
  | speculative step =>
    have hbeneath : (InnerStep.speculative step).beneath knowledge = knowledge := ite_self _
    rw [hbeneath]
    exact h.speculative step
  | setResult name value =>
    exact h.mapCommitted (.setResult name value) fun layer => layer.extends_setResult name value
  | addExtractor extractor =>
    exact h.mapCommitted (.addExtractor extractor)
      fun layer => layer.extends_addExtractor extractor

/-- Steps extend the active layer, one after another. -/
lemma runInner (h : Since knowledge progress) (steps : List InnerStep) :
    Since (steps.foldl (fun knowledge step => step.beneath knowledge) knowledge)
      (runInner steps progress) := by
  induction steps generalizing knowledge progress with
  | nil => exact h
  | cons step rest ih => exact ih (h.apply step)

end Progress.Since

/-- **Partial rollback is exact.**  Steps that follow a savepoint may write, speculatively or not,
take further savepoints and return to these.  Returning to the first one then puts the active layer
of that time in the place of the present one, and changes nothing else.  So of all that the steps
have done only the writes to the committed layer are left, and those only beneath an open
transaction.

**Proof sketch.** The steps extend the active layer that the savepoint has marked, over a base that
differs from the knowledge of that time by the direct writes; so returning to it gives the base. -/
theorem rollbackTo_runInner (knowledge : Knowledge) (steps : List InnerStep) :
    let after := (runInner steps ⟨knowledge, []⟩).knowledge
    let back := after.rollbackTo knowledge.savepoint
    back.active = knowledge.active ∧
    back = after.withActive knowledge.active ∧
    back = if knowledge.inTransaction then
        knowledge.mapCommitted fun layer => steps.foldl (fun layer step => step.direct layer) layer
      else knowledge := by
  intro after back
  set base := steps.foldl (fun knowledge step => step.beneath knowledge) knowledge with hbase
  have hactive : base.active = knowledge.active := active_foldl_beneath knowledge steps
  have hopen : base.inTransaction = knowledge.inTransaction :=
    inTransaction_foldl_beneath knowledge steps
  have hpoint : base.savepoint = knowledge.savepoint := by
    simp only [savepoint, hopen, hactive]
  obtain ⟨layer, hlayer, hafter⟩ := ((Progress.Since.start knowledge).runInner steps).layer
  have hafter : after = base.withActive layer := hafter
  have hback : back = base := by
    show after.rollbackTo knowledge.savepoint = base
    rw [hafter, ← hpoint]
    exact rollbackTo_savepoint hlayer
  refine ⟨by rw [hback, hactive], ?_, by rw [hback, hbase, foldl_beneath]⟩
  rw [hback, hafter, withActive_withActive, ← hactive, withActive_active]

/-! ## Operations -/

/-- An operation on knowledge. -/
inductive Operation where
  /-- Neither opens nor closes a transaction. -/
  | inner (step : InnerStep)
  /-- Opens a transaction; one that is open is thrown away. -/
  | begin
  /-- Closes the open transaction and keeps its output. -/
  | commit
  /-- Closes the open transaction and throws its output away. -/
  | rollback
  /-- Derives facts. -/
  | extractFacts (clear : Bool)
  /-- Supplies facts of the request. -/
  | withFacts (facts : List (String × Json))
  /-- Supplies the parameters of the request. -/
  | withParameters (parameters : Parameters)
  /-- Says who makes the request. -/
  | withIdentity (identity : Identity)

namespace Operation

/-- Makes an operation. -/
def apply (operation : Operation) (progress : Progress) : Progress :=
  match operation with
  | .inner step => step.apply progress
  | .begin => { progress with knowledge := progress.knowledge.begin }
  | .commit => { progress with knowledge := progress.knowledge.commit.2 }
  | .rollback => { progress with knowledge := progress.knowledge.rollback }
  | .extractFacts clear => { progress with knowledge := progress.knowledge.extractFacts clear }
  | .withFacts facts => { progress with knowledge := progress.knowledge.withFacts facts }
  | .withParameters parameters =>
    { progress with knowledge := { progress.knowledge with parameters := some parameters } }
  | .withIdentity identity =>
    { progress with knowledge := { progress.knowledge with identity := some identity } }

/-- Whether a transaction is open behind an operation that opens or closes one.  Such an operation
closes the transaction that has been open before, and a beginning opens another one. -/
def opens? : Operation → Option Bool
  | .begin => some true
  | .commit | .rollback => some false
  | _ => none

/-- Whether an operation closes the open transaction. -/
def closes (operation : Operation) : Bool := operation.opens?.isSome

end Operation

/-- Makes operations one after another. -/
def runOperations (operations : List Operation) (progress : Progress) : Progress :=
  operations.foldl (fun progress operation => operation.apply progress) progress

/-- Whether some operations, of which one closes a transaction, leave another one open. -/
def reopened (operations : List Operation) : Bool :=
  (operations.filterMap Operation.opens?).getLast?.getD false

/-- Changing the active layer opens no transaction and closes none. -/
@[simp] lemma inTransaction_mapActive (knowledge : Knowledge) (change : Layer → Layer) :
    (knowledge.mapActive change).inTransaction = knowledge.inTransaction := by
  rw [mapActive_eq, inTransaction_withActive]

/-- Nor does a partial rollback. -/
@[simp] lemma inTransaction_rollbackTo (knowledge : Knowledge) (savepoint : Savepoint) :
    (knowledge.rollbackTo savepoint).inTransaction = knowledge.inTransaction := by
  unfold rollbackTo
  split
  · exact inTransaction_mapActive _ _
  · rfl

/-- A step that neither opens nor closes a transaction leaves it open, or leaves none open. -/
lemma InnerStep.inTransaction_apply (step : InnerStep) (progress : Progress) :
    (step.apply progress).knowledge.inTransaction = progress.knowledge.inTransaction := by
  cases step with
  | speculative step =>
    cases step with
    | setResult name value => exact inTransaction_mapActive _ _
    | push value => exact inTransaction_mapActive _ _
    | extend values => exact inTransaction_mapActive _ _
    | addExtractor extractor => exact inTransaction_mapActive _ _
    | savepoint => rfl
    | rollbackTo number =>
      simp only [InnerStep.apply, Step.apply]
      split
      · exact inTransaction_rollbackTo _ _
      · rfl
  | setResult name value => rfl
  | addExtractor extractor => rfl

/-- An operation that opens or closes a transaction decides whether one is open; any other leaves
that as it is. -/
lemma Operation.inTransaction_apply (operation : Operation) (progress : Progress) :
    (operation.apply progress).knowledge.inTransaction =
      operation.opens?.getD progress.knowledge.inTransaction := by
  cases operation with
  | inner step => exact step.inTransaction_apply progress
  | commit =>
    show progress.knowledge.commit.2.inTransaction = false
    unfold Knowledge.commit
    split
    · next hnone => simp [inTransaction, hnone]
    · rfl
  | begin | rollback | withFacts | withParameters | withIdentity => rfl
  | extractFacts clear =>
    exact congrArg Option.isSome (Knowledge.staged_extractFacts progress.knowledge clear)

/-- **The last opening or closing decides whether a transaction is open.** -/
theorem inTransaction_runOperations (operations : List Operation) (progress : Progress) :
    (runOperations operations progress).knowledge.inTransaction =
      (operations.filterMap Operation.opens?).getLast?.getD progress.knowledge.inTransaction := by
  induction operations generalizing progress with
  | nil => rfl
  | cons operation rest ih =>
    show (runOperations rest (operation.apply progress)).knowledge.inTransaction = _
    rw [ih, operation.inTransaction_apply]
    cases hopens : operation.opens? with
    | none => simp [hopens]
    | some opened => simp [hopens, List.getLast?_cons]

/-- Behind operations of which one closes a transaction, there is an open one if they have opened
it. -/
lemma inTransaction_runOperations_of_closed {operations : List Operation}
    (hclosed : ∃ operation ∈ operations, operation.closes = true) (progress : Progress) :
    (runOperations operations progress).knowledge.inTransaction = reopened operations := by
  obtain ⟨operation, hmem, hcloses⟩ := hclosed
  obtain ⟨opened, hopened⟩ := Option.isSome_iff_exists.1 hcloses
  have hboundary : operations.filterMap Operation.opens? ≠ [] :=
    List.ne_nil_of_mem (List.mem_filterMap.2 ⟨operation, hmem, hopened⟩)
  rw [inTransaction_runOperations, reopened, List.getLast?_eq_some_getLast hboundary]
  rfl

/-! ## Savepoints of transactions that have been closed -/

/-- Rewinding changes nothing if the results are those of the savepoint and the lists have not grown
beyond it. -/
lemma rewind_eq_self_iff {savepoint : Savepoint} {layer : Layer} :
    rewind savepoint layer = layer ↔
      savepoint.results = layer.results ∧
      layer.backreferences.length ≤ savepoint.backreferences ∧
      layer.extractors.length ≤ savepoint.extractors := by
  obtain ⟨results, backreferences, extractors⟩ := layer
  simp [rewind]

/-- Another active layer makes a difference. -/
lemma withActive_eq_self_iff {knowledge : Knowledge} {layer : Layer} :
    knowledge.withActive layer = knowledge ↔ layer = knowledge.active := by
  constructor
  · intro h
    rw [← active_withActive knowledge layer, h]
  · rintro rfl
    exact withActive_active knowledge

/-- **A savepoint whose transaction has been closed** has no effect while no other transaction is
open.  In another transaction it is taken for one of that: the results that were staged when the
savepoint was taken come in the place of those that the other transaction has staged, and of the
lists as much is left as there was then.  So it has no effect in there only if the other transaction
has staged the same results and no more values or extractors.

**Proof sketch.** The savepoint has been taken inside of a transaction, and that is all it knows of
it.  Since then a transaction has been closed, so whether one is open now depends on the operations
alone. -/
theorem rollbackTo_of_closed {progress : Progress}
    (hopen : progress.knowledge.inTransaction = true) {operations : List Operation}
    (hclosed : ∃ operation ∈ operations, operation.closes = true) :
    let taken := progress.knowledge
    let later := (runOperations operations progress).knowledge
    let back := later.rollbackTo taken.savepoint
    (back = if reopened operations then
        later.withActive ⟨taken.active.results,
          later.active.backreferences.take taken.active.backreferences.length,
          later.active.extractors.take taken.active.extractors.length⟩
      else later) ∧
    (back = later ↔ reopened operations = true →
      taken.active.results = later.active.results ∧
      later.active.backreferences.length ≤ taken.active.backreferences.length ∧
      later.active.extractors.length ≤ taken.active.extractors.length) := by
  intro taken later back
  have hlater : later.inTransaction = reopened operations :=
    inTransaction_runOperations_of_closed hclosed progress
  have hinside : taken.savepoint.inTransaction = true := hopen
  have hback : back = if reopened operations then
      later.withActive (rewind taken.savepoint later.active) else later := by
    show later.rollbackTo taken.savepoint = _
    rw [rollbackTo, hinside, hlater, mapActive_eq]
    cases reopened operations <;> rfl
  refine ⟨hback, ?_⟩
  rw [hback]
  cases reopened operations with
  | false => simp
  | true =>
    rw [if_pos rfl, withActive_eq_self_iff, rewind_eq_self_iff]
    exact ⟨fun h _ => h, fun h => h rfl⟩

/-- A transaction is open, and it has staged a result. -/
def stagedGuest : Progress :=
  ⟨empty.begin.setResult identityResult (.string "guest") true, []⟩

/-- When the transaction has been closed, another one may be opened and closed, and the savepoint of
the first one has no effect. -/
theorem rollbackTo_of_closed_stagedGuest :
    let operations : List Operation :=
      [.rollback, .begin, .inner (.speculative (.push (.int 7))), .commit, .extractFacts true]
    let later := (runOperations operations stagedGuest).knowledge
    stagedGuest.knowledge.inTransaction = true ∧
    (∃ operation ∈ operations, operation.closes = true) ∧
    later.committed.backreferences = [.int 7] ∧
    later.rollbackTo stagedGuest.knowledge.savepoint = later := by
  intro operations later
  have hopen : stagedGuest.knowledge.inTransaction = true := rfl
  have hclosed : ∃ operation ∈ operations, operation.closes = true :=
    ⟨.rollback, List.mem_cons_self, rfl⟩
  exact ⟨hopen, hclosed, rfl, (rollbackTo_of_closed hopen hclosed).1⟩

/-- **In another transaction the savepoint of a closed one has an effect**: the result that has been
thrown away with its transaction is staged again. -/
theorem not_unchanged_of_closed :
    ¬ ∀ (progress : Progress) (operations : List Operation),
      progress.knowledge.inTransaction = true →
      (∃ operation ∈ operations, operation.closes = true) →
      let later := (runOperations operations progress).knowledge
      later.rollbackTo progress.knowledge.savepoint = later := by
  intro hunchanged
  have heq := hunchanged stagedGuest [.rollback, .begin] rfl ⟨.rollback, List.mem_cons_self, rfl⟩
  have hresult := congrArg (fun knowledge => knowledge.stagedResult? identityResult) heq
  have hbefore : (runOperations [.rollback, .begin] stagedGuest).knowledge.stagedResult?
      identityResult = none := by rfl
  have hafter : ((runOperations [.rollback, .begin] stagedGuest).knowledge.rollbackTo
      stagedGuest.knowledge.savepoint).stagedResult? identityResult =
      some (.string "guest") := by rfl
  rw [hbefore, hafter] at hresult
  cases hresult

end Knowledge

end RequestRouting
