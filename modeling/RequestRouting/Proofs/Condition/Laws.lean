import RequestRouting.Proofs.Condition.Branches

/-!
# Laws of Boolean nodes

Boolean nodes obey the laws of Boolean algebra that have to do with their order: a conjunction in a
conjunction can be written out, and so can an `or` node in an `or` node, and a `not` node is the
choice among the negations of its parts.  The two sides evaluate the parts in different states and
take different savepoints, but they come to the same, with the same error and with the same layers.

## Main definitions

* `Condition.orElse` — what two evaluations come to if the second one stands in for the first.
* `Condition.Reshaped` — trees that can be made of each other by the laws.

## Main results

* `Condition.evaluateAny_append` — two choices, one behind the other.
* `Condition.evaluate_not` — a `not` node negates the verdict of its parts and leaves nothing.
* `Condition.evaluateAny_map_not` — a choice among negations.
* `Condition.bool_laws` — the laws, at the root of a tree and anywhere in it.
-/

set_option autoImplicit false

namespace RequestRouting

namespace Condition

variable {before parts after : List Condition}

/-! ## Choices -/

/-- What an evaluation comes to if another one stands in for it where the first has refused. -/
def orElse (first second : Except RuleError Bool × Knowledge) :
    Except RuleError Bool × Knowledge :=
  match first.1 with
  | .ok false => second
  | .ok true | .error _ => first

/-- It does not matter which of three evaluations are taken together. -/
lemma orElse_assoc (first second third : Except RuleError Bool × Knowledge) :
    orElse (orElse first second) third = orElse first (orElse second third) := by
  obtain ⟨_ | _ | _, knowledge⟩ := first <;> rfl

/-- The first part of a choice is followed by the others, which find everything as it was. -/
lemma evaluateAny_cons {part : Condition} (hpart : part.Native) (rest : List Condition)
    (knowledge : Knowledge) :
    evaluateAny (part :: rest) knowledge =
      orElse (part.evaluate knowledge) (evaluateAny rest knowledge) := by
  have hfollows := hpart.follows knowledge
  rw [evaluateAny]
  generalize part.meaning knowledge.evidence = verdict at hfollows
  generalize part.evaluate knowledge = outcome at hfollows
  cases hfollows with
  | fails e layer _ => rfl
  | refuses layer hlayer =>
    dsimp only [orElse]
    rw [Knowledge.rollbackTo_savepoint hlayer]
  | accepts output => rfl

/-- **Two choices, one behind the other.** -/
theorem evaluateAny_append {first : List Condition} (hfirst : ∀ part ∈ first, part.Native)
    (second : List Condition) (knowledge : Knowledge) :
    evaluateAny (first ++ second) knowledge =
      orElse (evaluateAny first knowledge) (evaluateAny second knowledge) := by
  induction first with
  | nil => rw [List.nil_append, evaluateAny, orElse]
  | cons part rest ih =>
    obtain ⟨hpart, hrest⟩ := List.forall_mem_cons.1 hfirst
    rw [List.cons_append, evaluateAny_cons hpart, evaluateAny_cons hpart, ih hrest, orElse_assoc]

/-- A choice of one choice. -/
lemma evaluateAny_singleton_or (hparts : ∀ part ∈ parts, part.Native) (knowledge : Knowledge) :
    evaluateAny [.bool .or parts] knowledge = evaluateAny parts knowledge := by
  have hnode : (Condition.bool .or parts).evaluate knowledge = evaluateAny parts knowledge := by
    rw [evaluate]
  rw [evaluateAny_cons (.bool .or parts hparts), hnode, ← evaluateAny_append hparts,
    List.append_nil]

/-! ## Negations -/

/-- **A `not` node negates the verdict of its parts and leaves nothing.** -/
theorem evaluate_not (hparts : ∀ part ∈ parts, part.Native) (knowledge : Knowledge) :
    (Condition.bool .not parts).evaluate knowledge =
      ((evaluateAll parts knowledge).1.map (! ·), knowledge) := by
  simp only [evaluate]
  rw [(follows_all hparts knowledge).rollbackTo_eq]

/-- The verdict of a conjunction does not depend on the active layer. -/
lemma verdict_withActive (hparts : ∀ part ∈ parts, part.Native) (knowledge : Knowledge)
    (layer : Layer) :
    (evaluateAll parts (knowledge.withActive layer)).1 = (evaluateAll parts knowledge).1 := by
  rw [(follows_all hparts _).fst_eq, (follows_all hparts _).fst_eq,
    Knowledge.evidence_withActive]

/-- **A choice among negations** is a negation.

**Proof sketch.** Induction on the parts.  On one side a part that matches leaves its output for the
next one to find, on the other it is negated first and leaves nothing; but the verdict of the next
part is the same. -/
theorem evaluateAny_map_not (hparts : ∀ part ∈ parts, part.Native) (knowledge : Knowledge) :
    evaluateAny (parts.map fun part => .bool .not [part]) knowledge =
      (Condition.bool .not parts).evaluate knowledge := by
  induction parts with
  | nil =>
    rw [evaluate_not hparts, evaluateAll, List.map_nil, evaluateAny]
    rfl
  | cons part rest ih =>
    obtain ⟨hpart, hrest⟩ := List.forall_mem_cons.1 hparts
    have hsingle : ∀ other ∈ [part], other.Native := List.forall_mem_singleton.2 hpart
    have hfollows := hpart.follows knowledge
    rw [List.map_cons, evaluateAny_cons (.bool .not [part] hsingle), ih hrest,
      evaluate_not hsingle, evaluate_not hrest, evaluate_not hparts, evaluateAll_singleton,
      evaluateAll_cons]
    generalize part.meaning knowledge.evidence = verdict at hfollows
    generalize part.evaluate knowledge = outcome at hfollows
    cases hfollows with
    | fails e layer _ => rfl
    | refuses layer _ => rfl
    | accepts output =>
      simp only [andThen, verdict_withActive hrest]
      rfl

/-- Two negations leave the verdict, and nothing else. -/
lemma evaluate_not_not (hparts : ∀ part ∈ parts, part.Native) (knowledge : Knowledge) :
    (Condition.bool .not [.bool .not parts]).evaluate knowledge =
      ((evaluateAll parts knowledge).1, knowledge) := by
  have hsingle : ∀ part ∈ [Condition.bool .not parts], part.Native :=
    List.forall_mem_singleton.2 (.bool .not parts hparts)
  rw [evaluate_not hsingle, evaluateAll_singleton, evaluate_not hparts]
  obtain _ | isMatch := (evaluateAll parts knowledge).1
  · rfl
  · simp [Except.map]

/-! ## Trees -/

/-- Trees that can be made of each other by the laws of Boolean nodes, anywhere in them. -/
inductive Reshaped : Condition → Condition → Prop where
  | refl (tree : Condition) : Reshaped tree tree
  | symm {tree tree' : Condition} (h : Reshaped tree tree') : Reshaped tree' tree
  | trans {tree tree' tree'' : Condition} (h : Reshaped tree tree')
      (h' : Reshaped tree' tree'') : Reshaped tree tree''
  /-- A part of a node is reshaped. -/
  | part (operator : BoolOperator) (before after : List Condition) {tree tree' : Condition}
      (h : Reshaped tree tree') :
    Reshaped (.bool operator (before ++ [tree] ++ after))
      (.bool operator (before ++ [tree'] ++ after))
  /-- A conjunction in a conjunction is written out. -/
  | flattenAnd (before parts after : List Condition) :
    Reshaped (.bool .and (before ++ [.bool .and parts] ++ after))
      (.bool .and (before ++ parts ++ after))
  /-- A choice in a choice is written out. -/
  | flattenOr (before parts after : List Condition) :
    Reshaped (.bool .or (before ++ [.bool .or parts] ++ after))
      (.bool .or (before ++ parts ++ after))
  /-- A negation is pushed into its parts. -/
  | deMorgan (parts : List Condition) :
    Reshaped (.bool .not parts) (.bool .or (parts.map fun part => .bool .not [part]))

/-- A node is native if its parts are. -/
lemma native_bool {operator : BoolOperator} :
    (Condition.bool operator parts).Native ↔ ∀ part ∈ parts, part.Native := by
  constructor
  · rintro ⟨⟩
    assumption
  · exact .bool operator parts

/-- A conjunction in a conjunction is written out. -/
lemma evaluate_flattenAnd (before parts after : List Condition) (knowledge : Knowledge) :
    (Condition.bool .and (before ++ [.bool .and parts] ++ after)).evaluate knowledge =
      (Condition.bool .and (before ++ parts ++ after)).evaluate knowledge := by
  have hnode : evaluateAll [.bool .and parts] = evaluateAll parts := by
    funext knowledge
    rw [evaluateAll_singleton, evaluate]
  simp only [evaluate, evaluateAll_append, hnode]

/-- A choice in a choice is written out. -/
lemma evaluate_flattenOr (hbefore : ∀ part ∈ before, part.Native)
    (hparts : ∀ part ∈ parts, part.Native) (after : List Condition) (knowledge : Knowledge) :
    (Condition.bool .or (before ++ [.bool .or parts] ++ after)).evaluate knowledge =
      (Condition.bool .or (before ++ parts ++ after)).evaluate knowledge := by
  have hsingle : ∀ part ∈ [Condition.bool .or parts], part.Native :=
    List.forall_mem_singleton.2 (.bool .or parts hparts)
  simp only [evaluate, List.append_assoc, evaluateAny_append hbefore, evaluateAny_append hsingle,
    evaluateAny_append hparts, evaluateAny_singleton_or hparts]

/-- A conjunction evaluates as it did if a part of it is replaced by one that does so. -/
lemma evaluateAll_congr_part {tree tree' : Condition} (h : tree.evaluate = tree'.evaluate)
    (before after : List Condition) :
    evaluateAll (before ++ [tree] ++ after) = evaluateAll (before ++ [tree'] ++ after) := by
  have hsingle : evaluateAll [tree] = evaluateAll [tree'] := by
    funext knowledge
    rw [evaluateAll_singleton, evaluateAll_singleton, h]
  funext knowledge
  simp only [evaluateAll_append, hsingle]

/-- So does a choice. -/
lemma evaluateAny_congr_part {tree tree' : Condition} (h : tree.evaluate = tree'.evaluate)
    (before after : List Condition) :
    evaluateAny (before ++ [tree] ++ after) = evaluateAny (before ++ [tree'] ++ after) := by
  induction before with
  | nil =>
    funext knowledge
    simp only [List.nil_append, List.singleton_append, evaluateAny, h]
  | cons part rest ih =>
    funext knowledge
    simp only [List.cons_append, evaluateAny, ih]

/-- So does every node. -/
lemma evaluate_congr_part {tree tree' : Condition} (h : tree.evaluate = tree'.evaluate)
    (operator : BoolOperator) (before after : List Condition) (knowledge : Knowledge) :
    (Condition.bool operator (before ++ [tree] ++ after)).evaluate knowledge =
      (Condition.bool operator (before ++ [tree'] ++ after)).evaluate knowledge := by
  cases operator with
  | and => simp only [evaluate, evaluateAll_congr_part h before after]
  | or => simp only [evaluate, evaluateAny_congr_part h before after]
  | not => simp only [evaluate, evaluateAll_congr_part h before after]

namespace Reshaped

variable {tree tree' : Condition}

/-- Reshaping neither adds nor removes conditions from outside of the library. -/
lemma native_iff (h : Reshaped tree tree') : tree.Native ↔ tree'.Native := by
  induction h with
  | refl => exact Iff.rfl
  | symm _ ih => exact ih.symm
  | trans _ _ ih ih' => exact ih.trans ih'
  | part operator before after _ ih => simp [native_bool, or_imp, forall_and, ih]
  | flattenAnd before parts after => simp [native_bool, or_imp, forall_and]
  | flattenOr before parts after => simp [native_bool, or_imp, forall_and]
  | deMorgan parts => simp [native_bool]

/-- **Reshaped trees evaluate in the same way.**

**Proof sketch.** Induction on the way in which the trees are made of each other, one law for each
step. -/
theorem evaluate_eq (h : Reshaped tree tree') (hnative : tree.Native) (knowledge : Knowledge) :
    tree.evaluate knowledge = tree'.evaluate knowledge := by
  induction h generalizing knowledge with
  | refl => rfl
  | symm h ih => exact (ih (h.native_iff.2 hnative) knowledge).symm
  | trans h _ ih ih' =>
    exact (ih hnative knowledge).trans (ih' (h.native_iff.1 hnative) knowledge)
  | @part operator before after tree _ _ ih =>
    have htree : tree.Native := native_bool.1 hnative tree (by simp)
    exact evaluate_congr_part (funext (ih htree)) operator before after knowledge
  | flattenAnd before parts after => exact evaluate_flattenAnd before parts after knowledge
  | flattenOr before parts after =>
    have hall := native_bool.1 hnative
    have hnode : (Condition.bool .or parts).Native := hall _ (by simp)
    have hbefore : ∀ part ∈ before, part.Native := fun part hpart => hall part (by simp [hpart])
    exact evaluate_flattenOr hbefore (native_bool.1 hnode) after knowledge
  | deMorgan parts =>
    rw [evaluate, evaluateAny_map_not (native_bool.1 hnative)]

end Reshaped

/-- **The laws of Boolean nodes**, inside of transactions and outside.  A conjunction in a
conjunction may be written out, and so may a choice in a choice; a negation is the choice among the
negations of its parts; and two negations have the verdict or the error of the conjunction and leave
everything as it was.  Wherever in a tree these laws are used, and in whatever order, the tree
evaluates as before: with the same verdict or error, and with the same knowledge behind it. -/
theorem bool_laws (hbefore : ∀ part ∈ before, part.Native) (hparts : ∀ part ∈ parts, part.Native)
    (knowledge : Knowledge) :
    (Condition.bool .and (before ++ [.bool .and parts] ++ after)).evaluate knowledge =
      (Condition.bool .and (before ++ parts ++ after)).evaluate knowledge ∧
    (Condition.bool .or (before ++ [.bool .or parts] ++ after)).evaluate knowledge =
      (Condition.bool .or (before ++ parts ++ after)).evaluate knowledge ∧
    (Condition.bool .not parts).evaluate knowledge =
      (Condition.bool .or (parts.map fun part => .bool .not [part])).evaluate knowledge ∧
    (Condition.bool .not [.bool .not parts]).evaluate knowledge =
      (((Condition.bool .and parts).evaluate knowledge).1, knowledge) ∧
    ∀ tree tree', tree.Native → Reshaped tree tree' →
      tree.evaluate knowledge = tree'.evaluate knowledge := by
  have hand : (Condition.bool .and parts).evaluate knowledge = evaluateAll parts knowledge := by
    rw [evaluate]
  have hor : (Condition.bool .or (parts.map fun part => .bool .not [part])).evaluate knowledge =
      evaluateAny (parts.map fun part => .bool .not [part]) knowledge := by
    rw [evaluate]
  refine ⟨evaluate_flattenAnd before parts after knowledge,
    evaluate_flattenOr hbefore hparts after knowledge, ?_, ?_,
    fun tree tree' hnative h => h.evaluate_eq hnative knowledge⟩
  · rw [hor, evaluateAny_map_not hparts]
  · rw [hand, evaluate_not_not hparts]

/-- A condition that refuses `ada`. -/
def bobPart : Condition := .authentication (.isUser "bob")

/-- The laws for a request by `ada`: the parts are a tree that matches and stages her name, and one
that fails. -/
theorem bool_laws_adaPart :
    (∀ part ∈ [bobPart], part.Native) ∧ (∀ part ∈ [staffTree, adaPart], part.Native) ∧
    staffKnowledge.inTransaction = true ∧
    (Condition.bool .and [bobPart, staffTree, adaPart]).evaluate staffKnowledge =
      (.ok false, staffKnowledge) ∧
    (Condition.bool .or [bobPart, .bool .or [staffTree, adaPart]]).evaluate staffKnowledge =
      (.ok true, namedAda) ∧
    (Condition.bool .or [.bool .not [staffTree], .bool .not [adaPart]]).evaluate staffKnowledge =
      (.error (.missingFact Knowledge.methodFact), staffKnowledge) ∧
    (Condition.bool .not [.bool .not [staffTree, adaPart]]).evaluate staffKnowledge =
      (.error (.missingFact Knowledge.methodFact), staffKnowledge) ∧
    Reshaped (.bool .and [.bool .not [staffTree, adaPart]])
      (.bool .and [.bool .or [.bool .not [staffTree], .bool .not [adaPart]]]) ∧
    (Condition.bool .and [.bool .not [staffTree, adaPart]]).evaluate staffKnowledge =
      (Condition.bool .and [.bool .or [.bool .not [staffTree], .bool .not [adaPart]]]).evaluate
        staffKnowledge := by
  have hbob : ∀ part ∈ [bobPart], part.Native := List.forall_mem_singleton.2 (.authentication _)
  have hparts : ∀ part ∈ [staffTree, adaPart], part.Native :=
    List.forall_mem_cons.2 ⟨registered_staffTree.native,
      List.forall_mem_singleton.2 registered_adaPart.native⟩
  have hreshaped : Reshaped (.bool .and [.bool .not [staffTree, adaPart]])
      (.bool .and [.bool .or [.bool .not [staffTree], .bool .not [adaPart]]]) :=
    .part .and [] [] (.deMorgan [staffTree, adaPart])
  have hnode : (Condition.bool .and [.bool .not [staffTree, adaPart]]).Native :=
    .bool .and _ (List.forall_mem_singleton.2 (.bool .not _ hparts))
  obtain ⟨hand, hor, hnot, hnotnot, htrees⟩ :=
    @bool_laws [bobPart] [staffTree, adaPart] [] hbob hparts staffKnowledge
  refine ⟨hbob, hparts, rfl, hand.symm.trans rfl, hor.trans rfl, hnot.symm.trans rfl,
    hnotnot.trans rfl, hreshaped, htrees _ _ hnode hreshaped⟩

end Condition

end RequestRouting
