import RequestRouting.Proofs.Condition.Staging

/-!
# What branches leave behind

A `not` node leaves everything as it was, whatever it answers.  So does an `or` node that refuses,
and one that matches leaves the output of the first part that matches.  An `or` node that fails is
different: the part that has failed is not undone, so what this part has written up to its error
stays in the active layer.

## Main definitions

* `Condition.Tries` — how the parts of an `or` node come out, and what remains.

## Main results

* `Condition.bool_leaves` — what `not` nodes and `or` nodes leave behind.
* `Condition.not_unchanged_of_failed_branch` — an `or` node that fails may leave something.
-/

set_option autoImplicit false

namespace RequestRouting

namespace Condition

/-- How the parts of an `or` node come out.  All of them are evaluated where the node is, and all in
front of the decisive one refuse. -/
inductive Tries (knowledge : Knowledge) (parts : List Condition) :
    Except RuleError Bool × Knowledge → Prop where
  /-- All parts refuse, and everything is as it was. -/
  | refused (h : ∀ part ∈ parts, (part.evaluate knowledge).1 = .ok false) :
    Tries knowledge parts (.ok false, knowledge)
  /-- A part matches; its output has been added to the active layer, and nothing else is there. -/
  | matched {before after : List Condition} {part : Condition} {output : Output}
      (hparts : parts = before ++ part :: after)
      (hbefore : ∀ other ∈ before, (other.evaluate knowledge).1 = .ok false)
      (houtput : part.meaning knowledge.evidence = .ok (some output))
      (hpart : part.evaluate knowledge =
        (.ok true, knowledge.withActive (knowledge.active.add output))) :
    Tries knowledge parts (.ok true, knowledge.withActive (knowledge.active.add output))
  /-- A part fails; what it has written by itself stays in the active layer. -/
  | failed {before after : List Condition} {part : Condition} {e : RuleError} {layer : Layer}
      (hparts : parts = before ++ part :: after)
      (hbefore : ∀ other ∈ before, (other.evaluate knowledge).1 = .ok false)
      (hextends : knowledge.active.Extends layer)
      (hpart : part.evaluate knowledge = (.error e, knowledge.withActive layer)) :
    Tries knowledge parts (.error e, knowledge.withActive layer)

/-- A part that refuses may come in front. -/
lemma Tries.cons {knowledge : Knowledge} {part : Condition} {rest : List Condition}
    {outcome : Except RuleError Bool × Knowledge} (h : Tries knowledge rest outcome)
    (hpart : (part.evaluate knowledge).1 = .ok false) : Tries knowledge (part :: rest) outcome := by
  cases h with
  | refused hrest => exact .refused (List.forall_mem_cons.2 ⟨hpart, hrest⟩)
  | @matched before after found output hparts hbefore houtput hmatch =>
    have hcons : part :: rest = (part :: before) ++ found :: after := by rw [hparts]; rfl
    exact .matched hcons (List.forall_mem_cons.2 ⟨hpart, hbefore⟩) houtput hmatch
  | @failed before after found e layer hparts hbefore hextends hfail =>
    have hcons : part :: rest = (part :: before) ++ found :: after := by rw [hparts]; rfl
    exact .failed hcons (List.forall_mem_cons.2 ⟨hpart, hbefore⟩) hextends hfail

/-- The parts of an `or` node are tried one after another.

**Proof sketch.** Induction on the parts.  A part that refuses has only extended the active layer,
and the return to the savepoint takes that back, so the next part is evaluated where the node is.
There is no such return behind a part that fails. -/
lemma tries_evaluateAny {parts : List Condition} (h : ∀ part ∈ parts, part.Native)
    (knowledge : Knowledge) : Tries knowledge parts (evaluateAny parts knowledge) := by
  induction parts with
  | nil => exact .refused (by simp)
  | cons part rest ih =>
    obtain ⟨hpart, hrest⟩ := List.forall_mem_cons.1 h
    have hfollows := hpart.follows knowledge
    have hfirst : part :: rest = [] ++ part :: rest := rfl
    unfold evaluateAny
    generalize hmeaning : part.meaning knowledge.evidence = verdict at hfollows
    generalize houtcome : part.evaluate knowledge = outcome at hfollows
    cases hfollows with
    | fails e layer hextends => exact .failed hfirst (List.forall_mem_nil _) hextends houtcome
    | refuses layer hextends =>
      dsimp only
      rw [Knowledge.rollbackTo_savepoint hextends]
      exact (ih hrest).cons (by rw [houtcome])
    | accepts output => exact .matched hfirst (List.forall_mem_nil _) hmeaning houtcome

/-- **What `not` nodes and `or` nodes leave behind**, inside of transactions and outside.  A `not`
node leaves everything as it was, also if one of its parts fails; an `or` node leaves what its parts
come out at. -/
theorem bool_leaves {parts : List Condition} (h : ∀ part ∈ parts, part.Native)
    (knowledge : Knowledge) :
    ((Condition.bool .not parts).evaluate knowledge).2 = knowledge ∧
      Tries knowledge parts ((Condition.bool .or parts).evaluate knowledge) := by
  simp only [evaluate]
  exact ⟨(follows_all h knowledge).rollbackTo_eq, tries_evaluateAny h knowledge⟩

/-! ## A part that fails -/

/-- The table of a part that stages the name of `ada` before it looks at the method. -/
def adaTable : Table :=
  [("conditions", .array [identityTable "isuser" "ada",
      .object [("method", .string "GET"), ("type", .string "request")]]),
    ("type", .string "bool")]

/-- The condition of `adaTable`. -/
def adaPart : Condition :=
  .bool .and [.authentication (.isUser "ada"), .request ⟨["GET"], none⟩]

/-- The registry builds `adaPart` of `adaTable`. -/
lemma registered_adaPart : adaPart.Registered := .ofTable adaTable rfl

/-- What is known of `ada` while a rule is attempted, with her name in the staged layer. -/
def namedAda : Knowledge :=
  { staffKnowledge with
    staged := some ⟨.ofList [(Knowledge.identityResult, .string "ada")], [], []⟩ }

/-- The method of the request is not known. -/
lemma evaluate_adaPart :
    adaPart.evaluate staffKnowledge = (.error (.missingFact Knowledge.methodFact), namedAda) := rfl

/-- So the node does not match, and the name stays. -/
lemma evaluate_or_adaPart :
    (Condition.bool .or [adaPart]).evaluate staffKnowledge =
      (.error (.missingFact Knowledge.methodFact), namedAda) := by
  simp only [evaluate, evaluateAny, evaluate_adaPart]

/-- The part fails.  Below a `not` node its result is gone, and below an `or` node it is there. -/
theorem bool_leaves_adaPart :
    (∀ part ∈ [adaPart], part.Native) ∧
    ((Condition.bool .not [adaPart]).evaluate staffKnowledge).2 = staffKnowledge ∧
    Tries staffKnowledge [adaPart]
      (.error (.missingFact Knowledge.methodFact), namedAda) := by
  have hnative : ∀ part ∈ [adaPart], part.Native :=
    List.forall_mem_singleton.2 registered_adaPart.native
  obtain ⟨hnot, hor⟩ := bool_leaves hnative staffKnowledge
  exact ⟨hnative, hnot, evaluate_or_adaPart ▸ hor⟩

/-- **Not every `or` node that does not match leaves everything as it was**, although the registry
has built its parts. -/
theorem not_unchanged_of_failed_branch :
    ¬ ∀ (parts : List Condition) (knowledge : Knowledge),
      (∀ part ∈ parts, part.Registered) →
      ((Condition.bool .or parts).evaluate knowledge).1 ≠ .ok true →
      ((Condition.bool .or parts).evaluate knowledge).2 = knowledge := by
  intro hunchanged
  have hsame := hunchanged [adaPart] staffKnowledge
    (List.forall_mem_singleton.2 registered_adaPart) (by rw [evaluate_or_adaPart]; exact nofun)
  rw [evaluate_or_adaPart] at hsame
  have hresults := congrArg (fun knowledge : Knowledge => knowledge.active.results.entries) hsame
  cases hresults

end Condition

end RequestRouting
