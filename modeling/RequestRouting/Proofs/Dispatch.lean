import RequestRouting.Dispatch
import RequestRouting.Proofs.Rule.Attempt

/-!
# Dispatch is a search

A dispatch attempts one rule after another, each in a transaction of its own that may be rolled
back.  For the conditions of the registry it comes to the same as a search that changes nothing:
each rule is read off the knowledge at the beginning, and the first rule that decides is carried
out.

## Main definitions

* `Rule.decision?` — how a rule decides on the knowledge, unless it is passed over.
* `Engine.search` — the first rule that decides, and how it does.
* `Engine.conclude` — what becomes of a decision.
* `Engine.answer` — what becomes of the search.

## Main results

* `Rule.visible_attempt` — an attempt at a single rule carries out its decision.
* `Dispatcher.dispatch_eq_answer` — a dispatch comes to the same as the search.
-/

set_option autoImplicit false

namespace RequestRouting

/-! ## The search -/

/-- The knowledge while a rule is attempted whose conditions have put out `output`. -/
def Knowledge.stage (knowledge : Knowledge) (output : Output) : Knowledge :=
  { knowledge with staged := some (Layer.empty.add output) }

/-- The knowledge after `output` has been committed. -/
def Knowledge.absorb (knowledge : Knowledge) (output : Output) : Knowledge :=
  { knowledge with committed := knowledge.committed.add output }

/-- How a rule decides on the knowledge.  It is passed over if it has no conditions, if their
reading is no match, or if some veto, which is shown the output of the reading, refuses. -/
def Rule.decision? (engine : Engine) (knowledge : Knowledge) (rule : Rule) :
    Option (Except RuleError Output) :=
  if rule.conditions.isEmpty then none
  else
    match Condition.allMean rule.conditions knowledge.evidence with
    | .error e => some (.error e)
    | .ok none => none
    | .ok (some output) =>
      if engine.hooks.vetoes.all fun veto => veto rule (knowledge.stage output) then
        some (.ok output)
      else none

/-- The first rule that decides on the knowledge, and how it does. -/
def Engine.search (engine : Engine) (rules : List Rule) (knowledge : Knowledge) :
    Option (Rule × Except RuleError Output) :=
  rules.findSome? fun rule => (rule.decision? engine knowledge).map fun decision => (rule, decision)

/-- What becomes of a decision.  An error changes nothing.  An output is committed, then facts are
derived and the actions of the rule are run with the captured values of the output. -/
def Engine.conclude (engine : Engine) (rule : Rule) (knowledge : Knowledge) (book : RuleBook) :
    Except RuleError Output → Except RuleError Unit × Knowledge × RuleBook
  | .error e => (.error e, knowledge, book)
  | .ok output =>
    let performed := performAll engine.handlers rule.name output.backreferences rule.actions
      ((knowledge.absorb output).extractFacts engine.clearExtractors) book
    (performed.outcome.mapError (RuleError.actionFailed rule.name), performed.knowledge,
      performed.book)

/-- What becomes of the search through some rules. -/
def Engine.answer (engine : Engine) (rules : List Rule) (knowledge : Knowledge) (book : RuleBook) :
    Except RuleError (Option Rule) × Knowledge × RuleBook :=
  match engine.search rules knowledge with
  | none => (.ok none, knowledge, book)
  | some (rule, decision) =>
    let (result, after, later) := engine.conclude rule knowledge book decision
    (result.map fun _ => some rule, after, later)

/-- What an outcome comes to, apart from its trace. -/
def Outcome.visible {α : Type} (outcome : Outcome α) : Except RuleError α × Knowledge × RuleBook :=
  (outcome.result, outcome.knowledge, outcome.book)

/-! ## A single rule -/

/-- Vetoes approve if each of them does. -/
lemma Hooks.approveFrom_fst (position : Nat) (rule : Rule) (knowledge : Knowledge)
    (vetoes : List Veto) :
    (approveFrom position rule knowledge vetoes).1 =
      vetoes.all fun veto => veto rule knowledge := by
  fun_induction approveFrom position rule knowledge vetoes with
  | case1 => rfl
  | case2 position veto rest hveto approved notices hrest ih => simp_all
  | case3 position veto rest hveto => simp_all

/-- Merging a layer that has nothing but an output adds the output. -/
lemma Layer.merge_add (layer : Layer) (output : Output) :
    layer.merge (Layer.empty.add output) = layer.add output := by
  have hempty : (Dict.empty : Dict Json).entries = [] := rfl
  simp [merge, add, empty, Dict.overlay_entries_overlay, hempty]

/-- Committing a staged output absorbs it, and gives its captured values back. -/
lemma Knowledge.commit_stage {knowledge : Knowledge} (hclosed : knowledge.inTransaction = false)
    (output : Output) :
    (knowledge.stage output).commit = (output.backreferences, knowledge.absorb output) := by
  obtain ⟨facts, derived, committed, staged, parameters, identity, runs⟩ := knowledge
  cases staged with
  | some layer => cases hclosed
  | none =>
    simp only [commit, stage, absorb, Layer.merge_add]
    rfl

namespace Rule

variable {engine : Engine} {rule : Rule} {knowledge : Knowledge} {book : RuleBook}

/-- A rule that fires carries its output out. -/
lemma visible_fire_stage (hclosed : knowledge.inTransaction = false) (output : Output) :
    (rule.fire engine (knowledge.stage output) book).visible =
      let (result, after, later) := engine.conclude rule knowledge book (.ok output)
      (result.map fun _ => true, after, later) := by
  unfold fire act Engine.conclude Outcome.visible
  simp only [Knowledge.commit_stage hclosed]
  split <;> simp_all [Except.mapError, Except.map]

/-- **An attempt carries out the decision of the rule**, and one that decides nothing is passed over
without any change.

**Proof sketch.** The evaluation of the conditions agrees with their reading, whose evidence is that
of the knowledge at the beginning.  What is staged on a match is the output of the reading; in all
other cases a rollback brings the knowledge back. -/
theorem visible_attempt (hnative : ∀ condition ∈ rule.conditions, condition.Native)
    (hclosed : knowledge.inTransaction = false) :
    (rule.attempt engine knowledge book).visible =
      match rule.decision? engine knowledge with
      | none => (.ok false, knowledge, book)
      | some decision =>
        let (result, after, later) := engine.conclude rule knowledge book decision
        (result.map fun _ => true, after, later) := by
  have hrollback (layer : Layer) : (knowledge.begin.withActive layer).rollback = knowledge :=
    Knowledge.rollback_of_not_inTransaction hclosed
  unfold attempt decision?
  cases rule.conditions.isEmpty with
  | true => rfl
  | false =>
    have hfollows := Condition.follows_all hnative knowledge.begin
    have hevidence : knowledge.begin.evidence = knowledge.evidence := rfl
    rw [hevidence] at hfollows
    simp only [Bool.false_eq_true, ↓reduceIte]
    generalize Condition.allMean rule.conditions knowledge.evidence = verdict at hfollows ⊢
    generalize Condition.evaluateAll rule.conditions knowledge.begin = outcome at hfollows ⊢
    cases hfollows with
    | fails e layer _ => simp [Outcome.visible, hrollback, Engine.conclude, Except.map]
    | refuses layer _ => simp [Outcome.visible, hrollback]
    | accepts output =>
      have hstage : knowledge.begin.withActive (knowledge.begin.active.add output) =
          knowledge.stage output := rfl
      have happrove := Hooks.approveFrom_fst 0 rule (knowledge.stage output) engine.hooks.vetoes
      simp only [hstage, Hooks.approve, ← happrove]
      cases (Hooks.approveFrom 0 rule (knowledge.stage output) engine.hooks.vetoes).1 with
      | true => exact visible_fire_stage hclosed output
      | false => simp [Outcome.visible, ← hstage, hrollback]

end Rule

/-! ## A list of rules -/

namespace Engine

variable {engine : Engine} {knowledge : Knowledge} {book : RuleBook}

/-- Observers of an attempt see it, but change nothing. -/
lemma visible_attempt (engine : Engine) (rule : Rule) (knowledge : Knowledge) (book : RuleBook) :
    (engine.attempt rule knowledge book).visible = (rule.attempt engine knowledge book).visible :=
  rfl

/-- A pass goes on behind a rule that is passed over without any change. -/
lemma firstMatch_cons_of_passed {rule : Rule}
    (hpassed : (engine.attempt rule knowledge book).visible = (.ok false, knowledge, book))
    (rest : List Rule) :
    engine.firstMatch (rule :: rest) knowledge book =
      (engine.firstMatch rest knowledge book).after
        (engine.attempt rule knowledge book).notices := by
  simp only [Outcome.visible, Prod.mk.injEq] at hpassed
  simp only [firstMatch, hpassed]

/-- A pass ends with a rule that is not passed over. -/
lemma firstMatch_cons_of_decided {rule : Rule}
    (hdecided : (engine.attempt rule knowledge book).result ≠ .ok false) (rest : List Rule) :
    engine.firstMatch (rule :: rest) knowledge book =
      { engine.attempt rule knowledge book with
        result := (engine.attempt rule knowledge book).result.map fun _ => some rule } := by
  unfold firstMatch
  dsimp only
  split
  · next e hresult => rw [hresult, Except.map]
  · next hresult => rw [hresult, Except.map]
  · next hresult => exact absurd hresult hdecided

/-- An attempt at a rule that decides nothing is passed over without any change. -/
lemma attempt_of_decision?_eq_none {rule : Rule}
    (hnative : ∀ condition ∈ rule.conditions, condition.Native)
    (hclosed : knowledge.inTransaction = false) (h : rule.decision? engine knowledge = none)
    (book : RuleBook) :
    (engine.attempt rule knowledge book).visible = (.ok false, knowledge, book) := by
  rw [visible_attempt, Rule.visible_attempt hnative hclosed, h]

/-- An attempt at a rule that decides carries the decision out. -/
lemma attempt_of_decision?_eq_some {rule : Rule} {decision : Except RuleError Output}
    (hnative : ∀ condition ∈ rule.conditions, condition.Native)
    (hclosed : knowledge.inTransaction = false)
    (h : rule.decision? engine knowledge = some decision) (book : RuleBook) :
    (engine.attempt rule knowledge book).visible =
      let (result, after, later) := engine.conclude rule knowledge book decision
      (result.map fun _ => true, after, later) := by
  rw [visible_attempt, Rule.visible_attempt hnative hclosed, h]

/-- An attempt at a rule that decides is not passed over. -/
lemma result_ne_of_decision?_eq_some {rule : Rule} {decision : Except RuleError Output}
    (hnative : ∀ condition ∈ rule.conditions, condition.Native)
    (hclosed : knowledge.inTransaction = false)
    (h : rule.decision? engine knowledge = some decision) (book : RuleBook) :
    (engine.attempt rule knowledge book).result ≠ .ok false := by
  intro hresult
  have hattempt := congrArg Prod.fst (attempt_of_decision?_eq_some hnative hclosed h book)
  change (engine.attempt rule knowledge book).result = Except.map _ _ at hattempt
  rw [hresult] at hattempt
  cases hconcluded : (engine.conclude rule knowledge book decision).1 with
  | error e =>
    rw [hconcluded] at hattempt
    cases hattempt
  | ok done =>
    rw [hconcluded] at hattempt
    cases hattempt

/-- **A pass over some rules up to the first match comes to the same as the search.**

**Proof sketch.** Induction on the rules.  A rule that decides nothing leaves the knowledge and the
book as they were, so the search goes on from there as the pass does; a rule that decides ends
both. -/
theorem visible_firstMatch {rules : List Rule}
    (hnative : ∀ rule ∈ rules, ∀ condition ∈ rule.conditions, condition.Native)
    (hclosed : knowledge.inTransaction = false) :
    (engine.firstMatch rules knowledge book).visible = engine.answer rules knowledge book := by
  induction rules with
  | nil => rfl
  | cons rule rest ih =>
    obtain ⟨hfirst, hrest⟩ := List.forall_mem_cons.1 hnative
    unfold answer search
    rw [List.findSome?_cons]
    cases hdecision : rule.decision? engine knowledge with
    | none =>
      have hpassed := attempt_of_decision?_eq_none hfirst hclosed hdecision book
      rw [firstMatch_cons_of_passed hpassed]
      exact ih hrest
    | some decision =>
      have hdecided := result_ne_of_decision?_eq_some hfirst hclosed hdecision book
      have hattempt := attempt_of_decision?_eq_some hfirst hclosed hdecision book
      rw [firstMatch_cons_of_decided hdecided]
      simp only [Outcome.visible, Option.map_some] at hattempt ⊢
      generalize engine.conclude rule knowledge book decision = concluded at hattempt ⊢
      obtain ⟨result, after, later⟩ := concluded
      simp only [Prod.mk.injEq] at hattempt ⊢
      obtain ⟨hresult, hafter, hlater⟩ := hattempt
      refine ⟨?_, hafter, hlater⟩
      rw [hresult]
      cases result <;> rfl

/-- A pass over some rules never gets beyond the first that decides.

**Proof sketch.** Induction on the rules before it: each of them either decides, and ends both
passes, or leaves the knowledge and the book as they were. -/
theorem firstMatch_append {before : List Rule} {rule : Rule}
    (hnative : ∀ other ∈ before ++ [rule], ∀ condition ∈ other.conditions, condition.Native)
    (hclosed : knowledge.inTransaction = false)
    (hdecision : (rule.decision? engine knowledge).isSome) (later : List Rule) :
    engine.firstMatch (before ++ rule :: later) knowledge book =
      engine.firstMatch (before ++ [rule]) knowledge book := by
  induction before with
  | nil =>
    obtain ⟨decision, hdecision⟩ := Option.isSome_iff_exists.1 hdecision
    have hfirst := hnative rule (List.mem_singleton_self rule)
    have hdecided := result_ne_of_decision?_eq_some hfirst hclosed hdecision book
    rw [List.nil_append, List.nil_append, firstMatch_cons_of_decided hdecided,
      firstMatch_cons_of_decided hdecided]
  | cons other rest ih =>
    obtain ⟨hfirst, hrest⟩ := List.forall_mem_cons.1 hnative
    rw [List.cons_append, List.cons_append]
    cases hother : other.decision? engine knowledge with
    | none =>
      have hpassed := attempt_of_decision?_eq_none hfirst hclosed hother book
      rw [firstMatch_cons_of_passed hpassed, firstMatch_cons_of_passed hpassed, ih hrest]
    | some decision =>
      have hdecided := result_ne_of_decision?_eq_some hfirst hclosed hother book
      rw [firstMatch_cons_of_decided hdecided, firstMatch_cons_of_decided hdecided]

end Engine

/-! ## Dispatch -/

namespace Dispatcher

/-- **A dispatch comes to the same as the search for the first rule that decides.**  If the registry
has built all conditions of a book, then, outside of transactions, a dispatch answers what becomes
of the search through the book, which reads every rule off the knowledge at the beginning; rules
behind the first that decides play no part, not even in the trace; and a reading fails only over a
needed fact that is absent or no scalar. -/
theorem dispatch_eq_answer {dispatcher : Dispatcher}
    (hregistered : ∀ rule ∈ dispatcher.book.rules,
      ∀ condition ∈ rule.conditions, condition.Registered)
    {knowledge : Knowledge} (hclosed : knowledge.inTransaction = false) :
    (dispatcher.dispatch knowledge).visible =
      dispatcher.engine.answer dispatcher.book.rules knowledge dispatcher.book ∧
    (∀ before rule later, dispatcher.book.rules = before ++ rule :: later →
      (rule.decision? dispatcher.engine knowledge).isSome →
      dispatcher.dispatch knowledge =
        dispatcher.engine.firstMatch (before ++ [rule]) knowledge dispatcher.book) ∧
    ∀ rule ∈ dispatcher.book.rules,
      (Condition.allMean rule.conditions knowledge.evidence).FailsFor knowledge.evidence := by
  have hnative : ∀ rule ∈ dispatcher.book.rules, ∀ condition ∈ rule.conditions, condition.Native :=
    fun rule hrule condition hcondition => (hregistered rule hrule condition hcondition).native
  refine ⟨?_, ?_, ?_⟩
  · exact Engine.visible_firstMatch hnative hclosed
  · intro before rule later heq hdecision
    unfold dispatch
    rw [heq] at hnative ⊢
    refine Engine.firstMatch_append (fun other hother => hnative other ?_) hclosed hdecision later
    rcases List.mem_append.1 hother with hother | hother
    · exact List.mem_append_left _ hother
    · exact List.mem_append_right _ (List.mem_singleton.1 hother ▸ List.mem_cons_self ..)
  · exact fun rule hrule => Condition.failsFor_allMean (hnative rule hrule) knowledge.evidence

/-- A rule that tests whether a request is made by the staff. -/
def doorRule (name : String) : Rule := ⟨name, none, 0, [Condition.staffTree], [.bind ["visitor"]]⟩

/-- A rule without conditions, and three rules with one test, of which a veto refuses the first. -/
def door : Dispatcher where
  book := ⟨[⟨"bell", none, 0, [], []⟩, doorRule "closed", doorRule "open", doorRule "back"],
    by decide⟩
  engine := ⟨.empty, ⟨["observer"], [fun rule _ => rule.name != "closed"]⟩, true⟩
  mode := .first

/-- The rule without conditions and the refused one are passed over, and the next one decides. -/
theorem dispatch_eq_answer_door :
    let knowledge := Condition.staffKnowledge.rollback
    (∀ rule ∈ door.book.rules, ∀ condition ∈ rule.conditions, condition.Registered) ∧
    knowledge.inTransaction = false ∧
    (door.dispatch knowledge).visible = door.engine.answer door.book.rules knowledge door.book ∧
    (door.dispatch knowledge).result.map (Option.map Rule.name) = .ok (some "open") := by
  intro knowledge
  have hregistered : ∀ rule ∈ door.book.rules, ∀ condition ∈ rule.conditions,
      condition.Registered := by
    simp [door, doorRule, Condition.registered_staffTree]
  exact ⟨hregistered, rfl, (dispatch_eq_answer hregistered rfl).1, rfl⟩

end Dispatcher

end RequestRouting
