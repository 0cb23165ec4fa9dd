import Mathlib.Data.List.Forall2
import RequestRouting.Proofs.Dispatch
import RequestRouting.Proofs.Modes

/-!
# The attempts of a pass

A pass over rules is made of attempts, each of which starts from what the one before has left.  It
goes on behind an attempt, unless that one fails, or matches where the first match is all that is
looked for.  What a pass reports can be read off its attempts.

## Main definitions

* `Attempt` — an attempt of a pass.
* `Engine.goesOn` — whether a pass goes on behind an attempt.
* `Engine.attempts` — the attempts of a pass, in order.

## Main results

* `Engine.visible_attempt_of_unmatched` — what does not match leaves everything as it was.
* `Engine.attemptAll_cons_of_ends` — a pass that does not go on ends with the attempt.
* `Engine.notices_attemptAll` — the trace of a pass is that of its attempts.
* `Engine.appends_attemptAll` — what attempts append, the pass appends.
* `Engine.matchedRules_attemptAll` — a report lists the rules whose attempts have matched.
-/

set_option autoImplicit false

namespace RequestRouting

/-- An attempt of a pass: the rule, what is known when the attempt begins, and what becomes of
it. -/
structure Attempt where
  rule : Rule
  before : Knowledge
  outcome : Outcome Bool

/-- Whether the rule of an attempt has matched. -/
def Attempt.isMatch (attempt : Attempt) : Bool := Engine.isMatch attempt.outcome.result

namespace Engine

/-- Whether a pass goes on behind an attempt with some result.  With `cut` a match is the end. -/
def goesOn (cut : Bool) : Except RuleError Bool → Bool
  | .error _ => false
  | .ok verdict => !(verdict && cut)

/-- The attempts of a pass, in order. -/
def attempts (engine : Engine) (cut : Bool) : List Rule → Knowledge → RuleBook → List Attempt
  | [], _, _ => []
  | rule :: rest, knowledge, book =>
    let outcome := engine.attempt rule knowledge book
    ⟨rule, knowledge, outcome⟩ ::
      if goesOn cut outcome.result then attempts engine cut rest outcome.knowledge outcome.book
      else []

variable {engine : Engine} {cut : Bool} {rule : Rule} {knowledge : Knowledge} {book : RuleBook}

/-! ## One attempt of a pass -/

/-- Every pass goes on behind a rule that is passed over. -/
lemma goesOn_ok_false (cut : Bool) : goesOn cut (.ok false) = true := rfl

/-- Behind an attempt a pass goes on if there is a verdict that is not the end. -/
lemma goesOn_eq_true {result : Except RuleError Bool} :
    goesOn cut result = true ↔ ∃ verdict, result = .ok verdict ∧ (verdict && cut) = false := by
  cases result with
  | error e => simp [goesOn]
  | ok verdict => cases verdict <;> simp [goesOn]

/-- A verdict that is the end of a pass is a match. -/
lemma eq_true_of_goesOn_eq_false {verdict : Bool} (h : goesOn cut (.ok verdict) = false) :
    verdict = true ∧ cut = true := by
  simpa [goesOn] using h

/-- The attempt with which a pass ends. -/
lemma attempts_cons_of_ends (h : goesOn cut (engine.attempt rule knowledge book).result = false)
    (rest : List Rule) :
    engine.attempts cut (rule :: rest) knowledge book =
      [⟨rule, knowledge, engine.attempt rule knowledge book⟩] := by
  simp [attempts, h]

/-- An attempt that is followed by others. -/
lemma attempts_cons_of_goesOn (h : goesOn cut (engine.attempt rule knowledge book).result = true)
    (rest : List Rule) :
    engine.attempts cut (rule :: rest) knowledge book =
      ⟨rule, knowledge, engine.attempt rule knowledge book⟩ ::
        engine.attempts cut rest (engine.attempt rule knowledge book).knowledge
          (engine.attempt rule knowledge book).book := by
  simp [attempts, h]

/-- A pass that does not go on behind its first attempt ends with what has become of it. -/
lemma attemptAll_cons_of_ends (h : goesOn cut (engine.attempt rule knowledge book).result = false)
    (rest : List Rule) :
    engine.attemptAll cut (rule :: rest) knowledge book =
      { engine.attempt rule knowledge book with
        result := (engine.attempt rule knowledge book).result.map fun verdict =>
          Report.empty.cons rule verdict } := by
  cases hresult : (engine.attempt rule knowledge book).result with
  | error e => rw [attemptAll_cons_of_error hresult, Except.map]
  | ok verdict =>
    obtain ⟨rfl, rfl⟩ := eq_true_of_goesOn_eq_false (hresult ▸ h)
    rw [attemptAll_cons_of_match hresult]
    rfl

/-- An attempt at a rule that does not match leaves everything as it was. -/
lemma visible_attempt_of_unmatched
    (hspeculative : ∀ condition ∈ rule.conditions, condition.Speculative)
    (hclosed : knowledge.inTransaction = false)
    (h : (engine.attempt rule knowledge book).result = .ok false) :
    (engine.attempt rule knowledge book).visible = (.ok false, knowledge, book) := by
  have hback := Rule.rollback_evaluateAll hspeculative hclosed
  have hends := Rule.ends_attempt engine rule knowledge book
  change (rule.attempt engine knowledge book).result = .ok false at h
  rw [visible_attempt]
  generalize rule.attempt engine knowledge book = outcome at h hends
  cases hends with
  | idle => rfl
  | fails e after => cases h
  | refuses after hafter | vetoed after hne hafter hveto =>
    rw [hafter] at hback
    simp [Outcome.visible, hback]
  | fires after => exact absurd h (Rule.fire_result_ne engine rule after book)

/-- In particular it restores the knowledge. -/
lemma knowledge_attempt_of_unmatched
    (hspeculative : ∀ condition ∈ rule.conditions, condition.Speculative)
    (hclosed : knowledge.inTransaction = false)
    (h : (engine.attempt rule knowledge book).result = .ok false) :
    (engine.attempt rule knowledge book).knowledge = knowledge :=
  congrArg (Prod.fst ∘ Prod.snd) (visible_attempt_of_unmatched hspeculative hclosed h)

/-! ## Whole passes -/

/-- A pass attempts the first of its rules, up to some rule or all of them. -/
lemma map_rule_attempts (engine : Engine) (cut : Bool) (rules : List Rule) (knowledge : Knowledge)
    (book : RuleBook) : (engine.attempts cut rules knowledge book).map Attempt.rule <+: rules := by
  induction rules generalizing knowledge book with
  | nil => exact List.prefix_refl []
  | cons rule rest ih =>
    cases hgoesOn : goesOn cut (engine.attempt rule knowledge book).result with
    | false =>
      rw [attempts_cons_of_ends hgoesOn]
      exact ⟨rest, rfl⟩
    | true =>
      rw [attempts_cons_of_goesOn hgoesOn, List.map_cons, List.prefix_cons_inj]
      exact ih _ _

/-- **The trace of a pass is that of its attempts.** -/
theorem notices_attemptAll (engine : Engine) (cut : Bool) (rules : List Rule)
    (knowledge : Knowledge) (book : RuleBook) :
    (engine.attemptAll cut rules knowledge book).notices =
      (engine.attempts cut rules knowledge book).flatMap fun attempt => attempt.outcome.notices := by
  induction rules generalizing knowledge book with
  | nil => rfl
  | cons rule rest ih =>
    cases hgoesOn : goesOn cut (engine.attempt rule knowledge book).result with
    | false =>
      rw [attemptAll_cons_of_ends hgoesOn, attempts_cons_of_ends hgoesOn]
      exact (List.append_nil _).symm
    | true =>
      obtain ⟨verdict, hverdict, hcut⟩ := goesOn_eq_true.1 hgoesOn
      rw [attemptAll_cons_of_goesOn hverdict hcut, attempts_cons_of_goesOn hgoesOn,
        List.flatMap_cons, ← ih]
      rfl

/-- What the attempts of a pass append to something, one after another, the pass appends. -/
theorem appends_attemptAll {α : Type} (part : Knowledge → List α) {additions : List (List α)}
    {rules : List Rule}
    (h : List.Forall₂ (fun addition attempt =>
        part attempt.outcome.knowledge = part attempt.before ++ addition)
      additions (engine.attempts cut rules knowledge book)) :
    part (engine.attemptAll cut rules knowledge book).knowledge =
      part knowledge ++ additions.flatten := by
  induction rules generalizing knowledge book additions with
  | nil =>
    cases h
    exact (List.append_nil _).symm
  | cons rule rest ih =>
    cases hgoesOn : goesOn cut (engine.attempt rule knowledge book).result with
    | false =>
      rw [attempts_cons_of_ends hgoesOn] at h
      rw [attemptAll_cons_of_ends hgoesOn]
      obtain _ | ⟨hfirst, hnone⟩ := h
      cases hnone
      simpa using hfirst
    | true =>
      obtain ⟨verdict, hverdict, hcut⟩ := goesOn_eq_true.1 hgoesOn
      rw [attempts_cons_of_goesOn hgoesOn] at h
      obtain _ | ⟨hfirst, hrest⟩ := h
      rw [attemptAll_cons_of_goesOn hverdict hcut, List.flatten_cons, ← List.append_assoc,
        ← hfirst, ← ih hrest]
      rfl

/-- **A report lists the rules whose attempts have matched**, in the order of the attempts. -/
theorem matchedRules_attemptAll {rules : List Rule} {report : Report}
    (h : (engine.attemptAll cut rules knowledge book).result = .ok report) :
    report.matchedRules =
      ((engine.attempts cut rules knowledge book).filter Attempt.isMatch).map Attempt.rule := by
  induction rules generalizing knowledge book report with
  | nil =>
    cases h
    rfl
  | cons rule rest ih =>
    cases hgoesOn : goesOn cut (engine.attempt rule knowledge book).result with
    | false =>
      rw [attempts_cons_of_ends hgoesOn]
      cases hresult : (engine.attempt rule knowledge book).result with
      | error e =>
        rw [attemptAll_cons_of_error hresult] at h
        cases h
      | ok verdict =>
        obtain ⟨rfl, rfl⟩ := eq_true_of_goesOn_eq_false (hresult ▸ hgoesOn)
        rw [attemptAll_cons_of_match hresult] at h
        cases h
        simp [Attempt.isMatch, isMatch, hresult]
    | true =>
      obtain ⟨verdict, hverdict, hcut⟩ := goesOn_eq_true.1 hgoesOn
      rw [attemptAll_cons_of_goesOn hverdict hcut] at h
      obtain ⟨later, hlater, rfl⟩ := Outcome.result_followedBy h
      rw [attempts_cons_of_goesOn hgoesOn]
      cases verdict <;> simp [Report.cons, ih hlater, Attempt.isMatch, isMatch, hverdict]

/-- A report lists rules of the pass, in their order. -/
lemma matchedRules_sublist {rules : List Rule} {report : Report}
    (h : (engine.attemptAll cut rules knowledge book).result = .ok report) :
    report.matchedRules.Sublist rules := by
  rw [matchedRules_attemptAll h]
  exact (List.filter_sublist.map Attempt.rule).trans (map_rule_attempts ..).sublist

end Engine

end RequestRouting
