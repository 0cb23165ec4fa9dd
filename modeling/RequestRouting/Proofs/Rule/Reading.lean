import RequestRouting.Proofs.Attempts
import RequestRouting.Proofs.Rule.Block
import RequestRouting.Proofs.Rule.Harmless
import RequestRouting.Session.Dispatch

/-!
# What is captured in a dry run

In a dry run nothing that rules do changes what other rules look at.  So what a rule comes to can be
read off the evidence, and all that is captured, called and recorded in a run is that of the
readings of its rules, one after another.

## Main definitions

* `Condition.outputOf?` — the output of the conditions of a rule.
* `Reading` — what a rule comes to on some evidence, and `Rule.reading`, how it is read off.
* `Reading.Describes` — an attempt goes as a reading says.
* `Reading.attempted` — the readings of the rules that a run attempts.

## Main results

* `Rule.Harmless.describes` — an attempt at a harmless rule goes as its reading says.
* `Engine.describes_attempts` — so do all attempts of a run over harmless rules.
* `Engine.backreferences_attemptAll` — a run appends what its rules capture, in their order.
-/

set_option autoImplicit false

namespace RequestRouting

/-! ## Readings -/

/-- The output of the conditions of a rule, if there are any and all of them match. -/
def Condition.outputOf? (conditions : List Condition) (evidence : Evidence) : Option Output :=
  if conditions.isEmpty then none
  else
    match allMean conditions evidence with
    | .ok output => output
    | .error _ => none

/-- What a rule comes to on some evidence. -/
structure Reading where
  name : String
  /-- The output of the conditions, if all of them match. -/
  output : Option Output
  /-- The handlers that the actions call, in their order. -/
  handlers : List String

namespace Reading

/-- Whether the rule matches. -/
def isMatch (reading : Reading) : Bool := reading.output.isSome

/-- The values that the rule captures. -/
def captured (reading : Reading) : List Json :=
  match reading.output with
  | some output => output.backreferences
  | none => []

/-- The calls that the rule makes, each with the values that it captures. -/
def calls (reading : Reading) : List HandlerCall :=
  match reading.output with
  | some output => reading.handlers.map fun name => ⟨name, output.backreferences⟩
  | none => []

/-- The record of an attempt at the rule. -/
def record (reading : Reading) : AttemptRecord := ⟨reading.name, reading.isMatch⟩

/-- The readings of the rules that a run attempts: all of them, or with `cut` those up to the first
match, which is included. -/
def attempted (cut : Bool) (readings : List Reading) : List Reading :=
  if cut then readings.take (readings.findIdx isMatch + 1) else readings

/-- The attempts behind the first one. -/
lemma attempted_cons (cut : Bool) (reading : Reading) (rest : List Reading) :
    attempted cut (reading :: rest) =
      reading :: if reading.isMatch && cut then [] else attempted cut rest := by
  cases cut <;> cases hmatch : reading.isMatch <;>
    simp [attempted, List.findIdx_cons, hmatch]

end Reading

/-- The handler that an action calls. -/
def RuleAction.called? : RuleAction → Option String
  | .handler name | .code name => some name
  | .bind _ | .set _ | .log _ => none

/-- What a rule comes to on some evidence. -/
def Rule.reading (rule : Rule) (evidence : Evidence) : Reading :=
  ⟨rule.name, Condition.outputOf? rule.conditions evidence,
    rule.actions.filterMap RuleAction.called?⟩

/-- An attempt goes as a reading says. -/
structure Reading.Describes (reading : Reading) (attempt : Attempt) : Prop where
  name : attempt.rule.name = reading.name
  verdict : attempt.outcome.result = .ok reading.isMatch
  /-- Where the rule matches, its conditions stage the output, and nothing else. -/
  staged : ∀ output, reading.output = some output →
    Condition.evaluateAll attempt.rule.conditions attempt.before.begin =
      (.ok true, attempt.before.stage output)
  /-- The captured values of the rule are committed, and no others. -/
  committed : attempt.outcome.knowledge.committed.backreferences =
    attempt.before.committed.backreferences ++ reading.captured
  /-- All handlers of the rule are called with these values, and no others. -/
  calls : attempt.outcome.notices.filterMap Notice.call? = reading.calls
  /-- The attempt is recorded, and no other. -/
  records : attempt.outcome.notices.filterMap Notice.attempt? = [reading.record]

/-! ## Records -/

namespace Hooks

variable (hooks : Hooks) (rule : Rule) (knowledge : Knowledge)

/-- Telling observers is no call of a handler. -/
@[simp] lemma calls_emit (step : RuleEvent) :
    (hooks.emit step rule knowledge).filterMap Notice.call? = [] := by
  simp [emit, List.filterMap_map, Notice.call?]

/-- Nor are votes. -/
@[simp] lemma calls_ballots : (hooks.ballots rule knowledge).filterMap Notice.call? = [] := by
  refine List.filterMap_eq_nil_iff.2 fun notice hnotice => ?_
  obtain ⟨position, hposition, rfl⟩ := List.mem_mapIdx.1 hnotice
  rfl

/-- Votes are no record of an attempt. -/
@[simp] lemma records_ballots : (hooks.ballots rule knowledge).filterMap Notice.attempt? = [] := by
  refine List.filterMap_eq_nil_iff.2 fun notice hnotice => ?_
  obtain ⟨position, hposition, rfl⟩ := List.mem_mapIdx.1 hnotice
  rfl

/-- Nor is the beginning of an attempt. -/
@[simp] lemma records_emit_processBegin :
    (hooks.emit .processBegin rule knowledge).filterMap Notice.attempt? = [] := by
  simp [emit, List.filterMap_map, Notice.attempt?]

/-- Nor is that the conditions have matched. -/
@[simp] lemma records_emit_processSucceeded :
    (hooks.emit .processSucceeded rule knowledge).filterMap Notice.attempt? = [] := by
  simp [emit, List.filterMap_map, Notice.attempt?]

/-- Nor is that the actions have run. -/
@[simp] lemma records_emit_actionExecuted :
    (hooks.emit .actionExecuted rule knowledge).filterMap Notice.attempt? = [] := by
  simp [emit, List.filterMap_map, Notice.attempt?]

/-- The end of an attempt is recorded once for every observer. -/
@[simp] lemma records_emit_processEnd (matched : Bool) :
    (hooks.emit (.processEnd matched) rule knowledge).filterMap Notice.attempt? =
      hooks.observers.map fun _ => ⟨rule.name, matched⟩ := by
  simp [emit, List.filterMap_map, Function.comp_def, Notice.attempt?]

end Hooks

namespace Engine

variable (engine : Engine) (rule : Rule) (knowledge : Knowledge) (book : RuleBook)

/-- The calls of an attempt are those of its rule. -/
lemma calls_attempt : (engine.attempt rule knowledge book).notices.filterMap Notice.call? =
    (rule.attempt engine knowledge book).notices.filterMap Notice.call? := by
  simp [attempt]

/-- The end of an attempt is recorded behind what its rule makes known. -/
lemma records_attempt : (engine.attempt rule knowledge book).notices.filterMap Notice.attempt? =
    (rule.attempt engine knowledge book).notices.filterMap Notice.attempt? ++
      engine.hooks.observers.map fun _ =>
        ⟨rule.name, isMatch (rule.attempt engine knowledge book).result⟩ := by
  simp [attempt]

end Engine

/-! ## Actions -/

/-- Storing captured values captures nothing anew. -/
@[simp] lemma backreferences_bindReferences (knowledge : Knowledge) (names : List String)
    (references : List Json) :
    (bindReferences knowledge names references).committed.backreferences =
      knowledge.committed.backreferences := by
  induction names generalizing knowledge references with
  | nil => rfl
  | cons name names ih => exact ih _ _

/-- Nor does storing results. -/
@[simp] lemma backreferences_setResults (knowledge : Knowledge) (values : List (String × Json)) :
    (setResults knowledge values).committed.backreferences =
      knowledge.committed.backreferences := by
  induction values generalizing knowledge with
  | nil => rfl
  | cons entry rest ih => exact ih _

section Actions

variable {handlers : Handlers}

/-- A harmless action captures nothing. -/
lemma RuleAction.Harmless.backreferences {action : RuleAction} (h : action.Harmless handlers)
    (rule : String) (references : List Json) (knowledge : Knowledge) (book : RuleBook) :
    (action.perform handlers rule references knowledge book).knowledge.committed.backreferences =
      knowledge.committed.backreferences := by
  cases h with
  | handler h =>
    simp only [RuleAction.perform, Handlers.call, h]
    rfl
  | bind names => exact backreferences_bindReferences ..
  | set values => exact backreferences_setResults ..
  | log message => rfl

/-- It calls the handler that it names, if it names one. -/
lemma RuleAction.Harmless.calls {action : RuleAction} (h : action.Harmless handlers)
    (rule : String) (references : List Json) (knowledge : Knowledge) (book : RuleBook) :
    (action.perform handlers rule references knowledge book).notices.filterMap Notice.call? =
      action.called?.toList.map fun name => ⟨name, references⟩ := by
  cases h with
  | handler h =>
    simp only [RuleAction.perform, Handlers.call, h]
    rfl
  | bind names => rfl
  | set values => rfl
  | log message => rfl

variable {actions : List RuleAction} (hactions : ∀ action ∈ actions, action.Harmless handlers)
include hactions

/-- Harmless actions one after another capture nothing, and call the handlers that they name. -/
lemma performAll_calls (rule : String) (references : List Json) {evidence : Evidence}
    {knowledge : Knowledge} (h : knowledge.Settled evidence) (book : RuleBook) :
    (performAll handlers rule references actions knowledge book).knowledge.committed.backreferences =
      knowledge.committed.backreferences ∧
    (performAll handlers rule references actions knowledge book).notices.filterMap Notice.call? =
      (actions.filterMap RuleAction.called?).map fun name => ⟨name, references⟩ := by
  induction actions generalizing knowledge book with
  | nil => exact ⟨rfl, rfl⟩
  | cons action rest ih =>
    obtain ⟨haction, hrest⟩ := List.forall_mem_cons.1 hactions
    obtain ⟨houtcome, hsettled⟩ := haction.perform rule references h book
    obtain ⟨hreferences, hcalls⟩ := ih hrest hsettled
      (action.perform handlers rule references knowledge book).book
    simp only [performAll, houtcome, List.filterMap_append, haction.calls, hcalls]
    refine ⟨hreferences.trans (haction.backreferences ..), ?_⟩
    cases hcalled : action.called? <;> simp [hcalled]

end Actions

/-- Actions record no attempt. -/
lemma records_performAll (handlers : Handlers) (rule : String) (references : List Json)
    (actions : List RuleAction) (knowledge : Knowledge) (book : RuleBook) :
    (performAll handlers rule references actions knowledge book).notices.filterMap Notice.attempt? =
      [] := by
  have hquiet := filter_notices_performAll handlers rule references actions knowledge book
  refine List.filterMap_eq_nil_iff.2 fun notice hnotice => ?_
  have hother : ¬ notice.isOfHooks := List.filter_eq_nil_iff.1 hquiet notice hnotice
  cases notice with
  | event => exact absurd rfl hother
  | veto => rfl
  | called => rfl
  | logged => rfl

/-! ## Attempts -/

namespace Condition

variable {conditions : List Condition} {knowledge after : Knowledge}

/-- Conditions that match stage the output of their reading. -/
lemma exists_outputOf? (hnative : ∀ condition ∈ conditions, condition.Native)
    (hne : conditions ≠ []) (h : evaluateAll conditions knowledge.begin = (.ok true, after)) :
    ∃ output, outputOf? conditions knowledge.evidence = some output ∧
      after = knowledge.stage output := by
  have hfollows := follows_all hnative knowledge.begin
  have hevidence : knowledge.begin.evidence = knowledge.evidence := rfl
  rw [hevidence, h] at hfollows
  unfold outputOf?
  rw [if_neg (by simpa using hne)]
  generalize allMean conditions knowledge.evidence = verdict at hfollows ⊢
  cases hfollows with
  | accepts output => exact ⟨output, rfl, rfl⟩

/-- Conditions that do not match have no output. -/
lemma outputOf?_eq_none (hnative : ∀ condition ∈ conditions, condition.Native)
    (h : evaluateAll conditions knowledge.begin = (.ok false, after)) :
    outputOf? conditions knowledge.evidence = none := by
  have hfollows := follows_all hnative knowledge.begin
  have hevidence : knowledge.begin.evidence = knowledge.evidence := rfl
  rw [hevidence, h] at hfollows
  unfold outputOf?
  generalize allMean conditions knowledge.evidence = verdict at hfollows ⊢
  cases hfollows with
  | refuses => exact ite_self _

end Condition

/-- A harmless rule that fires commits what has been staged, and hands it to its actions. -/
lemma Rule.Harmless.fire {engine : Engine} {rule : Rule} (hrule : rule.Harmless engine.handlers)
    {evidence : Evidence} {knowledge : Knowledge} (h : knowledge.Settled evidence) (output : Output)
    (book : RuleBook) :
    let fired := rule.fire engine (knowledge.stage output) book
    fired.result = .ok true ∧
    fired.knowledge.committed.backreferences =
      knowledge.committed.backreferences ++ output.backreferences ∧
    fired.notices.filterMap Notice.call? =
      (rule.actions.filterMap RuleAction.called?).map
        (fun name => ⟨name, output.backreferences⟩) ∧
    fired.notices.filterMap Notice.attempt? = [] := by
  have hsettled := (h.absorb output).extractFacts engine.clearExtractors
  obtain ⟨houtcome, -⟩ := performAll_harmless hrule.actions rule.name output.backreferences hsettled
    book
  obtain ⟨hreferences, hcalls⟩ := performAll_calls hrule.actions rule.name output.backreferences
    hsettled book
  simp only [Rule.fire_eq, carryOut, Knowledge.commit_stage h.closed, houtcome,
    List.filterMap_append, hcalls, hreferences, Hooks.calls_emit, records_performAll,
    Hooks.records_emit_actionExecuted, Knowledge.backreferences_extractFacts, List.append_nil,
    true_and, and_true]
  rfl

/-- **An attempt at a harmless rule goes as its reading says**, if it does not fail.

**Proof sketch.** Case analysis on how the attempt ends.  What the conditions stage on a match is
the output of their reading, which is committed and handed to the actions; and otherwise it is
rolled back. -/
theorem Rule.Harmless.describes {engine : Engine} {rule : Rule} {observer : String}
    (hrule : rule.Harmless engine.handlers) (hhooks : engine.hooks = ⟨[observer], []⟩)
    {evidence : Evidence} {knowledge : Knowledge} (h : knowledge.Settled evidence) {book : RuleBook}
    {verdict : Bool} (hverdict : (engine.attempt rule knowledge book).result = .ok verdict) :
    (rule.reading evidence).Describes ⟨rule, knowledge, engine.attempt rule knowledge book⟩ := by
  have hback := rollback_evaluateAll
    (fun condition hcondition => (hrule.conditions condition hcondition).speculative) h.closed
  -- A rule that does not match is passed over, and only that is recorded.
  have hpassed (hoff : Condition.outputOf? rule.conditions evidence = none)
      (hattempt : rule.attempt engine knowledge book = ⟨.ok false, knowledge, book, []⟩) :
      (rule.reading evidence).Describes
        ⟨rule, knowledge, engine.attempt rule knowledge book⟩ := by
    refine ⟨rfl, ?_, fun output houtput => ?_, ?_, ?_, ?_⟩
    · simp [Engine.attempt, hattempt, reading, Reading.isMatch, hoff]
    · simp [reading, hoff] at houtput
    · simp [Engine.attempt, hattempt, reading, Reading.captured, hoff]
    · simp [Engine.calls_attempt, hattempt, reading, Reading.calls, hoff]
    · simp [Engine.records_attempt, hattempt, hhooks, Engine.isMatch, Reading.record, reading,
        Reading.isMatch, hoff]
  have hresult : (rule.attempt engine knowledge book).result = .ok verdict := hverdict
  have hends := ends_attempt engine rule knowledge book
  generalize hattempt : rule.attempt engine knowledge book = outcome at hends hresult
  cases hends with
  | idle hnone => exact hpassed (by simp [Condition.outputOf?, hnone]) hattempt
  | fails e after hafter => cases hresult
  | refuses after hafter =>
    rw [hafter] at hback
    have hnone := Condition.outputOf?_eq_none hrule.conditions hafter
    exact hpassed (h.evidence_eq ▸ hnone) (hattempt.trans (by rw [hback]))
  | vetoed after hne hafter hveto => simp [Hooks.approve, Hooks.approveFrom, hhooks] at hveto
  | fires after hne hafter hveto =>
    obtain ⟨output, houtput, rfl⟩ := Condition.exists_outputOf? hrule.conditions hne hafter
    rw [h.evidence_eq] at houtput
    obtain ⟨hfired, hreferences, hcalls, hrecords⟩ := hrule.fire h output book
    refine ⟨rfl, ?_, fun other hother => ?_, ?_, ?_, ?_⟩
    · simp [Engine.attempt, hattempt, Outcome.after, hfired, reading, Reading.isMatch, houtput]
    · obtain rfl : output = other := Option.some.inj (houtput.symm.trans hother)
      exact hafter
    · simp [Engine.attempt, hattempt, Outcome.after, hreferences, reading, Reading.captured,
        houtput]
    · simp [Engine.calls_attempt, hattempt, Outcome.after, Hooks.approve_snd, hcalls, reading,
        Reading.calls, houtput]
    · simp [Engine.records_attempt, hattempt, Outcome.after, Hooks.approve_snd, hrecords, hfired,
        hhooks, Engine.isMatch, Reading.record, reading, Reading.isMatch, houtput]

/-! ## Runs -/

section Runs

variable {engine : Engine} {observer : String} (hhooks : engine.hooks = ⟨[observer], []⟩)
  {evidence : Evidence} {cut : Bool} {rules : List Rule}
  (hrules : ∀ rule ∈ rules, rule.Harmless engine.handlers) {knowledge : Knowledge}
  (h : knowledge.Settled evidence) {book : RuleBook} {report : Report}
  (hreport : (engine.attemptAll cut rules knowledge book).result = .ok report)
include hhooks hrules h hreport

/-- **The attempts of a run over harmless rules go as the readings of its rules say**: all of them
are attempted, or those up to the first match.

**Proof sketch.** Induction on the rules.  What an attempt at a harmless rule leaves has the same
evidence as what it has begun with, so that the readings stay the same. -/
theorem Engine.describes_attempts :
    List.Forall₂ Reading.Describes
      (Reading.attempted cut (rules.map fun rule => rule.reading evidence))
      (engine.attempts cut rules knowledge book) := by
  induction rules generalizing knowledge book report with
  | nil => cases cut <;> exact .nil
  | cons rule rest ih =>
    obtain ⟨hrule, hrest⟩ := List.forall_mem_cons.1 hrules
    rw [List.map_cons, Reading.attempted_cons]
    cases hresult : (engine.attempt rule knowledge book).result with
    | error e =>
      rw [attemptAll_cons_of_error hresult] at hreport
      cases hreport
    | ok verdict =>
      have hdescribes := hrule.describes hhooks h hresult
      have hverdict : (rule.reading evidence).isMatch = verdict :=
        Except.ok.inj (hdescribes.verdict.symm.trans hresult)
      rw [hverdict]
      cases hcut : (verdict && cut) with
      | true =>
        rw [attempts_cons_of_ends (by simp [hresult, goesOn, hcut]), if_pos rfl]
        exact .cons hdescribes .nil
      | false =>
        rw [attemptAll_cons_of_goesOn hresult hcut] at hreport
        obtain ⟨later, hlater, -⟩ := Outcome.result_followedBy hreport
        rw [attempts_cons_of_goesOn (goesOn_eq_true.2 ⟨verdict, hresult, hcut⟩),
          if_neg Bool.false_ne_true]
        exact .cons hdescribes (ih hrest (hrule.attempt_expected h book).settled hlater)

/-- **A run over harmless rules appends what its rules capture**, in their order. -/
theorem Engine.backreferences_attemptAll :
    (engine.attemptAll cut rules knowledge book).knowledge.committed.backreferences =
      knowledge.committed.backreferences ++
        (Reading.attempted cut (rules.map fun rule => rule.reading evidence)).flatMap
          Reading.captured := by
  have hdescribes := describes_attempts hhooks hrules h hreport
  have hcommitted := hdescribes.imp fun _ _ hdescribes => hdescribes.committed
  rw [List.flatMap_def]
  exact appends_attemptAll (fun knowledge => knowledge.committed.backreferences)
    (List.forall₂_map_left_iff.2 hcommitted)

end Runs

end RequestRouting
