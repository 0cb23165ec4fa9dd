import RequestRouting.Proofs.Dispatch
import RequestRouting.Proofs.Knowledge.Extraction

/-!
# What observers and vetoes see of an attempt

Three layers tell observers about an attempt at a rule: the dispatcher when it begins and when it is
over, the rule when its conditions have matched and when its actions have run, and the hooks about
every veto that is asked.  However the attempt ends, what they tell is one block of a fixed form.

## Main definitions

* `Notice.isOfHooks` — a notice to an observer, or the vote of a veto.
* `Hooks.ballots` — the votes up to the first refusal.
* `Block` — what observers and vetoes can see of an attempt, and `Block.notices`, its trace.
* `Block.Describes` — a block is what an attempt looks like.
* `RuleAction.Tidy` — an action leaves no transaction open.

## Main results

* `Hooks.approve_snd` — vetoes are asked in their order, up to the first that refuses.
* `Engine.exists_describes` — every attempt looks like some block.
-/

set_option autoImplicit false

namespace RequestRouting

/-! ## Notices -/

/-- Whether a notice is one to an observer, or the vote of a veto. -/
def Notice.isOfHooks : Notice → Bool
  | .event .. | .veto .. => true
  | .called .. | .logged .. => false

namespace Hooks

/-- The votes of the vetoes, in the order of their registration, up to the first refusal. -/
def ballots (hooks : Hooks) (rule : Rule) (knowledge : Knowledge) : List Notice :=
  let approvals := (hooks.vetoes.takeWhile fun veto => veto rule knowledge).length
  (hooks.vetoes.take (approvals + 1)).mapIdx fun position veto =>
    .veto position rule knowledge (veto rule knowledge)

/-- Vetoes that are asked from a position on vote in their order, up to the first that refuses. -/
lemma approveFrom_snd (position : Nat) (rule : Rule) (knowledge : Knowledge) (vetoes : List Veto) :
    (approveFrom position rule knowledge vetoes).2 =
      (vetoes.take ((vetoes.takeWhile fun veto => veto rule knowledge).length + 1)).mapIdx
        fun later veto => .veto (position + later) rule knowledge (veto rule knowledge) := by
  fun_induction approveFrom position rule knowledge vetoes with
  | case1 => rfl
  | case2 position veto rest hveto approved notices hrest ih =>
    have hnotices : notices = (approveFrom (position + 1) rule knowledge rest).2 := by rw [hrest]
    simp [hveto, hnotices, ih, List.mapIdx_cons, Nat.add_assoc, Nat.add_comm 1]
  | case3 position veto rest hveto => simp [hveto, List.mapIdx_cons]

/-- **Vetoes are asked in the order of their registration, up to the first that refuses.** -/
theorem approve_snd (hooks : Hooks) (rule : Rule) (knowledge : Knowledge) :
    (hooks.approve rule knowledge).2 = hooks.ballots rule knowledge := by
  simp [approve, approveFrom_snd, ballots]

/-- A rule is approved if no veto refuses it. -/
lemma approve_fst (hooks : Hooks) (rule : Rule) (knowledge : Knowledge) :
    (hooks.approve rule knowledge).1 = true ↔
      ∀ veto ∈ hooks.vetoes, veto rule knowledge = true := by
  simp [approve, approveFrom_fst]

/-- All that observers are told is of the hooks. -/
@[simp] lemma filter_emit (hooks : Hooks) (step : RuleEvent) (rule : Rule) (knowledge : Knowledge) :
    (hooks.emit step rule knowledge).filter Notice.isOfHooks = hooks.emit step rule knowledge := by
  refine List.filter_eq_self.2 fun notice hnotice => ?_
  obtain ⟨observer, -, rfl⟩ := List.mem_map.1 hnotice
  rfl

/-- All votes are of the hooks. -/
@[simp] lemma filter_ballots (hooks : Hooks) (rule : Rule) (knowledge : Knowledge) :
    (hooks.ballots rule knowledge).filter Notice.isOfHooks = hooks.ballots rule knowledge := by
  refine List.filter_eq_self.2 fun notice hnotice => ?_
  obtain ⟨position, hposition, rfl⟩ := List.mem_mapIdx.1 hnotice
  rfl

end Hooks

/-! ## Actions -/

/-- Actions tell neither observers nor vetoes anything. -/
@[simp] lemma filter_notices_performAll (handlers : Handlers) (rule : String)
    (references : List Json) (actions : List RuleAction) (knowledge : Knowledge)
    (book : RuleBook) :
    (performAll handlers rule references actions knowledge book).notices.filter
      Notice.isOfHooks = [] := by
  have hone (action : RuleAction) (knowledge : Knowledge) (book : RuleBook) :
      (action.perform handlers rule references knowledge book).notices.filter
        Notice.isOfHooks = [] := by
    cases action <;> simp only [RuleAction.perform, Handlers.call] <;> try split
    all_goals rfl
  fun_induction performAll handlers rule references actions knowledge book with
  | case1 => rfl
  | case2 action rest knowledge book performed e he => exact hone action knowledge book
  | case3 action rest knowledge book performed he later ih =>
    rw [List.filter_append, hone, ih, List.nil_append]

/-- An action leaves no transaction open that was not open before. -/
def RuleAction.Tidy (handlers : Handlers) (action : RuleAction) : Prop :=
  ∀ rule references knowledge book, knowledge.inTransaction = false →
    (action.perform handlers rule references knowledge book).knowledge.inTransaction = false

namespace RuleAction

variable (handlers : Handlers)

/-- Storing captured values opens no transaction. -/
lemma tidy_bind (names : List String) : (bind names).Tidy handlers := by
  intro rule references knowledge book hclosed
  change (bindReferences knowledge names references).inTransaction = false
  induction names generalizing knowledge references with
  | nil => exact hclosed
  | cons name rest ih => exact ih _ _ hclosed

/-- Storing constant results opens no transaction. -/
lemma tidy_set (values : Dict Json) : (set values).Tidy handlers := by
  intro rule references knowledge book hclosed
  change (setResults knowledge values.entries).inTransaction = false
  unfold setResults
  induction values.entries generalizing knowledge with
  | nil => exact hclosed
  | cons field rest ih => exact ih _ hclosed

/-- Writing to the log opens no transaction. -/
lemma tidy_log (message : String) : (log message).Tidy handlers :=
  fun _ _ _ _ hclosed => hclosed

end RuleAction

/-- Tidy actions one after another leave no transaction open. -/
lemma inTransaction_performAll {handlers : Handlers} {rule : String} {references : List Json}
    {actions : List RuleAction} (htidy : ∀ action ∈ actions, action.Tidy handlers)
    {knowledge : Knowledge} (hclosed : knowledge.inTransaction = false) (book : RuleBook) :
    (performAll handlers rule references actions knowledge book).knowledge.inTransaction =
      false := by
  fun_induction performAll handlers rule references actions knowledge book with
  | case1 => exact hclosed
  | case2 action rest knowledge book performed e he =>
    exact htidy action (List.mem_cons_self ..) _ _ _ _ hclosed
  | case3 action rest knowledge book performed he later ih =>
    obtain ⟨hfirst, hrest⟩ := List.forall_mem_cons.1 htidy
    exact ih hrest (hfirst _ _ _ _ hclosed)

/-- What becomes of the actions of a rule, once what its conditions have staged is committed and
facts have been derived. -/
def Rule.carryOut (engine : Engine) (rule : Rule) (staged : Knowledge) (book : RuleBook) :
    Performed :=
  performAll engine.handlers rule.name staged.commit.1 rule.actions
    (staged.commit.2.extractFacts engine.clearExtractors) book

/-- A rule that fires carries its actions out, and tells observers if all of them have succeeded. -/
lemma Rule.fire_eq (engine : Engine) (rule : Rule) (staged : Knowledge) (book : RuleBook) :
    rule.fire engine staged book =
      let performed := rule.carryOut engine staged book
      match performed.outcome with
      | .error text =>
        ⟨.error (.actionFailed rule.name text), performed.knowledge, performed.book,
          performed.notices⟩
      | .ok () =>
        ⟨.ok true, performed.knowledge, performed.book,
          performed.notices ++ engine.hooks.emit .actionExecuted rule performed.knowledge⟩ :=
  rfl

/-- What is known when an attempt at a rule is about to commit what its conditions have staged, if
it gets so far. -/
def Rule.staged? (engine : Engine) (rule : Rule) (knowledge : Knowledge) : Option Knowledge :=
  if rule.conditions.isEmpty then none
  else
    match Condition.evaluateAll rule.conditions knowledge.begin with
    | (.ok true, staged) => if (engine.hooks.approve rule staged).1 then some staged else none
    | _ => none

/-- An attempt that commits carries the rule out, and any other one leaves the book as it was, and
rolls back what its conditions have staged. -/
lemma Rule.attempt_eq_of_staged? (engine : Engine) (rule : Rule) (knowledge : Knowledge)
    (book : RuleBook) :
    let outcome := rule.attempt engine knowledge book
    match rule.staged? engine knowledge with
    | some staged =>
      Condition.evaluateAll rule.conditions knowledge.begin = (.ok true, staged) ∧
        outcome.knowledge = (rule.carryOut engine staged book).knowledge ∧
        outcome.book = (rule.carryOut engine staged book).book
    | none =>
      (outcome.knowledge = knowledge ∨
        outcome.knowledge = (Condition.evaluateAll rule.conditions knowledge.begin).2.rollback) ∧
      outcome.book = book := by
  intro outcome
  have hends : rule.Ends engine knowledge book outcome := rule.ends_attempt engine knowledge book
  unfold staged?
  generalize outcome = ending at hends
  cases hends with
  | idle h => simp [h]
  | fails e after h =>
    have hne : rule.conditions ≠ [] := conditions_ne_nil h (by simp)
    simp [h, hne]
  | refuses after h =>
    have hne : rule.conditions ≠ [] := conditions_ne_nil h (by simp)
    simp [h, hne]
  | vetoed after hne h hveto => simp [h, hne, hveto]
  | fires after hne h hveto =>
    simp only [h, hveto, List.isEmpty_iff, hne, if_false, if_true, Outcome.after, fire_eq]
    cases (rule.carryOut engine after book).outcome <;> exact ⟨trivial, rfl, rfl⟩

/-- The actions of a rule tell neither observers nor vetoes anything. -/
@[simp] lemma Rule.filter_notices_carryOut (engine : Engine) (rule : Rule) (staged : Knowledge)
    (book : RuleBook) :
    (rule.carryOut engine staged book).notices.filter Notice.isOfHooks = [] :=
  filter_notices_performAll ..

/-- Once a rule is committed, no transaction is open any more. -/
lemma Rule.inTransaction_carryOut {engine : Engine} {rule : Rule}
    (htidy : ∀ action ∈ rule.actions, action.Tidy engine.handlers) (staged : Knowledge)
    (book : RuleBook) :
    (rule.carryOut engine staged book).knowledge.inTransaction = false := by
  refine inTransaction_performAll htidy ?_ book
  unfold Knowledge.commit
  split
  · next hstaged => simp [Knowledge.inTransaction, hstaged]
  · simp [Knowledge.inTransaction]

/-! ## Blocks -/

/-- What observers and vetoes can see of an attempt at a rule. -/
structure Block where
  rule : Rule
  /-- What is known when the attempt begins. -/
  before : Knowledge
  /-- What is known when all conditions have matched, if they have. -/
  staged : Option Knowledge
  /-- What is known when all actions have run, if they have. -/
  performed : Option Knowledge
  /-- What is known when the attempt is over. -/
  after : Knowledge
  /-- How the attempt ends. -/
  result : Except RuleError Bool

namespace Block

/-- Whether all actions of the rule have run. -/
def isMatch (block : Block) : Bool := block.performed.isSome

/-- The trace of a block: its beginning; that all conditions have matched, and the votes of the
vetoes; that all actions have run; and its end. -/
def notices (hooks : Hooks) (block : Block) : List Notice :=
  hooks.emit .processBegin block.rule block.before ++
    (block.staged.elim [] fun staged =>
      hooks.emit .processSucceeded block.rule staged ++ hooks.ballots block.rule staged) ++
    (block.performed.elim [] fun performed =>
      hooks.emit .actionExecuted block.rule performed) ++
    hooks.emit (.processEnd block.isMatch) block.rule block.after

/-- A block is what an attempt at its rule looks like, which begins with a book and has an
outcome. -/
structure Describes (engine : Engine) (book : RuleBook) (outcome : Outcome Bool)
    (block : Block) : Prop where
  /-- Observers and vetoes see the trace of the block. -/
  trace : outcome.notices.filter Notice.isOfHooks = block.notices engine.hooks
  result : outcome.result = block.result
  after : outcome.knowledge = block.after
  /-- Success is told if the rule has conditions and all of them match. -/
  staged_iff : ∀ staged, block.staged = some staged ↔ block.rule.conditions ≠ [] ∧
    Condition.evaluateAll block.rule.conditions block.before.begin = (.ok true, staged)
  /-- The actions are told to have run if all vetoes approve and all actions succeed. -/
  performed_iff : ∀ performed, block.performed = some performed ↔
    ∃ staged, block.staged = some staged ∧
      (∀ veto ∈ engine.hooks.vetoes, veto block.rule staged = true) ∧
      (block.rule.carryOut engine staged book).outcome = .ok () ∧
      (block.rule.carryOut engine staged book).knowledge = performed
  /-- The rule has matched if its actions have run. -/
  isMatch_iff : block.result = .ok true ↔ block.isMatch = true
  /-- While vetoes are asked, nothing of the rule has been committed. -/
  uncommitted : ∀ staged, block.staged = some staged →
    staged.inTransaction = true ∧ staged.committed = block.before.committed
  /-- No transaction is open when the attempt begins, when the actions have run, and at its end. -/
  closed : block.before.inTransaction = false ∧
    (∀ performed, block.performed = some performed → performed.inTransaction = false) ∧
    block.after.inTransaction = false

end Block

/-! ## Every attempt is a block -/

namespace Rule

variable {engine : Engine} {rule : Rule} {knowledge : Knowledge} {book : RuleBook}

/-- The conditions of a rule that are evaluated in a transaction leave it open, and commit
nothing. -/
lemma uncommitted_of_evaluateAll
    (hspeculative : ∀ condition ∈ rule.conditions, condition.Speculative)
    {verdict : Except RuleError Bool} {staged : Knowledge}
    (h : Condition.evaluateAll rule.conditions knowledge.begin = (verdict, staged)) :
    staged.inTransaction = true ∧ staged.committed = knowledge.committed := by
  have hwrites := Knowledge.Writes.frame.evaluateAll hspeculative knowledge.begin
  rw [h] at hwrites
  obtain ⟨layer, rfl⟩ := hwrites.exists_withActive
  exact ⟨rfl, rfl⟩

end Rule

namespace Engine

variable {engine : Engine} {rule : Rule} {knowledge : Knowledge} {book : RuleBook}

/-- The result of an attempt is a match if it is true, and not an error. -/
lemma isMatch_eq_true {result : Except RuleError Bool} :
    isMatch result = true ↔ result = .ok true := by
  unfold isMatch
  split <;> simp

/-- The trace of an attempt stands between the news of its beginning and of its end. -/
lemma trace_attempt (engine : Engine) (rule : Rule) (knowledge : Knowledge) (book : RuleBook) :
    (engine.attempt rule knowledge book).notices.filter Notice.isOfHooks =
      engine.hooks.emit .processBegin rule knowledge ++
        (rule.attempt engine knowledge book).notices.filter Notice.isOfHooks ++
        engine.hooks.emit (.processEnd (isMatch (rule.attempt engine knowledge book).result)) rule
          (rule.attempt engine knowledge book).knowledge := by
  simp [attempt]

/-- An attempt in which not all conditions match is a block without news in between. -/
lemma describes_quiet {result : Except RuleError Bool}
    (hattempt : rule.attempt engine knowledge book = ⟨result, knowledge, book, []⟩)
    (hresult : result ≠ .ok true) (hclosed : knowledge.inTransaction = false)
    (hconditions : ∀ staged, ¬ (rule.conditions ≠ [] ∧
      Condition.evaluateAll rule.conditions knowledge.begin = (.ok true, staged))) :
    Block.Describes engine book (engine.attempt rule knowledge book)
      ⟨rule, knowledge, none, none, knowledge, result⟩ where
  trace := by
    have hmatch : isMatch result = false := by simpa [← isMatch_eq_true] using hresult
    rw [trace_attempt, hattempt]
    simp [hmatch, Block.notices, Block.isMatch]
  result := by rw [attempt, hattempt]
  after := by rw [attempt, hattempt]
  staged_iff staged := by simpa using hconditions staged
  performed_iff performed := by simp
  isMatch_iff := by simpa [Block.isMatch] using hresult
  uncommitted := by simp
  closed := ⟨hclosed, by simp, hclosed⟩

/-- An attempt in which all conditions match is a block that tells so. -/
lemma describes_matched {outcome : Outcome Bool} {staged : Knowledge} (performed : Option Knowledge)
    (hattempt : rule.attempt engine knowledge book = outcome)
    (hspeculative : ∀ condition ∈ rule.conditions, condition.Speculative)
    (hne : rule.conditions ≠ [])
    (hstaged : Condition.evaluateAll rule.conditions knowledge.begin = (.ok true, staged))
    (htrace : outcome.notices.filter Notice.isOfHooks =
      engine.hooks.emit .processSucceeded rule staged ++ engine.hooks.ballots rule staged ++
        performed.elim [] fun performed => engine.hooks.emit .actionExecuted rule performed)
    (hperformed : ∀ reached, performed = some reached ↔
      (∀ veto ∈ engine.hooks.vetoes, veto rule staged = true) ∧
      (rule.carryOut engine staged book).outcome = .ok () ∧
      (rule.carryOut engine staged book).knowledge = reached)
    (hmatch : outcome.result = .ok true ↔ performed.isSome = true)
    (hclosed : knowledge.inTransaction = false)
    (hperformed_closed : ∀ reached, performed = some reached → reached.inTransaction = false)
    (hafter_closed : outcome.knowledge.inTransaction = false) :
    Block.Describes engine book (engine.attempt rule knowledge book)
      ⟨rule, knowledge, some staged, performed, outcome.knowledge, outcome.result⟩ where
  trace := by
    have hisMatch : isMatch outcome.result = performed.isSome :=
      Bool.eq_iff_iff.2 (isMatch_eq_true.trans hmatch)
    rw [trace_attempt, hattempt, htrace, hisMatch]
    simp [Block.notices, Block.isMatch]
  result := by rw [attempt, hattempt]
  after := by rw [attempt, hattempt]
  staged_iff reached := by simp [hne, hstaged]
  performed_iff reached := by simpa using hperformed reached
  isMatch_iff := hmatch
  uncommitted reached h := by
    obtain rfl := Option.some.inj h
    exact Rule.uncommitted_of_evaluateAll hspeculative hstaged
  closed := ⟨hclosed, hperformed_closed, hafter_closed⟩

/-- **Every attempt looks like a block**, if its conditions write speculatively and its actions are
tidy.

**Proof sketch.** Case analysis on how the attempt ends.  Unless the rule fires, a rollback brings
the knowledge back. -/
theorem exists_describes (hspeculative : ∀ condition ∈ rule.conditions, condition.Speculative)
    (htidy : ∀ action ∈ rule.actions, action.Tidy engine.handlers)
    (hclosed : knowledge.inTransaction = false) (book : RuleBook) :
    ∃ block : Block, block.rule = rule ∧ block.before = knowledge ∧
      block.Describes engine book (engine.attempt rule knowledge book) := by
  have hback := Rule.rollback_evaluateAll hspeculative hclosed
  generalize hattempt : rule.attempt engine knowledge book = outcome
  have hends := Rule.ends_attempt engine rule knowledge book
  rw [hattempt] at hends
  cases hends with
  | idle h =>
    exact ⟨_, rfl, rfl, describes_quiet hattempt (by simp) hclosed (by simp [h])⟩
  | fails e after h =>
    rw [h] at hback
    simp only [hback] at hattempt
    exact ⟨_, rfl, rfl, describes_quiet hattempt (by simp) hclosed (by simp [h])⟩
  | refuses after h =>
    rw [h] at hback
    simp only [hback] at hattempt
    exact ⟨_, rfl, rfl, describes_quiet hattempt (by simp) hclosed (by simp [h])⟩
  | vetoed after hne h hveto =>
    have hrefused : ¬ ∀ veto ∈ engine.hooks.vetoes, veto rule after = true := by
      simpa [← Hooks.approve_fst] using hveto
    refine ⟨_, rfl, rfl, describes_matched none hattempt hspeculative hne h ?_ ?_
      (by simp) hclosed (by simp) rfl⟩
    · simp [Hooks.approve_snd]
    · exact fun reached => ⟨by simp, fun hall => absurd hall.1 hrefused⟩
  | fires after hne h hveto =>
    have hall := (Hooks.approve_fst engine.hooks rule after).1 hveto
    have hopen := Rule.inTransaction_carryOut htidy after book
    rw [Rule.fire_eq] at hattempt
    cases houtcome : (rule.carryOut engine after book).outcome with
    | error text =>
      simp only [houtcome] at hattempt
      refine ⟨_, rfl, rfl, describes_matched none hattempt hspeculative hne h ?_ ?_
        (by simp [Outcome.after]) hclosed (by simp) hopen⟩
      · simp [Outcome.after, Hooks.approve_snd]
      · simp [houtcome]
    | ok done =>
      simp only [houtcome] at hattempt
      refine ⟨_, rfl, rfl, describes_matched
        (some (rule.carryOut engine after book).knowledge) hattempt hspeculative hne h
        ?_ ?_ (by simp [Outcome.after]) hclosed (by simpa using hopen) hopen⟩
      · simp [Outcome.after, Hooks.approve_snd]
      · simpa [houtcome] using hall

end Engine

end RequestRouting
