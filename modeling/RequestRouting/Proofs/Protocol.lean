import RequestRouting.Proofs.Rule.Block

/-!
# What observers and vetoes see of a run

A run attempts rules one after another.  Observers and vetoes see the blocks of the attempts, in the
order of the rules, and each block begins with what is known at the end of the one before.  The
report of a run counts the blocks and lists the rules whose blocks tell of a match; an error ends
the run with the block in which it arises.

## Main definitions

* `Block.Sequence` — blocks that follow each other.
* `Engine.Protocol` — what some blocks have to do with a run.

## Main results

* `Engine.exists_protocol` — every pass over some rules follows the protocol.
* `Dispatcher.exists_protocol_run` — so does every run of a dispatcher.
-/

set_option autoImplicit false

namespace RequestRouting

/-- Blocks of attempts that follow each other, from what is known and which rules there are before
the first one to what is known and which rules there are after the last one. -/
inductive Block.Sequence (engine : Engine) :
    Knowledge → RuleBook → List Block → Knowledge → RuleBook → Prop where
  | nil (knowledge : Knowledge) (book : RuleBook) : Sequence engine knowledge book [] knowledge book
  | cons {block : Block} {book : RuleBook} {blocks : List Block} {last : Knowledge}
      {lastBook : RuleBook}
      (hfirst : block.Describes engine book (engine.attempt block.rule block.before book))
      (hrest : Sequence engine block.after (engine.attempt block.rule block.before book).book
        blocks last lastBook) :
    Sequence engine block.before book (block :: blocks) last lastBook

/-- What some blocks have to do with a pass over rules.  With `cut` the first match is the last
attempt. -/
structure Engine.Protocol (engine : Engine) (cut : Bool) (rules : List Rule) (knowledge : Knowledge)
    (book : RuleBook) (outcome : Outcome Report) (blocks : List Block) : Prop where
  /-- Observers and vetoes see the blocks, one after another. -/
  trace : outcome.notices.filter Notice.isOfHooks = blocks.flatMap (Block.notices engine.hooks)
  /-- The blocks are those of attempts that follow each other. -/
  sequence : Block.Sequence engine knowledge book blocks outcome.knowledge outcome.book
  /-- The rules are attempted in their order. -/
  order : blocks.map Block.rule <+: rules
  /-- After an error, and with `cut` after a match, no rule is attempted. -/
  goesOn : ∀ block ∈ blocks.dropLast,
    block.result = .ok false ∨ cut = false ∧ block.result = .ok true
  /-- For no other reason the attempts end before the last rule. -/
  endsEarly : blocks.map Block.rule ≠ rules → ∃ block ∈ blocks.getLast?,
    (∃ e, block.result = .error e) ∨ cut = true ∧ block.result = .ok true
  /-- A report counts the blocks, and lists the rules of those that tell of a match. -/
  success : ∀ report, outcome.result = .ok report →
    report.attempted = blocks.length ∧
    report.matchedRules = (blocks.filter Block.isMatch).map Block.rule
  /-- The error of a rule is that of the pass. -/
  failure : ∀ e, outcome.result = .error e ↔
    ∃ block ∈ blocks.getLast?, block.result = .error e

namespace Engine

variable {engine : Engine} {cut : Bool} {rule : Rule} {rest : List Rule} {knowledge : Knowledge}
  {book : RuleBook}

/-- What holds of the last of some blocks holds of the last of more blocks, if it does not hold of
the one in front. -/
lemma exists_last_cons {property : Block → Prop} {block : Block} (h : ¬ property block)
    (blocks : List Block) :
    (∃ last ∈ (block :: blocks).getLast?, property last) ↔
      ∃ last ∈ blocks.getLast?, property last := by
  cases blocks <;> simp [h]

/-- A pass over no rules makes no attempts. -/
lemma Protocol.nil (engine : Engine) (cut : Bool) (knowledge : Knowledge) (book : RuleBook) :
    engine.Protocol cut [] knowledge book (engine.attemptAll cut [] knowledge book) [] where
  trace := rfl
  sequence := .nil knowledge book
  order := List.nil_prefix
  goesOn := by simp
  endsEarly := by simp
  success report h := by
    cases h
    exact ⟨rfl, rfl⟩
  failure e := by simp [attemptAll]

/-- A pass that ends with its first attempt, over an error or over a match, has one block. -/
lemma Protocol.single {block : Block} {outcome : Outcome Report}
    (hdescribes : block.Describes engine book (engine.attempt block.rule block.before book))
    (hnotices : outcome.notices = (engine.attempt block.rule block.before book).notices)
    (hknowledge : outcome.knowledge = (engine.attempt block.rule block.before book).knowledge)
    (hbook : outcome.book = (engine.attempt block.rule block.before book).book)
    (hresult : outcome.result = block.result.map fun _ => Report.empty.cons block.rule true)
    (hends : (∃ e, block.result = .error e) ∨ cut = true ∧ block.result = .ok true) :
    engine.Protocol cut (block.rule :: rest) block.before book outcome [block] where
  trace := by simpa [hnotices] using hdescribes.trace
  sequence := by
    rw [hknowledge, hbook, hdescribes.after]
    exact .cons hdescribes (.nil _ _)
  order := by simp
  goesOn := by simp
  endsEarly _ := ⟨block, rfl, hends⟩
  success report h := by
    cases hblock : block.result with
    | error e => simp [hresult, hblock, Except.map] at h
    | ok verdict =>
      have htrue : block.result = .ok true :=
        hends.elim (fun ⟨e, he⟩ => by simp [he] at hblock) And.right
      rw [hresult, hblock] at h
      cases h
      simp [Report.cons, Report.empty, hdescribes.isMatch_iff.1 htrue]
  failure e := by
    cases hblock : block.result <;> simp [hresult, hblock, Except.map]

/-- A pass that goes on behind its first attempt has one more block than the rest of it. -/
lemma Protocol.cons {block : Block} {verdict : Bool} {later : Outcome Report} {blocks : List Block}
    (hdescribes : block.Describes engine book (engine.attempt block.rule block.before book))
    (hverdict : block.result = .ok verdict) (hcut : (verdict && cut) = false)
    (hlater : engine.Protocol cut rest block.after
      (engine.attempt block.rule block.before book).book later blocks) :
    engine.Protocol cut (block.rule :: rest) block.before book
      { later.after (engine.attempt block.rule block.before book).notices with
        result := later.result.map (Report.cons block.rule verdict) }
      (block :: blocks) where
  trace := by simp [Outcome.after, hdescribes.trace, hlater.trace]
  sequence := .cons hdescribes hlater.sequence
  order := by simpa using hlater.order
  goesOn other hother := by
    cases blocks with
    | nil => simp at hother
    | cons next more =>
      rw [List.dropLast_cons_cons] at hother
      rcases List.mem_cons.1 hother with rfl | hother
      · cases verdict <;> simp_all
      · exact hlater.goesOn other hother
  endsEarly h := by
    have hfalse : ¬ ((∃ e, block.result = .error e) ∨ cut = true ∧ block.result = .ok true) := by
      cases verdict <;> simp_all
    rw [exists_last_cons hfalse]
    exact hlater.endsEarly fun heq => h (by rw [List.map_cons, heq])
  success report h := by
    cases hresult : later.result with
    | error e => simp [hresult, Except.map] at h
    | ok laterReport =>
      rw [hresult] at h
      cases h
      obtain ⟨hattempted, hmatched⟩ := hlater.success laterReport hresult
      have hmatch : block.isMatch = verdict :=
        Bool.eq_iff_iff.2 (hdescribes.isMatch_iff.symm.trans (by simp [hverdict]))
      cases verdict <;> simp [Report.cons, hattempted, hmatched, hmatch]
  failure e := by
    rw [exists_last_cons (by simp [hverdict]), ← hlater.failure]
    cases later.result <;> simp [Except.map]

/-- **Every pass over some rules follows the protocol**, if their conditions write speculatively and
their actions are tidy.

**Proof sketch.** Induction on the rules.  Every attempt looks like a block, and no transaction is
open at the end of the block, so that the rest of the pass begins like the whole. -/
theorem exists_protocol {rules : List Rule}
    (hspeculative : ∀ rule ∈ rules, ∀ condition ∈ rule.conditions, condition.Speculative)
    (htidy : ∀ rule ∈ rules, ∀ action ∈ rule.actions, action.Tidy engine.handlers)
    (hclosed : knowledge.inTransaction = false) (book : RuleBook) :
    ∃ blocks, engine.Protocol cut rules knowledge book
      (engine.attemptAll cut rules knowledge book) blocks := by
  induction rules generalizing knowledge book with
  | nil => exact ⟨[], .nil engine cut knowledge book⟩
  | cons rule rest ih =>
    obtain ⟨hspeculative, hspeculativeRest⟩ := List.forall_mem_cons.1 hspeculative
    obtain ⟨htidy, htidyRest⟩ := List.forall_mem_cons.1 htidy
    obtain ⟨block, rfl, rfl, hdescribes⟩ := exists_describes hspeculative htidy hclosed book
    have ⟨blocks, hlater⟩ := ih hspeculativeRest htidyRest hdescribes.closed.2.2
      (engine.attempt block.rule block.before book).book
    have hresult := hdescribes.result
    unfold attemptAll
    dsimp only
    split
    · next e he =>
      have hblock : block.result = .error e := hresult.symm.trans he
      refine ⟨_, .single hdescribes rfl rfl rfl ?_ (.inl ⟨e, hblock⟩)⟩
      simp [hblock, Except.map]
    · next verdict hverdict =>
      have hblock : block.result = .ok verdict := hresult.symm.trans hverdict
      split
      · next hcut =>
        obtain ⟨rfl, hcut⟩ := Bool.and_eq_true_iff.1 hcut
        refine ⟨_, .single hdescribes rfl rfl rfl ?_ (.inr ⟨hcut, hblock⟩)⟩
        simp [hblock, Except.map]
      · next hcut =>
        rw [hdescribes.after]
        exact ⟨_, .cons hdescribes hblock (Bool.eq_false_iff.2 hcut) hlater⟩

end Engine

/-! ## Runs of a dispatcher -/

namespace Dispatcher

/-- **Every run of a dispatcher follows the protocol**, if the conditions of its rules write
speculatively and their actions are tidy. -/
theorem exists_protocol_run {dispatcher : Dispatcher}
    (hspeculative : ∀ rule ∈ dispatcher.book.rules,
      ∀ condition ∈ rule.conditions, condition.Speculative)
    (htidy : ∀ rule ∈ dispatcher.book.rules,
      ∀ action ∈ rule.actions, action.Tidy dispatcher.engine.handlers)
    {knowledge : Knowledge} (hclosed : knowledge.inTransaction = false) :
    ∃ blocks, dispatcher.engine.Protocol (dispatcher.mode = .first) dispatcher.book.rules knowledge
      dispatcher.book (dispatcher.run knowledge) blocks :=
  Engine.exists_protocol hspeculative htidy hclosed dispatcher.book

/-- A rule for the staff, which says hello. -/
def lobbyRule (name : String) : Rule :=
  ⟨name, none, 0, [Condition.staffTree], [.bind ["visitor"], .log "hello"]⟩

/-- A rule without conditions, one that a veto refuses, one that matches, one that needs the method
of the request, and one behind it. -/
def lobby : Dispatcher where
  book := ⟨[⟨"bell", none, 0, [], []⟩, lobbyRule "closed", lobbyRule "open",
    ⟨"desk", none, 0, [.request ⟨["GET"], none⟩], []⟩, lobbyRule "back"], by decide⟩
  engine := ⟨.empty, ⟨["guard", "camera"],
    [fun _ _ => true, fun rule _ => rule.name != "closed", fun _ _ => true]⟩, true⟩
  mode := .all

/-- A run without the method ends with the rule that needs it, after four blocks. -/
theorem exists_protocol_run_lobby :
    let knowledge := Condition.staffKnowledge.rollback
    (∀ rule ∈ lobby.book.rules, ∀ condition ∈ rule.conditions, condition.Speculative) ∧
    (∀ rule ∈ lobby.book.rules, ∀ action ∈ rule.actions, action.Tidy lobby.engine.handlers) ∧
    knowledge.inTransaction = false ∧
    (lobby.run knowledge).result = .error (.missingFact Knowledge.methodFact) ∧
    ∃ blocks, lobby.engine.Protocol false lobby.book.rules knowledge lobby.book
      (lobby.run knowledge) blocks := by
  intro knowledge
  have hspeculative : ∀ rule ∈ lobby.book.rules,
      ∀ condition ∈ rule.conditions, condition.Speculative := by
    simp [lobby, lobbyRule, Condition.registered_staffTree.native.speculative,
      (Condition.Native.request _).speculative]
  have htidy : ∀ rule ∈ lobby.book.rules,
      ∀ action ∈ rule.actions, action.Tidy lobby.engine.handlers := by
    simp [lobby, lobbyRule, RuleAction.tidy_bind, RuleAction.tidy_log]
  have hresult : (lobby.run knowledge).result =
      .error (.missingFact Knowledge.methodFact) := by rfl
  exact ⟨hspeculative, htidy, rfl, hresult, exists_protocol_run hspeculative htidy rfl⟩

end Dispatcher

end RequestRouting
