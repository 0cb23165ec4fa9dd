import RequestRouting.Proofs.Attempts
import RequestRouting.Proofs.Rule.Block

/-!
# Rules that do not match can be left out

An attempt at a rule that does not match restores the knowledge exactly.  So a run makes the same
matches and ends with the same knowledge if such rules are left out, or more of them are put in,
however much its other rules write; as long as nothing else looks at the list of rules, which the
handlers of actions could do.

## Main definitions

* `Handlers.Blind` — no handler looks at the rules that there are.
* `Rule.Orderly` — the conditions of a rule write speculatively, and its actions are tidy.
* `Outcome.matched` — the matches of a pass.
* `Engine.LeavesOut` — the rules of a pass, except for some that it passes over.
* `Dispatcher.withBook`, `RuleBook.filter` — the dispatcher with other rules, and some rules of a
  book.
* `Dispatcher.ComesTo` — the matches of a run, and the knowledge at its end.

## Main results

* `Engine.LeavesOut.same_matches` — leaving out what is passed over changes neither the matches of a
  pass nor the knowledge at its end.
* `Dispatcher.comesTo_of_unmatched` — rules that do not match can be left out of a dispatcher, and
  put in.
-/

set_option autoImplicit false

namespace RequestRouting

/-! ## Handlers that do not look at the rules -/

/-- What a handler answers and what it writes do not depend on the rules that there are.  It may add
rules, if it pays no attention to what becomes of them. -/
def Handlers.Blind (handlers : Handlers) : Prop :=
  ∀ name handler, handlers.table.get? name = some handler →
    ∀ references knowledge book other,
      ((handler references knowledge).run book).1 =
        ((handler references knowledge).run other).1 ∧
      ((handler references knowledge).run book).2.1 =
        ((handler references knowledge).run other).2.1

section Blind

variable {handlers : Handlers} {engine : Engine}

/-- Where no handler looks at the rules, no action depends on them. -/
lemma Handlers.Blind.perform (h : handlers.Blind) (rule : String) (references : List Json)
    (action : RuleAction) (knowledge : Knowledge) (book other : RuleBook) :
    (action.perform handlers rule references knowledge book).outcome =
      (action.perform handlers rule references knowledge other).outcome ∧
    (action.perform handlers rule references knowledge book).knowledge =
      (action.perform handlers rule references knowledge other).knowledge := by
  have hcall (name : String) :
      (handlers.call name references knowledge book).outcome =
        (handlers.call name references knowledge other).outcome ∧
      (handlers.call name references knowledge book).knowledge =
        (handlers.call name references knowledge other).knowledge := by
    unfold Handlers.call
    split
    · exact ⟨rfl, rfl⟩
    · next handler hhandler => exact h name handler hhandler references knowledge book other
  cases action with
  | handler name => exact hcall name
  | code name => exact hcall name
  | bind names => exact ⟨rfl, rfl⟩
  | set values => exact ⟨rfl, rfl⟩
  | log message => exact ⟨rfl, rfl⟩

/-- Nor do actions one after another. -/
lemma Handlers.Blind.performAll (h : handlers.Blind) (rule : String) (references : List Json)
    (actions : List RuleAction) (knowledge : Knowledge) (book other : RuleBook) :
    (performAll handlers rule references actions knowledge book).outcome =
      (performAll handlers rule references actions knowledge other).outcome ∧
    (performAll handlers rule references actions knowledge book).knowledge =
      (performAll handlers rule references actions knowledge other).knowledge := by
  induction actions generalizing knowledge book other with
  | nil => exact ⟨rfl, rfl⟩
  | cons action rest ih =>
    obtain ⟨houtcome, hknowledge⟩ := h.perform rule references action knowledge book other
    simp only [RequestRouting.performAll, houtcome, hknowledge]
    split
    · exact ⟨houtcome, hknowledge⟩
    · exact ih _ _ _

/-- Nor does an attempt at a rule. -/
lemma Handlers.Blind.attempt (h : engine.handlers.Blind) (rule : Rule) (knowledge : Knowledge)
    (book other : RuleBook) :
    (engine.attempt rule knowledge book).result = (engine.attempt rule knowledge other).result ∧
    (engine.attempt rule knowledge book).knowledge =
      (engine.attempt rule knowledge other).knowledge := by
  have hfire (staged : Knowledge) :
      (rule.fire engine staged book).result = (rule.fire engine staged other).result ∧
      (rule.fire engine staged book).knowledge = (rule.fire engine staged other).knowledge := by
    obtain ⟨houtcome, hknowledge⟩ := h.performAll rule.name staged.commit.1 rule.actions
      (staged.commit.2.extractFacts engine.clearExtractors) book other
    simp only [Rule.fire_eq, Rule.carryOut, houtcome, hknowledge]
    split <;> exact ⟨rfl, rfl⟩
  simp only [Engine.attempt, Rule.attempt]
  split
  · exact ⟨rfl, rfl⟩
  · split
    · exact ⟨rfl, rfl⟩
    · exact ⟨rfl, rfl⟩
    · split
      · exact hfire _
      · exact ⟨rfl, rfl⟩

end Blind

/-! ## The knowledge after an attempt -/

/-- The conditions of a rule write speculatively, and its actions leave no transaction open. -/
structure Rule.Orderly (handlers : Handlers) (rule : Rule) : Prop where
  speculative : ∀ condition ∈ rule.conditions, condition.Speculative
  tidy : ∀ action ∈ rule.actions, action.Tidy handlers

namespace Engine

variable {engine : Engine} {rule : Rule} {knowledge : Knowledge} {book : RuleBook}

/-- An attempt at an orderly rule leaves no transaction open. -/
lemma inTransaction_attempt (hrule : rule.Orderly engine.handlers)
    (hclosed : knowledge.inTransaction = false) (book : RuleBook) :
    (engine.attempt rule knowledge book).knowledge.inTransaction = false := by
  obtain ⟨block, rfl, rfl, hdescribes⟩ :=
    exists_describes hrule.speculative hrule.tidy hclosed book
  rw [hdescribes.after]
  exact hdescribes.closed.2.2

end Engine

/-! ## Passes with and without some rules -/

/-- The matches of a pass, if it does not fail. -/
def Outcome.matched (outcome : Outcome Report) : Except RuleError (List Rule) :=
  outcome.result.map Report.matchedRules

/-- The matches of a pass that goes on behind its first attempt. -/
lemma Outcome.matched_followedBy (attempt : Outcome Bool) (rule : Rule) (verdict : Bool)
    (later : Outcome Report) :
    (attempt.followedBy rule verdict later).matched =
      later.matched.map fun rules => if verdict then rule :: rules else rules := by
  unfold followedBy matched
  cases later.result <;> rfl

/-- The rules of a pass from some knowledge and some rule book on, except for some of those that are
passed over without a change.  Behind the end of the pass there may be any rules. -/
inductive Engine.LeavesOut (engine : Engine) (cut : Bool) :
    Knowledge → RuleBook → List Rule → List Rule → Prop where
  | nil (knowledge : Knowledge) (book : RuleBook) : LeavesOut engine cut knowledge book [] []
  | skip {knowledge : Knowledge} {book : RuleBook} {rule : Rule} {rules kept : List Rule}
      (hresult : (engine.attempt rule knowledge book).result = .ok false)
      (hknowledge : (engine.attempt rule knowledge book).knowledge = knowledge)
      (hrest : LeavesOut engine cut knowledge (engine.attempt rule knowledge book).book rules
        kept) :
    LeavesOut engine cut knowledge book (rule :: rules) kept
  | keep {knowledge : Knowledge} {book : RuleBook} {rule : Rule} {rules kept : List Rule}
      (hgoesOn : goesOn cut (engine.attempt rule knowledge book).result = true)
      (hrest : LeavesOut engine cut (engine.attempt rule knowledge book).knowledge
        (engine.attempt rule knowledge book).book rules kept) :
    LeavesOut engine cut knowledge book (rule :: rules) (rule :: kept)
  | last {knowledge : Knowledge} {book : RuleBook} {rule : Rule}
      (hends : goesOn cut (engine.attempt rule knowledge book).result = false)
      (rules kept : List Rule) :
    LeavesOut engine cut knowledge book (rule :: rules) (rule :: kept)

namespace Engine.LeavesOut

variable {engine : Engine} {cut : Bool} {knowledge : Knowledge} {book : RuleBook}
  {rules kept : List Rule}

/-- **Leaving out rules that are passed over changes neither the matches of a pass nor the knowledge
at its end**, if no handler looks at the rules.

**Proof sketch.** Induction on what is left out.  A rule that is passed over adds no match and
restores the knowledge; and attempts at a rule that is kept do the same in both passes, since they
start from the same knowledge. -/
theorem same_matches (hblind : engine.handlers.Blind)
    (h : engine.LeavesOut cut knowledge book rules kept) (other : RuleBook) :
    (engine.attemptAll cut kept knowledge other).matched =
      (engine.attemptAll cut rules knowledge book).matched ∧
    (engine.attemptAll cut kept knowledge other).knowledge =
      (engine.attemptAll cut rules knowledge book).knowledge := by
  induction h generalizing other with
  | nil knowledge book => exact ⟨rfl, rfl⟩
  | @skip knowledge book rule rules kept hresult hknowledge _ ih =>
    obtain ⟨hmatched, hend⟩ := ih other
    rw [attemptAll_cons_of_goesOn hresult rfl, Outcome.matched_followedBy, hknowledge, ← hmatched]
    refine ⟨?_, hend⟩
    cases (engine.attemptAll cut kept knowledge other).matched <;> rfl
  | @keep knowledge book rule rules kept hgoesOn _ ih =>
    obtain ⟨hresult, hknowledge⟩ := hblind.attempt rule knowledge other book
    obtain ⟨verdict, hverdict, hcut⟩ := goesOn_eq_true.1 hgoesOn
    obtain ⟨hmatched, hend⟩ := ih (engine.attempt rule knowledge other).book
    rw [attemptAll_cons_of_goesOn hverdict hcut,
      attemptAll_cons_of_goesOn (hresult.trans hverdict) hcut, Outcome.matched_followedBy,
      Outcome.matched_followedBy, hknowledge, hmatched]
    exact ⟨rfl, hend⟩
  | @last knowledge book rule hends rules kept =>
    obtain ⟨hresult, hknowledge⟩ := hblind.attempt rule knowledge other book
    rw [attemptAll_cons_of_ends hends, attemptAll_cons_of_ends (hresult ▸ hends)]
    simp [Outcome.matched, hresult, hknowledge]

/-- It is possible to leave nothing out. -/
lemma refl (engine : Engine) (cut : Bool) (knowledge : Knowledge) (book : RuleBook)
    (rules : List Rule) : engine.LeavesOut cut knowledge book rules rules := by
  induction rules generalizing knowledge book with
  | nil => exact .nil knowledge book
  | cons rule rest ih =>
    cases hgoesOn : goesOn cut (engine.attempt rule knowledge book).result with
    | false => exact .last hgoesOn rest rest
    | true => exact .keep hgoesOn (ih _ _)

/-- The matches of a pass are what is left of its rules if all that are passed over, and those
behind its end, are left out. -/
lemma matchedRules (horderly : ∀ rule ∈ rules, rule.Orderly engine.handlers)
    (hclosed : knowledge.inTransaction = false) {report : Report}
    (h : (engine.attemptAll cut rules knowledge book).result = .ok report) :
    engine.LeavesOut cut knowledge book rules report.matchedRules := by
  induction rules generalizing knowledge book report with
  | nil =>
    cases h
    exact .nil knowledge book
  | cons rule rest ih =>
    obtain ⟨hrule, hothers⟩ := List.forall_mem_cons.1 horderly
    have hnext := inTransaction_attempt hrule hclosed book
    cases hgoesOn : goesOn cut (engine.attempt rule knowledge book).result with
    | false =>
      cases hresult : (engine.attempt rule knowledge book).result with
      | error e =>
        rw [attemptAll_cons_of_error hresult] at h
        cases h
      | ok verdict =>
        obtain ⟨rfl, rfl⟩ := eq_true_of_goesOn_eq_false (hresult ▸ hgoesOn)
        rw [attemptAll_cons_of_match hresult] at h
        cases h
        exact .last hgoesOn rest []
    | true =>
      obtain ⟨verdict, hverdict, hcut⟩ := goesOn_eq_true.1 hgoesOn
      rw [attemptAll_cons_of_goesOn hverdict hcut] at h
      obtain ⟨later, hlater, rfl⟩ := Outcome.result_followedBy h
      have hrest := ih hothers hnext hlater
      cases verdict with
      | true => exact .keep hgoesOn hrest
      | false =>
        have hknowledge := knowledge_attempt_of_unmatched hrule.speculative hclosed hverdict
        rw [hknowledge] at hrest
        exact .skip hverdict hknowledge hrest

/-- Of the rules of a pass those can be left out whose attempts do not match. -/
lemma filter (horderly : ∀ rule ∈ rules, rule.Orderly engine.handlers)
    (hclosed : knowledge.inTransaction = false) {keep : Rule → Bool}
    (hkeep : ∀ attempt ∈ engine.attempts cut rules knowledge book, keep attempt.rule = false →
      attempt.outcome.result = .ok false) :
    engine.LeavesOut cut knowledge book rules (rules.filter keep) := by
  induction rules generalizing knowledge book with
  | nil => exact .nil knowledge book
  | cons rule rest ih =>
    obtain ⟨hrule, hothers⟩ := List.forall_mem_cons.1 horderly
    have hnext := inTransaction_attempt hrule hclosed book
    cases hgoesOn : goesOn cut (engine.attempt rule knowledge book).result with
    | false =>
      rw [attempts_cons_of_ends hgoesOn, List.forall_mem_singleton] at hkeep
      have hkept : keep rule = true := by
        by_contra hdropped
        rw [hkeep (Bool.eq_false_iff.2 hdropped), goesOn_ok_false] at hgoesOn
        cases hgoesOn
      rw [List.filter_cons_of_pos hkept]
      exact .last hgoesOn rest _
    | true =>
      rw [attempts_cons_of_goesOn hgoesOn] at hkeep
      obtain ⟨hfirst, hkeep⟩ := List.forall_mem_cons.1 hkeep
      have hrest := ih hothers hnext hkeep
      cases hkept : keep rule with
      | true =>
        rw [List.filter_cons_of_pos hkept]
        exact .keep hgoesOn hrest
      | false =>
        have hknowledge := knowledge_attempt_of_unmatched hrule.speculative hclosed (hfirst hkept)
        rw [List.filter_cons_of_neg (by simp [hkept])]
        rw [hknowledge] at hrest
        exact .skip (hfirst hkept) hknowledge hrest

/-- A rule can be left out that does not match where the pass over the rules before it ends, unless
that pass is the whole one. -/
lemma insert {before later : List Rule} {new : Rule}
    (horderly : ∀ rule ∈ before, rule.Orderly engine.handlers)
    (hnew : ∀ condition ∈ new.conditions, condition.Speculative)
    (hclosed : knowledge.inTransaction = false)
    (h : ∀ front, (engine.attemptAll cut before knowledge book).result = .ok front →
      (cut = true → front.matchedRules = []) →
      (engine.attempt new (engine.attemptAll cut before knowledge book).knowledge
        (engine.attemptAll cut before knowledge book).book).result = .ok false) :
    engine.LeavesOut cut knowledge book (before ++ new :: later) (before ++ later) := by
  induction before generalizing knowledge book with
  | nil =>
    have hresult : (engine.attempt new knowledge book).result = .ok false :=
      h .empty rfl fun _ => rfl
    exact .skip hresult (knowledge_attempt_of_unmatched hnew hclosed hresult) (refl ..)
  | cons rule rest ih =>
    obtain ⟨hrule, hothers⟩ := List.forall_mem_cons.1 horderly
    have hnext := inTransaction_attempt hrule hclosed book
    cases hgoesOn : goesOn cut (engine.attempt rule knowledge book).result with
    | false => exact .last hgoesOn _ _
    | true =>
      obtain ⟨verdict, hverdict, hcut⟩ := goesOn_eq_true.1 hgoesOn
      refine .keep hgoesOn (ih hothers hnext fun front hfront hnone => ?_)
      rw [attemptAll_cons_of_goesOn hverdict hcut] at h
      refine h (front.cons rule verdict) ?_ fun hcutting => ?_
      · simp only [Outcome.followedBy, hfront, Except.map]
      · obtain rfl : verdict = false := by simpa [hcutting] using hcut
        exact hnone hcutting

end Engine.LeavesOut

/-! ## Runs of a dispatcher -/

/-- Some rules of a book. -/
def RuleBook.filter (book : RuleBook) (keep : Rule → Bool) : RuleBook where
  rules := book.rules.filter keep
  distinct := book.distinct.sublist (List.filter_sublist.map Rule.name)

namespace Dispatcher

/-- The dispatcher with other rules. -/
def withBook (dispatcher : Dispatcher) (book : RuleBook) : Dispatcher :=
  { dispatcher with book := book }

/-- A run of a dispatcher makes some matches, and ends with some knowledge. -/
structure ComesTo (dispatcher : Dispatcher) (knowledge : Knowledge) (matched : List Rule)
    (final : Knowledge) : Prop where
  report : ∃ report, (dispatcher.run knowledge).result = .ok report ∧ report.matchedRules = matched
  final : (dispatcher.run knowledge).knowledge = final

/-- The matches of a run, if it is known that there are some. -/
lemma ComesTo.of_matched {dispatcher : Dispatcher} {knowledge final : Knowledge}
    {matched : List Rule} (hmatched : (dispatcher.run knowledge).matched = .ok matched)
    (hfinal : (dispatcher.run knowledge).knowledge = final) :
    dispatcher.ComesTo knowledge matched final := by
  refine ⟨?_, hfinal⟩
  unfold Outcome.matched at hmatched
  cases hresult : (dispatcher.run knowledge).result with
  | error e => simp [hresult, Except.map] at hmatched
  | ok report => exact ⟨report, rfl, by simpa [hresult, Except.map] using hmatched⟩

/-- **Rules that do not match can be left out, and put in.**  Let a run of a dispatcher succeed,
which begins outside of transactions, and let no handler look at the rules.  Any rules whose
attempts in the run do not match can be left out; a rule that does not match where the run over the
rules before it ends, if it gets there at all, can be put in; and only the rules that match can be
kept.  In each case the run succeeds as well, makes the same matches, and ends with the same
knowledge.

**Proof sketch.** In each case one of the lists of rules is the other one, except for rules that are
passed over and for those behind the end of the run. -/
theorem comesTo_of_unmatched {dispatcher : Dispatcher} {knowledge : Knowledge} {report : Report}
    (horderly : ∀ rule ∈ dispatcher.book.rules, rule.Orderly dispatcher.engine.handlers)
    (hblind : dispatcher.engine.handlers.Blind) (hclosed : knowledge.inTransaction = false)
    (hreport : (dispatcher.run knowledge).result = .ok report) :
    let engine := dispatcher.engine
    let cut : Bool := dispatcher.mode = .first
    let Same (book : RuleBook) : Prop := (dispatcher.withBook book).ComesTo knowledge
      report.matchedRules (dispatcher.run knowledge).knowledge
    (∀ keep : Rule → Bool,
      (∀ attempt ∈ engine.attempts cut dispatcher.book.rules knowledge dispatcher.book,
        keep attempt.rule = false → attempt.outcome.result = .ok false) →
      Same (dispatcher.book.filter keep)) ∧
    (∀ before new later, dispatcher.book.rules = before ++ later →
      (∀ condition ∈ new.conditions, condition.Speculative) →
      (∀ reached front, engine.attemptAll cut before knowledge dispatcher.book = reached →
        reached.result = .ok front → (cut = true → front.matchedRules = []) →
        (engine.attempt new reached.knowledge reached.book).result = .ok false) →
      ∀ book : RuleBook, book.rules = before ++ new :: later → Same book) ∧
    ∃ book : RuleBook, book.rules = report.matchedRules ∧ Same book := by
  intro engine cut Same
  have hmatched : (dispatcher.run knowledge).matched = .ok report.matchedRules := by
    rw [Outcome.matched, hreport]
    rfl
  -- Whatever leaves rules out of the book comes to the same as the run.
  have hkept (book : RuleBook)
      (h : engine.LeavesOut cut knowledge dispatcher.book dispatcher.book.rules book.rules) :
      Same book := by
    obtain ⟨hsame, hfinal⟩ := h.same_matches hblind book
    exact .of_matched (hsame.trans hmatched) hfinal
  refine ⟨fun keep hkeep => ?_, fun before new later hsplit hnew hpassed book hbook => ?_, ?_⟩
  · exact hkept _ (.filter horderly hclosed hkeep)
  · have hbefore : ∀ rule ∈ before, rule.Orderly engine.handlers := fun rule hrule =>
      horderly rule (hsplit ▸ List.mem_append_left later hrule)
    have hinsert : engine.LeavesOut cut knowledge dispatcher.book book.rules
        dispatcher.book.rules := by
      rw [hsplit, hbook]
      exact .insert hbefore hnew hclosed fun front hfront => hpassed _ front rfl hfront
    obtain ⟨hsame, hfinal⟩ := hinsert.same_matches hblind dispatcher.book
    -- The book with the new rule in it may be the one that the run begins with.
    obtain ⟨hother, hotherFinal⟩ := (Engine.LeavesOut.refl engine cut knowledge dispatcher.book
      book.rules).same_matches hblind book
    exact .of_matched (hother.trans (hsame.symm.trans hmatched)) (hotherFinal.trans hfinal.symm)
  · have hsublist := Engine.matchedRules_sublist hreport
    refine ⟨⟨report.matchedRules, dispatcher.book.distinct.sublist (hsublist.map Rule.name)⟩, rfl,
      hkept _ ?_⟩
    exact .matchedRules horderly hclosed hreport

/-! ## A dispatcher whose handler adds rules -/

/-- A handler that adds a rule for the next time, whether there is room for it or not, and writes
the values it gets. -/
def usher : Handler := fun references knowledge =>
  .addRule (greetRule "next") fun _ =>
    .finish (knowledge.setResult "greeted" (.array references) false) (.ok ())

/-- The rules of the gate, dispatched over all of them with a handler that adds rules. -/
def hall : Dispatcher :=
  { gate with
    engine := { gate.engine with handlers := Handlers.empty.register "greet" usher }
    mode := .all }

/-- A rule for strangers. -/
def strangerRule : Rule := ⟨"stranger", none, 0, [.bool .not [Condition.staffTree]], []⟩

/-- The only handler of the hall. -/
lemma eq_usher {name : String} {handler : Handler}
    (h : hall.engine.handlers.table.get? name = some handler) : handler = usher := by
  have hmem : (name, handler) ∈ [("greet", usher)] := Dict.mem_of_get?_ofList h
  exact (Prod.mk.inj (List.mem_singleton.1 hmem)).2

/-- The handler of the hall does not look at the rules. -/
lemma blind_hall : hall.engine.handlers.Blind := by
  intro name handler h references knowledge book other
  obtain rfl := eq_usher h
  have hrun (book : RuleBook) : ∃ later, (usher references knowledge).run book =
      (.ok (), knowledge.setResult "greeted" (.array references) false, later) := by
    unfold usher Script.run
    split <;> exact ⟨_, rfl⟩
  obtain ⟨later, hlater⟩ := hrun book
  obtain ⟨later', hlater'⟩ := hrun other
  simp [hlater, hlater']

/-- The rules of the hall are orderly. -/
lemma orderly_hall : ∀ rule ∈ hall.book.rules, rule.Orderly hall.engine.handlers := by
  have hgreet (name : String) : (greetRule name).Orderly hall.engine.handlers := by
    refine ⟨List.forall_mem_singleton.2 Condition.registered_staffTree.native.speculative,
      List.forall_mem_singleton.2 fun rule references knowledge book hclosed => ?_⟩
    change (hall.engine.handlers.call "greet" references knowledge book).knowledge.inTransaction = _
    change ((usher references knowledge).run book).2.1.inTransaction = false
    unfold usher Script.run
    split <;> exact hclosed
  have hbell : (⟨"bell", none, 0, [], []⟩ : Rule).Orderly hall.engine.handlers :=
    ⟨List.forall_mem_nil _, List.forall_mem_nil _⟩
  refine List.forall_mem_cons.2 ⟨hbell, List.forall_mem_cons.2 ⟨hgreet _, ?_⟩⟩
  exact List.forall_mem_cons.2 ⟨hgreet _, List.forall_mem_singleton.2 (hgreet _)⟩

/-- The refused rule is left out, a rule for strangers is put in behind the first match, or only the
matches are kept. -/
theorem comesTo_of_unmatched_hall :
    let final := (hall.run visit).knowledge
    let longer : RuleBook := ⟨[⟨"bell", none, 0, [], []⟩, greetRule "closed", greetRule "open",
      strangerRule, greetRule "back"], by decide⟩
    (∀ rule ∈ hall.book.rules, rule.Orderly hall.engine.handlers) ∧
    hall.engine.handlers.Blind ∧ visit.inTransaction = false ∧
    (hall.run visit).result = .ok ⟨[greetRule "open", greetRule "back"], 4⟩ ∧
    final.result? "greeted" = some (.array []) ∧
    (hall.withBook (hall.book.filter fun rule => rule.name != "closed")).ComesTo visit
      [greetRule "open", greetRule "back"] final ∧
    (hall.withBook longer).ComesTo visit [greetRule "open", greetRule "back"] final ∧
    ∃ book : RuleBook, book.rules = [greetRule "open", greetRule "back"] ∧
      (hall.withBook book).ComesTo visit [greetRule "open", greetRule "back"] final := by
  intro final longer
  have hresult : (hall.run visit).result =
      .ok ⟨[greetRule "open", greetRule "back"], 4⟩ := rfl
  obtain ⟨hfilter, hinsert, hmatches⟩ :=
    comesTo_of_unmatched orderly_hall blind_hall rfl hresult
  refine ⟨orderly_hall, blind_hall, rfl, hresult, rfl, hfilter _ ?_, ?_, hmatches⟩
  · have hkept (name : String) (h : (name != "closed") = true) (outcome : Outcome Bool) :
        (name != "closed") = false → outcome.result = .ok false := by simp [h]
    refine List.forall_mem_cons.2 ⟨hkept "bell" rfl _, List.forall_mem_cons.2 ⟨fun _ => rfl, ?_⟩⟩
    exact List.forall_mem_cons.2 ⟨hkept "open" rfl _, List.forall_mem_singleton.2
      (hkept "back" rfl _)⟩
  · refine hinsert [_, _, _] strangerRule [_] rfl ?_ ?_ longer rfl
    · exact List.forall_mem_singleton.2 (Condition.speculative_bool .not
        (List.forall_mem_singleton.2 Condition.registered_staffTree.native.speculative))
    · rintro reached front rfl hfront hnone
      rfl

end Dispatcher

end RequestRouting
