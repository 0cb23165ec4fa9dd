import RequestRouting.Dispatch
import RequestRouting.Proofs.Condition.Staging

/-!
# The modes of a dispatch agree

A dispatcher goes over its rules in several ways: up to the first match, with or without a report,
and to the end.  They do the same for as long as they go: a pass up to the first match is the pass
over all rules, cut behind the rule that matches.

## Main definitions

* `Outcome.Agrees` — two passes take the same course, and their answers are related.
* `Handlers.Detached` — no handler adds rules.
* `Dispatcher.withMode`, `Dispatcher.restrict` — the dispatcher in another mode, and with its first
  rules only.

## Main results

* `Engine.agrees_firstMatch` — with or without a report, the first match is the same.
* `Engine.cut_cases` — a pass up to the first match is a pass over all rules, or over those up to
  the match.
* `Dispatcher.modes_agree` — both for the runs of a dispatcher.
-/

set_option autoImplicit false

namespace RequestRouting

/-! ## Courses of passes -/

/-- Two passes take the same course: they end with the same knowledge, the same rules and the same
trace, they fail with the same errors, and otherwise their answers are related. -/
structure Outcome.Agrees {α β : Type} (related : α → β → Prop) (first : Outcome α)
    (second : Outcome β) : Prop where
  knowledge : first.knowledge = second.knowledge
  book : first.book = second.book
  notices : first.notices = second.notices
  error : ∀ e, first.result = .error e ↔ second.result = .error e
  answer : ∀ a b, first.result = .ok a → second.result = .ok b → related a b

/-- What becomes of a pass whose first attempt, at `rule`, is followed by the pass `later`. -/
def Outcome.followedBy (attempt : Outcome Bool) (rule : Rule) (verdict : Bool)
    (later : Outcome Report) : Outcome Report :=
  { later.after attempt.notices with result := later.result.map (Report.cons rule verdict) }

/-- Where an attempt is followed by others, the report is that of the others with one attempt
more. -/
lemma Outcome.result_followedBy {attempt : Outcome Bool} {rule : Rule} {verdict : Bool}
    {later : Outcome Report} {report : Report}
    (h : (attempt.followedBy rule verdict later).result = .ok report) :
    ∃ rest, later.result = .ok rest ∧ report = rest.cons rule verdict := by
  unfold followedBy at h
  cases hlater : later.result with
  | error e => simp [hlater, Except.map] at h
  | ok rest =>
    simp only [hlater, Except.map, Except.ok.injEq] at h
    exact ⟨rest, rfl, h.symm⟩

/-- A report lists the rule of an answer, if it has one, and no other. -/
def Report.Lists (answer : Option Rule) (report : Report) : Prop :=
  report.matchedRules = answer.toList

namespace Engine

variable {engine : Engine} {cut : Bool} {rule : Rule} {knowledge : Knowledge} {book : RuleBook}

/-! ## One attempt of a pass -/

/-- A pass ends with an attempt that fails. -/
lemma attemptAll_cons_of_error {e : RuleError}
    (h : (engine.attempt rule knowledge book).result = .error e) (rest : List Rule) :
    engine.attemptAll cut (rule :: rest) knowledge book =
      { engine.attempt rule knowledge book with result := .error e } := by
  simp only [attemptAll, h]

/-- A pass that is cut ends with an attempt that matches. -/
lemma attemptAll_cons_of_match (h : (engine.attempt rule knowledge book).result = .ok true)
    (rest : List Rule) :
    engine.attemptAll true (rule :: rest) knowledge book =
      { engine.attempt rule knowledge book with result := .ok ⟨[rule], 1⟩ } := by
  simp [attemptAll, h, Report.cons, Report.empty]

/-- Any other attempt is followed by the rest of the pass. -/
lemma attemptAll_cons_of_goesOn {verdict : Bool}
    (h : (engine.attempt rule knowledge book).result = .ok verdict)
    (hcut : (verdict && cut) = false) (rest : List Rule) :
    engine.attemptAll cut (rule :: rest) knowledge book =
      (engine.attempt rule knowledge book).followedBy rule verdict
        (engine.attemptAll cut rest (engine.attempt rule knowledge book).knowledge
          (engine.attempt rule knowledge book).book) := by
  simp [attemptAll, h, hcut, Outcome.followedBy]

/-! ## Passes up to the first match -/

/-- **With or without a report, the first match is the same.**

**Proof sketch.** Induction on the rules; both passes end with an attempt that fails or matches, and
go on behind any other. -/
theorem agrees_firstMatch (engine : Engine) (rules : List Rule) (knowledge : Knowledge)
    (book : RuleBook) :
    (engine.firstMatch rules knowledge book).Agrees Report.Lists
      (engine.attemptAll true rules knowledge book) := by
  induction rules generalizing knowledge book with
  | nil =>
    refine ⟨rfl, rfl, rfl, fun e => by simp [firstMatch, attemptAll], fun answer report h h' => ?_⟩
    cases h
    cases h'
    rfl
  | cons rule rest ih =>
    unfold firstMatch
    dsimp only
    split
    · next e he =>
      rw [attemptAll_cons_of_error he]
      exact ⟨rfl, rfl, rfl, fun e => by simp, fun answer report h => by cases h⟩
    · next hmatch =>
      rw [attemptAll_cons_of_match hmatch]
      refine ⟨rfl, rfl, rfl, fun e => by simp, fun answer report h h' => ?_⟩
      cases h
      cases h'
      rfl
    · next hpassed =>
      have hlater := ih (engine.attempt rule knowledge book).knowledge
        (engine.attempt rule knowledge book).book
      rw [attemptAll_cons_of_goesOn hpassed rfl]
      refine ⟨hlater.knowledge, hlater.book, ?_, fun e => ?_, fun answer report h h' => ?_⟩
      · simp only [Outcome.after, Outcome.followedBy, hlater.notices]
      · simp only [Outcome.after, Outcome.followedBy, hlater.error]
        generalize (engine.attemptAll true rest _ _).result = result
        cases result <;> simp [Except.map]
      · obtain ⟨later, hresult, rfl⟩ := Outcome.result_followedBy h'
        exact hlater.answer answer later h hresult

/-- A pass that is cut is the pass over all rules, and none of them matches; or it is the pass over
the rules up to the first that matches. -/
inductive CutCases (engine : Engine) (rules : List Rule) (knowledge : Knowledge)
    (book : RuleBook) : Prop where
  | whole (heq : engine.attemptAll true rules knowledge book =
        engine.attemptAll false rules knowledge book)
      (hnone : ∀ report, (engine.attemptAll true rules knowledge book).result = .ok report →
        report.matchedRules = [])
  | cut (before : List Rule) (rule : Rule) (later : List Rule)
      (hsplit : rules = before ++ rule :: later)
      (hreport : (engine.attemptAll true rules knowledge book).result =
        .ok ⟨[rule], before.length + 1⟩)
      (heq : engine.attemptAll true rules knowledge book =
        engine.attemptAll false (before ++ [rule]) knowledge book)

/-- **A pass up to the first match is a pass over all rules, or over those up to the match.**

**Proof sketch.** Induction on the rules.  An attempt that fails ends both passes.  One that matches
ends the pass that is cut, and there is no other rule up to it.  Behind any other attempt the rest
of the pass is one or the other by the induction hypothesis. -/
theorem cut_cases (engine : Engine) (rules : List Rule) (knowledge : Knowledge) (book : RuleBook) :
    CutCases engine rules knowledge book := by
  induction rules generalizing knowledge book with
  | nil =>
    refine .whole rfl fun report h => ?_
    cases h
    rfl
  | cons rule rest ih =>
    cases hresult : (engine.attempt rule knowledge book).result with
    | error e =>
      refine .whole ?_ fun report h => ?_
      · rw [attemptAll_cons_of_error hresult, attemptAll_cons_of_error hresult]
      · rw [attemptAll_cons_of_error hresult] at h
        cases h
    | ok verdict =>
      cases verdict with
      | true =>
        refine .cut [] rule rest rfl ?_ ?_
        · rw [attemptAll_cons_of_match hresult]
          rfl
        · rw [attemptAll_cons_of_match hresult, List.nil_append,
            attemptAll_cons_of_goesOn hresult rfl]
          simp [attemptAll, Outcome.followedBy, Outcome.after, Except.map, Report.cons,
            Report.empty]
      | false =>
        have hcons := attemptAll_cons_of_goesOn hresult (show (false && true) = false from rfl) rest
        cases ih (engine.attempt rule knowledge book).knowledge
          (engine.attempt rule knowledge book).book with
        | whole heq hnone =>
          refine .whole ?_ fun report h => ?_
          · rw [hcons, heq, attemptAll_cons_of_goesOn hresult rfl]
          · rw [hcons] at h
            obtain ⟨later, hlater, rfl⟩ := Outcome.result_followedBy h
            exact hnone later hlater
        | cut before found later hsplit hreport heq =>
          refine .cut (rule :: before) found later (by rw [hsplit, List.cons_append]) ?_ ?_
          · rw [hcons]
            simp [Outcome.followedBy, hreport, Except.map, Report.cons]
          · rw [hcons, heq, List.cons_append, attemptAll_cons_of_goesOn hresult rfl]

end Engine

/-! ## Handlers that leave the rules alone -/

/-- No handler adds rules. -/
def Handlers.Detached (handlers : Handlers) : Prop :=
  ∀ name handler, handlers.table.get? name = some handler →
    ∀ references knowledge, ∃ after outcome, handler references knowledge = .finish after outcome

section Detached

variable {handlers : Handlers} {engine : Engine}

/-- Where no handler adds rules, the book plays no part in an action. -/
lemma Handlers.Detached.perform_eq (h : handlers.Detached) (rule : String)
    (references : List Json) (action : RuleAction) (knowledge : Knowledge)
    (book other : RuleBook) :
    action.perform handlers rule references knowledge book =
      { action.perform handlers rule references knowledge other with book := book } := by
  have hcall (name : String) : handlers.call name references knowledge book =
      { handlers.call name references knowledge other with book := book } := by
    unfold Handlers.call
    split
    · rfl
    · next handler hhandler =>
      obtain ⟨after, outcome, hfinish⟩ := h name handler hhandler references knowledge
      simp only [hfinish, Script.run]
  cases action with
  | handler name => exact hcall name
  | code name => exact hcall name
  | bind names => rfl
  | set values => rfl
  | log message => rfl

/-- Nor does it play a part in actions one after another. -/
lemma Handlers.Detached.performAll_eq (h : handlers.Detached) (rule : String)
    (references : List Json) (actions : List RuleAction) (knowledge : Knowledge)
    (book other : RuleBook) :
    performAll handlers rule references actions knowledge book =
      { performAll handlers rule references actions knowledge other with book := book } := by
  induction actions generalizing knowledge book other with
  | nil => rfl
  | cons action rest ih =>
    simp only [performAll, h.perform_eq rule references action knowledge book other]
    split
    · rfl
    · rw [ih _ book (action.perform handlers rule references knowledge other).book]

/-- Nor in an attempt at a rule. -/
lemma Handlers.Detached.attempt_eq (h : engine.handlers.Detached) (rule : Rule)
    (knowledge : Knowledge) (book other : RuleBook) :
    engine.attempt rule knowledge book =
      { engine.attempt rule knowledge other with book := book } := by
  have hfire (staged : Knowledge) : rule.fire engine staged book =
      { rule.fire engine staged other with book := book } := by
    unfold Rule.fire Rule.act
    dsimp only
    rw [h.performAll_eq rule.name _ rule.actions _ book other]
    generalize performAll engine.handlers rule.name _ rule.actions _ other = performed
    obtain ⟨outcome, after, later, notices⟩ := performed
    cases outcome <;> rfl
  have hattempt : rule.attempt engine knowledge book =
      { rule.attempt engine knowledge other with book := book } := by
    unfold Rule.attempt
    dsimp only
    split
    · rfl
    · split
      · rfl
      · rfl
      · split
        · rw [hfire]
          rfl
        · rfl
  simp only [Engine.attempt, hattempt]

/-- Nor in a whole pass. -/
lemma Handlers.Detached.attemptAll_eq (h : engine.handlers.Detached) (cut : Bool)
    (rules : List Rule) (knowledge : Knowledge) (book other : RuleBook) :
    engine.attemptAll cut rules knowledge book =
      { engine.attemptAll cut rules knowledge other with book := book } := by
  induction rules generalizing knowledge book other with
  | nil => rfl
  | cons rule rest ih =>
    simp only [Engine.attemptAll, h.attempt_eq rule knowledge book other]
    split
    · rfl
    · split
      · rfl
      · rw [ih _ book (engine.attempt rule knowledge other).book]
        rfl

end Detached

/-! ## Runs of a dispatcher -/

/-- The first rules of a book. -/
def RuleBook.take (book : RuleBook) (count : Nat) : RuleBook where
  rules := book.rules.take count
  distinct := book.distinct.sublist ((List.take_sublist count book.rules).map Rule.name)

namespace Dispatcher

/-- The dispatcher in another mode. -/
def withMode (dispatcher : Dispatcher) (mode : DispatchMode) : Dispatcher :=
  { dispatcher with mode := mode }

/-- The dispatcher with its first rules only. -/
def restrict (dispatcher : Dispatcher) (count : Nat) : Dispatcher :=
  { dispatcher with book := dispatcher.book.take count }

/-- A rule stands at one position of a book only. -/
lemma position_unique {book : RuleBook} {before later : List Rule} {rule : Rule}
    (hsplit : book.rules = before ++ rule :: later) {position : Nat}
    (h : book.rules[position]? = some rule) : position = before.length := by
  have hbefore : book.rules[before.length]? = some rule := by simp [hsplit]
  have hlength : position < (book.rules.map Rule.name).length := by
    simpa using (List.getElem?_eq_some_iff.1 h).1
  refine (List.getElem?_inj hlength book.distinct).1 ?_
  rw [List.getElem?_map, List.getElem?_map, h, hbefore]

/-- **The modes of a dispatch agree.**  A run in the mode of the first match takes the course of a
dispatch and lists the rule that the dispatch answers, and a run over all rules does so for a
dispatch over all rules.  If the first match is the rule at some position, then its run is the run
over all rules of the dispatcher that is restricted to the rules up to that position, provided that
no handler adds rules; and if there is no match, or an error, then it is the run over all rules. -/
theorem modes_agree (dispatcher : Dispatcher) (knowledge : Knowledge) :
    let first := (dispatcher.withMode .first).run knowledge
    let all := (dispatcher.withMode .all).run knowledge
    (dispatcher.dispatch knowledge).Agrees Report.Lists first ∧
    (dispatcher.dispatchAll knowledge).Agrees (fun rules report => report.matchedRules = rules)
      all ∧
    (dispatcher.engine.handlers.Detached →
      ∀ position rule report, dispatcher.book.rules[position]? = some rule →
        first.result = .ok report → report.matchedRules = [rule] →
        let upTo := ((dispatcher.restrict (position + 1)).withMode .all).run knowledge
        upTo.knowledge = first.knowledge ∧ upTo.notices = first.notices ∧
          upTo.result = first.result ∧ report.attempted = position + 1) ∧
    (((∃ e, first.result = .error e) ∨
        ∃ report, first.result = .ok report ∧ report.matchedRules = []) →
      first = all) := by
  intro first all
  have hcases := dispatcher.engine.cut_cases dispatcher.book.rules knowledge dispatcher.book
  refine ⟨dispatcher.engine.agrees_firstMatch _ knowledge _, ⟨rfl, rfl, rfl, ?_, ?_⟩, ?_, ?_⟩
  · intro e
    change all.result.map Report.matchedRules = .error e ↔ all.result = .error e
    cases all.result <;> simp [Except.map]
  · intro rules report h hreport
    change all.result.map Report.matchedRules = .ok rules at h
    rw [hreport] at h
    cases h
    rfl
  · intro hdetached position rule report hposition hreport hmatched
    cases hcases with
    | whole heq hnone =>
      have hempty : report.matchedRules = [] := hnone report hreport
      simp [hmatched] at hempty
    | cut before found later hsplit hfound heq =>
      obtain rfl : report = ⟨[found], before.length + 1⟩ :=
        Except.ok.inj (hreport.symm.trans hfound)
      obtain rfl : found = rule := by simpa using hmatched
      obtain rfl := position_unique hsplit hposition
      have htake : dispatcher.book.rules.take (before.length + 1) = before ++ [found] := by
        rw [hsplit, List.take_length_add_append, List.take_succ_cons, List.take_zero]
      have hrun : ((dispatcher.restrict (before.length + 1)).withMode .all).run knowledge =
          { first with book := (dispatcher.restrict (before.length + 1)).book } := by
        change dispatcher.engine.attemptAll false (dispatcher.book.rules.take _) knowledge _ = _
        rw [htake, hdetached.attemptAll_eq false _ knowledge _ dispatcher.book, ← heq]
        rfl
      dsimp only
      rw [hrun]
      exact ⟨rfl, rfl, rfl, rfl⟩
  · intro hend
    cases hcases with
    | whole heq hnone => exact heq
    | cut before found later hsplit hfound heq =>
      have hresult : first.result = .ok ⟨[found], before.length + 1⟩ := hfound
      rcases hend with ⟨e, he⟩ | ⟨report, hreport, hempty⟩
      · rw [hresult] at he
        cases he
      · rw [hresult] at hreport
        cases hreport
        cases hempty

/-! ## A dispatcher whose modes differ -/

/-- A rule for the staff, which runs a handler. -/
def greetRule (name : String) : Rule :=
  ⟨name, none, 0, [Condition.staffTree], [.handler "greet"]⟩

/-- A handler that writes the values it gets. -/
def greet : Handler := fun references knowledge =>
  .finish (knowledge.setResult "greeted" (.array references) false) (.ok ())

/-- A rule without conditions, one that a veto refuses, and two that match. -/
def gate : Dispatcher where
  book := ⟨[⟨"bell", none, 0, [], []⟩, greetRule "closed", greetRule "open", greetRule "back"],
    by decide⟩
  engine := ⟨Handlers.empty.register "greet" greet,
    ⟨["observer"], [fun rule _ => rule.name != "closed"]⟩, true⟩
  mode := .first

/-- The handler of the gate adds no rules. -/
lemma detached_gate : gate.engine.handlers.Detached := by
  intro name handler h references knowledge
  have hmem : (name, handler) ∈ [("greet", greet)] := Dict.mem_of_get?_ofList h
  obtain ⟨-, rfl⟩ := Prod.mk.inj (List.mem_singleton.1 hmem)
  exact ⟨_, _, rfl⟩

/-- What is known when someone of the staff comes to the gate. -/
def visit : Knowledge := Condition.staffKnowledge.rollback

/-- The first match is the third rule, where a run over all rules goes on to the fourth; a stranger
is matched by no rule. -/
theorem modes_agree_gate :
    gate.engine.handlers.Detached ∧
    gate.book.rules[2]? = some (greetRule "open") ∧
    ((gate.withMode .first).run visit).result = .ok ⟨[greetRule "open"], 3⟩ ∧
    ((gate.withMode .all).run visit).result = .ok ⟨[greetRule "open", greetRule "back"], 4⟩ ∧
    (((gate.restrict 3).withMode .all).run visit).result = .ok ⟨[greetRule "open"], 3⟩ ∧
    ((gate.withMode .first).run .empty).result = .ok ⟨[], 4⟩ ∧
    (gate.withMode .first).run .empty = (gate.withMode .all).run .empty := by
  have hfirst : ((gate.withMode .first).run visit).result = .ok ⟨[greetRule "open"], 3⟩ := rfl
  have hall : ((gate.withMode .all).run visit).result =
      .ok ⟨[greetRule "open", greetRule "back"], 4⟩ := rfl
  have hstranger : ((gate.withMode .first).run .empty).result = .ok ⟨[], 4⟩ := rfl
  have hmatch := (modes_agree gate visit).2.2.1 detached_gate 2 (greetRule "open") ⟨_, 3⟩ rfl
    hfirst rfl
  have hnone := (modes_agree gate .empty).2.2.2 (.inr ⟨_, hstranger, rfl⟩)
  exact ⟨detached_gate, rfl, hfirst, hall, hmatch.2.2.1.trans hfirst, hstranger, hnone⟩

end Dispatcher

end RequestRouting
