import Mathlib.Data.List.Nodup
import RequestRouting.Proofs.Attempts
import RequestRouting.Proofs.Rule.Block

/-!
# Rules that are added on the way

Actions may add rules to the book from which the dispatch takes the rules that it attempts.  All
calls that add a rule are listed here, with the answers that they get, for a script, an action, an
attempt and a pass; and the list tells what becomes of the book.

## Main definitions

* `Addition` — a call that adds a rule, and how it is answered.
* `Grows` — what becomes of a list of rules through calls that add rules.
* `Script.additions`, `performAdditions`, `Rule.additions`, `Engine.additions` — the calls that are
  made on the way.

## Main results

* `Grows.nodup`, `Grows.eq_append` — names stay distinct, and rules are only appended.
* `Script.grows_run`, `grows_performAll`, `Rule.grows_attempt`, `Engine.grows_attemptAll` — a book
  grows through the calls that are made on the way.
-/

set_option autoImplicit false

namespace RequestRouting

/-! ## Growing lists of rules -/

/-- A call that adds a rule, and the error with which it is refused, if it is. -/
structure Addition where
  rule : Rule
  refusal : Option RuleError

/-- The rule of a call that is not refused. -/
def Addition.accepted? (addition : Addition) : Option Rule :=
  match addition.refusal with
  | none => some addition.rule
  | some _ => none

/-- What becomes of a list of rules through calls that add rules.  A rule with a new name is
appended; a rule whose name is taken is refused with an error that gives the name, and nothing
changes. -/
inductive Grows : List Rule → List Addition → List Rule → Prop where
  | nil (rules : List Rule) : Grows rules [] rules
  | accepted {rules after : List Rule} {additions : List Addition} {rule : Rule}
      (hnew : rule.name ∉ rules.map Rule.name) (h : Grows (rules ++ [rule]) additions after) :
      Grows rules (⟨rule, none⟩ :: additions) after
  | refused {rules after : List Rule} {additions : List Addition} {rule : Rule}
      (htaken : rule.name ∈ rules.map Rule.name) (h : Grows rules additions after) :
      Grows rules (⟨rule, some (.duplicateRule rule.name)⟩ :: additions) after

namespace Grows

variable {before between after : List Rule} {additions more : List Addition}

/-- Growth may go on. -/
lemma append (h : Grows before additions between) (h' : Grows between more after) :
    Grows before (additions ++ more) after := by
  induction h with
  | nil => exact h'
  | accepted hnew _ ih => exact .accepted hnew (ih h')
  | refused htaken _ ih => exact .refused htaken (ih h')

/-- Between any two calls there is a list that has grown so far, and goes on from there. -/
lemma split (h : Grows before (additions ++ more) after) :
    ∃ rules, Grows before additions rules ∧ Grows rules more after := by
  induction additions generalizing before with
  | nil => exact ⟨before, .nil _, h⟩
  | cons addition rest ih =>
    cases h with
    | accepted hnew h =>
      obtain ⟨rules, hbefore, hafter⟩ := ih h
      exact ⟨rules, .accepted hnew hbefore, hafter⟩
    | refused htaken h =>
      obtain ⟨rules, hbefore, hafter⟩ := ih h
      exact ⟨rules, .refused htaken hbefore, hafter⟩

/-- **Rules are only appended**: those of the calls that are not refused, in their order. -/
theorem eq_append (h : Grows before additions after) :
    after = before ++ additions.filterMap Addition.accepted? := by
  induction h with
  | nil rules => exact (List.append_nil rules).symm
  | @accepted rules after additions rule hnew _ ih =>
    rw [ih, List.append_assoc]
    rfl
  | refused htaken _ ih => exact ih

/-- What was there stays at the beginning. -/
lemma isPrefix (h : Grows before additions after) : before <+: after :=
  ⟨_, h.eq_append.symm⟩

/-- **Distinct names stay distinct.** -/
theorem nodup (h : Grows before additions after) (hdistinct : (before.map Rule.name).Nodup) :
    (after.map Rule.name).Nodup := by
  induction h with
  | nil => exact hdistinct
  | @accepted rules after additions rule hnew _ ih =>
    refine ih ?_
    rw [List.map_append, List.map_singleton]
    exact List.nodup_append.2 ⟨hdistinct, List.nodup_singleton _, fun name hname other hother =>
      ne_of_mem_of_not_mem hname (List.mem_singleton.1 hother ▸ hnew)⟩
  | refused htaken _ ih => exact ih hdistinct

/-- A rule is in the list afterwards if it was there or has been added. -/
lemma mem_iff (h : Grows before additions after) {rule : Rule} :
    rule ∈ after ↔ rule ∈ before ∨ ⟨rule, none⟩ ∈ additions := by
  rw [h.eq_append, List.mem_append, List.mem_filterMap]
  refine or_congr_right ⟨?_, fun hmem => ⟨_, hmem, rfl⟩⟩
  rintro ⟨⟨other, refusal⟩, hmem, haccepted⟩
  cases refusal with
  | none =>
    cases haccepted
    exact hmem
  | some e => cases haccepted

/-- The name of a rule that is added is new. -/
lemma name_notMem (h : Grows before additions after) {rule : Rule}
    (hrule : ⟨rule, none⟩ ∈ additions) : rule.name ∉ before.map Rule.name := by
  obtain ⟨earlier, later, rfl⟩ := List.append_of_mem hrule
  obtain ⟨rules, hbefore, hafter⟩ := h.split
  have hnew : rule.name ∉ rules.map Rule.name := by
    cases hafter with
    | accepted hnew _ => exact hnew
  exact fun hname => hnew ((hbefore.isPrefix.map Rule.name).subset hname)

end Grows

/-! ## Calls that are made on the way -/

namespace RuleBook

/-- A call that adds a rule to a book, with the answer that it gets. -/
def addition (book : RuleBook) (rule : Rule) : Addition :=
  match book.addRule rule with
  | .ok _ => ⟨rule, none⟩
  | .error e => ⟨rule, some e⟩

/-- The book behind a call that adds a rule. -/
def afterAddition (book : RuleBook) (rule : Rule) : RuleBook :=
  match book.addRule rule with
  | .ok later => later
  | .error _ => book

/-- A book grows through a call that adds a rule. -/
lemma grows_addition (book : RuleBook) (rule : Rule) :
    Grows book.rules [book.addition rule] (book.afterAddition rule).rules := by
  unfold addition afterAddition addRule
  by_cases htaken : rule.name ∈ book.rules.map Rule.name
  · rw [dif_pos htaken]
    exact .refused htaken (.nil _)
  · rw [dif_neg htaken]
    exact .accepted htaken (.nil _)

/-- The rule that is found under a name is the one that has it. -/
lemma find?_eq_some {book : RuleBook} {name : String} {rule : Rule} :
    book.find? name = some rule ↔ rule.name = name ∧ rule ∈ book.rules := by
  constructor
  · intro h
    exact ⟨by simpa using List.find?_some h, List.mem_of_find?_eq_some h⟩
  · rintro ⟨rfl, hmem⟩
    cases hfound : book.find? rule.name with
    | none =>
      have hnot := List.find?_eq_none.1 hfound rule hmem
      simp at hnot
    | some other =>
      have hname : other.name = rule.name := by simpa using List.find?_some hfound
      exact congrArg some
        (List.inj_on_of_nodup_map book.distinct (List.mem_of_find?_eq_some hfound) hmem hname)

end RuleBook

/-- The calls of a script that add rules. -/
def Script.additions : Script → RuleBook → List Addition
  | .finish _ _, _ => []
  | .addRule rule next, book =>
    book.addition rule ::
      (next (book.addition rule).refusal).additions (book.afterAddition rule)

/-- A script goes on behind a call with the answer that the call gets. -/
lemma Script.run_addRule (rule : Rule) (next : Option RuleError → Script) (book : RuleBook) :
    (Script.addRule rule next).run book =
      (next (book.addition rule).refusal).run (book.afterAddition rule) := by
  rw [run, RuleBook.addition, RuleBook.afterAddition]
  cases book.addRule rule <;> rfl

/-- A book grows through the calls of a script.

**Proof sketch.** Induction on the script, which goes on with the answer to its first call. -/
theorem Script.grows_run (script : Script) (book : RuleBook) :
    Grows book.rules (script.additions book) (script.run book).2.2.rules := by
  induction script generalizing book with
  | finish knowledge outcome => exact .nil _
  | addRule rule next ih =>
    rw [run_addRule]
    exact (book.grows_addition rule).append (ih _ _)

/-- The calls of an action that add rules: only handlers make any. -/
def RuleAction.additions (handlers : Handlers) (references : List Json) (action : RuleAction)
    (knowledge : Knowledge) (book : RuleBook) : List Addition :=
  match action with
  | .handler name | .code name =>
    ((handlers.table.get? name).map fun handler =>
      (handler references knowledge).additions book).getD []
  | .bind _ | .set _ | .log _ => []

/-- A book grows through the calls of an action. -/
lemma RuleAction.grows_perform (handlers : Handlers) (rule : String) (references : List Json)
    (action : RuleAction) (knowledge : Knowledge) (book : RuleBook) :
    Grows book.rules (action.additions handlers references knowledge book)
      (action.perform handlers rule references knowledge book).book.rules := by
  have hcall (name : String) :
      Grows book.rules
        (((handlers.table.get? name).map fun handler =>
          (handler references knowledge).additions book).getD [])
        (handlers.call name references knowledge book).book.rules := by
    unfold Handlers.call
    cases handlers.table.get? name with
    | none => exact .nil _
    | some handler => exact (handler references knowledge).grows_run book
  cases action with
  | handler name => exact hcall name
  | code name => exact hcall name
  | bind names => exact .nil _
  | set values => exact .nil _
  | log message => exact .nil _

/-- The calls of actions that add rules, up to the first action that fails. -/
def performAdditions (handlers : Handlers) (rule : String) (references : List Json) :
    List RuleAction → Knowledge → RuleBook → List Addition
  | [], _, _ => []
  | action :: rest, knowledge, book =>
    let performed := action.perform handlers rule references knowledge book
    action.additions handlers references knowledge book ++
      match performed.outcome with
      | .error _ => []
      | .ok () => performAdditions handlers rule references rest performed.knowledge performed.book

/-- A book grows through the calls of actions. -/
theorem grows_performAll (handlers : Handlers) (rule : String) (references : List Json)
    (actions : List RuleAction) (knowledge : Knowledge) (book : RuleBook) :
    Grows book.rules (performAdditions handlers rule references actions knowledge book)
      (performAll handlers rule references actions knowledge book).book.rules := by
  fun_induction performAll handlers rule references actions knowledge book with
  | case1 => exact .nil _
  | case2 action rest knowledge book performed e he =>
    have hfirst := action.grows_perform handlers rule references knowledge book
    simp only [performAdditions, performed] at he ⊢
    rw [he, List.append_nil]
    exact hfirst
  | case3 action rest knowledge book performed he later ih =>
    have hfirst := action.grows_perform handlers rule references knowledge book
    simp only [performAdditions, performed] at he ⊢
    rw [he]
    exact hfirst.append ih

/-- The calls of an attempt at a rule that add rules: those of its actions, if it commits. -/
def Rule.additions (engine : Engine) (rule : Rule) (knowledge : Knowledge) (book : RuleBook) :
    List Addition :=
  (rule.staged? engine knowledge).elim [] fun staged =>
    performAdditions engine.handlers rule.name staged.commit.1 rule.actions
      (staged.commit.2.extractFacts engine.clearExtractors) book

/-- A book grows through the calls of an attempt: it changes only where the rule is carried out. -/
theorem Rule.grows_attempt (engine : Engine) (rule : Rule) (knowledge : Knowledge)
    (book : RuleBook) :
    Grows book.rules (rule.additions engine knowledge book)
      (rule.attempt engine knowledge book).book.rules := by
  have hattempt := rule.attempt_eq_of_staged? engine knowledge book
  unfold additions
  cases hstaged : rule.staged? engine knowledge with
  | none =>
    rw [hstaged] at hattempt
    rw [hattempt.2]
    exact .nil _
  | some staged =>
    rw [hstaged] at hattempt
    rw [hattempt.2.2]
    exact grows_performAll ..

/-- The calls of a pass that add rules. -/
def Engine.additions (engine : Engine) (cut : Bool) :
    List Rule → Knowledge → RuleBook → List Addition
  | [], _, _ => []
  | rule :: rest, knowledge, book =>
    let outcome := engine.attempt rule knowledge book
    rule.additions engine knowledge book ++
      if goesOn cut outcome.result then additions engine cut rest outcome.knowledge outcome.book
      else []

/-- **A book grows through the calls of a pass.**

**Proof sketch.** Induction on the rules; the pass goes on with the book that the attempt has
left. -/
theorem Engine.grows_attemptAll (engine : Engine) (cut : Bool) (rules : List Rule)
    (knowledge : Knowledge) (book : RuleBook) :
    Grows book.rules (engine.additions cut rules knowledge book)
      (engine.attemptAll cut rules knowledge book).book.rules := by
  induction rules generalizing knowledge book with
  | nil => exact .nil _
  | cons rule rest ih =>
    have hfirst : Grows book.rules (rule.additions engine knowledge book)
        (engine.attempt rule knowledge book).book.rules :=
      rule.grows_attempt engine knowledge book
    cases hgoesOn : goesOn cut (engine.attempt rule knowledge book).result with
    | false =>
      rw [attemptAll_cons_of_ends hgoesOn]
      simpa [additions, hgoesOn] using hfirst
    | true =>
      obtain ⟨verdict, hverdict, hcut⟩ := goesOn_eq_true.1 hgoesOn
      rw [attemptAll_cons_of_goesOn hverdict hcut]
      simp only [additions, hgoesOn, if_true]
      exact hfirst.append (ih _ _)

end RequestRouting
