import RequestRouting.Proofs.Condition.Construction
import RequestRouting.Proofs.Steps
import RequestRouting.Rule.Table

/-!
# How rules are compiled

Conditions, actions and rules are built one after another, and so is a rule book of them.  The first
failure ends this.

## Main results

* `RuleSpec.compile_eq_ok` — what a rule is compiled to.
* `RuleBook.ofRules_eq_ok` — a list of rules makes a book if their names differ.
* `RuleBook.ofRules_eq_duplicate` — if not, one of the names is reported.
-/

set_option autoImplicit false

namespace RequestRouting

/-! ## Rules -/

namespace RuleSpec

/-- Conditions are built one after another. -/
lemma buildConditions_eq_mapM (registry : ConditionRegistry) (specs : List ConditionSpec) :
    buildConditions registry specs =
      specs.mapM fun spec => registry.construct spec.kind spec.options.entries := by
  induction specs with
  | nil => rfl
  | cons spec rest ih => rw [buildConditions, ih, List.mapM_cons]; rfl

/-- Actions are built one after another. -/
lemma buildActions_eq_mapM (rule : String) (handlers : List String) (specs : List ActionSpec) :
    buildActions rule handlers specs = specs.mapM fun spec => spec.toAction rule handlers := by
  induction specs with
  | nil => rfl
  | cons spec rest ih => rw [buildActions, ih, List.mapM_cons]; rfl

/-- Rules are compiled one after another. -/
lemma compileAll_eq_mapM (registry : ConditionRegistry) (handlers : List String)
    (specs : List RuleSpec) :
    compileAll registry handlers specs = specs.mapM fun spec => spec.compile registry handlers := by
  induction specs with
  | nil => rfl
  | cons spec rest ih => rw [compileAll, ih, List.mapM_cons]; rfl

/-- What a rule is compiled to. -/
lemma compile_eq_ok {spec : RuleSpec} {registry : ConditionRegistry} {handlers : List String}
    {rule : Rule} :
    spec.compile registry handlers = .ok rule ↔
      ∃ conditions,
        (spec.conditions.mapM fun spec => registry.construct spec.kind spec.options.entries) =
          .ok conditions ∧
        ∃ actions, (spec.actions.mapM fun action => action.toAction spec.name handlers) =
          .ok actions ∧
        (⟨spec.name, spec.description, spec.weight, conditions, actions⟩ : Rule) = rule := by
  simp only [compile, bind_eq_ok, buildConditions_eq_mapM, buildActions_eq_mapM, Except.ok.injEq]

/-- The conditions of a rule that has been compiled are those of the library. -/
lemma native_of_compile {spec : RuleSpec} {handlers : List String} {rule : Rule}
    (h : spec.compile .builtins handlers = .ok rule) :
    ∀ condition ∈ rule.conditions, condition.Native := by
  obtain ⟨conditions, hconditions, actions, -, rfl⟩ := compile_eq_ok.1 h
  exact forall_mem_of_mapM hconditions fun spec _ condition hbuilt =>
    (Condition.Registered.ofTag _ _ hbuilt).native

end RuleSpec

/-! ## Books -/

namespace RuleBook

/-- Rules whose names are new and differ are appended.

**Proof sketch.** Induction on the rules.  A rule that has been appended has given its name to the
book, which is why the names of the book and of the rules are looked at together. -/
lemma exists_addRules (book : RuleBook) {rules : List Rule}
    (h : ((book.rules ++ rules).map Rule.name).Nodup) :
    ∃ later, book.addRules rules = .ok later ∧ later.rules = book.rules ++ rules := by
  induction rules generalizing book with
  | nil => exact ⟨book, rfl, (List.append_nil _).symm⟩
  | cons rule rest ih =>
    have hnew : rule.name ∉ book.rules.map Rule.name := by
      rw [List.map_append, List.nodup_append] at h
      exact fun hmem => h.2.2 _ hmem _ List.mem_cons_self rfl
    have hadded : ∃ next, book.addRule rule = .ok next ∧ next.rules = book.rules ++ [rule] :=
      ⟨_, dif_neg hnew, rfl⟩
    obtain ⟨next, hnext, hrules⟩ := hadded
    have happend : book.rules ++ rule :: rest = next.rules ++ rest := by simp [hrules]
    rw [happend] at h ⊢
    rw [addRules, hnext]
    exact ih next h

/-- If a name is not new, it is reported. -/
lemma exists_duplicate_of_addRules (book : RuleBook) {rules : List Rule}
    (h : ¬ ((book.rules ++ rules).map Rule.name).Nodup) :
    ∃ name, book.addRules rules = .error (.duplicateRule name) := by
  induction rules generalizing book with
  | nil => exact absurd book.distinct (by simpa using h)
  | cons rule rest ih =>
    by_cases hname : rule.name ∈ book.rules.map Rule.name
    · exact ⟨rule.name, by rw [addRules, addRule, dif_pos hname]⟩
    · rw [addRules, addRule, dif_neg hname]
      exact ih _ (by simpa using h)

/-- Rules whose names differ make a book, which has them in their order. -/
lemma ofRules_eq_ok {rules : List Rule} {book : RuleBook} :
    ofRules rules = .ok book ↔ book.rules = rules := by
  constructor
  · intro h
    have hnodup : (rules.map Rule.name).Nodup := by
      by_contra hnodup
      obtain ⟨name, hname⟩ := exists_duplicate_of_addRules empty hnodup
      cases h.symm.trans hname
    obtain ⟨later, hlater, hrules⟩ := exists_addRules empty hnodup
    cases h.symm.trans hlater
    exact hrules
  · rintro rfl
    obtain ⟨later, hlater, hrules⟩ := exists_addRules empty book.distinct
    have hbook : later = book := by
      cases later
      cases book
      cases hrules
      rfl
    exact hbook ▸ hlater

/-- Two rules of the same name make no book, and that is reported. -/
lemma ofRules_eq_duplicate {rules : List Rule} :
    (∃ name, ofRules rules = .error (.duplicateRule name)) ↔ ¬ (rules.map Rule.name).Nodup := by
  constructor
  · rintro ⟨name, hname⟩ hnodup
    obtain ⟨later, hlater, -⟩ := exists_addRules empty hnodup
    cases hname.symm.trans hlater
  · exact exists_duplicate_of_addRules empty

end RuleBook

end RequestRouting
