import Mathlib.Data.List.Nodup
import RequestRouting.Proofs.Attempts
import RequestRouting.Proofs.Rule.Failure
import RequestRouting.Rule.Loader

/-!
# The priority of rules

The rules of all tables are put in one order before they are compiled: by decreasing priority, and
rules of the same priority as they have been loaded.  A dispatch that looks for the first match
therefore ends with the rule of the highest priority among those that match, and with the one that
has been loaded first if there are several.

## Main definitions

* `Rule.isMatch` — whether a rule matches some knowledge.
* `Rule.GoesBefore` — a rule goes before another one.
* `RuleBook.Elects` — an answer is the matching rule that goes before all others.

## Main results

* `filter_sortByPriority` — rules of the same priority keep their order.
* `RuleSpec.duplicate_iff` — when the building of a book ends with a name that comes twice.
* `Engine.firstMatch_eq_find?` — a pass over rules up to the first match is a search of the list.
* `orderedRules_decide` — the order of the rules decides which rule a dispatch ends with.
-/

set_option autoImplicit false

namespace RequestRouting

/-! ## The order of rules -/

section Order

variable {specs : List RuleSpec}

/-- Rules are only put in another order. -/
lemma sortByPriority_perm (specs : List RuleSpec) : (sortByPriority specs).Perm specs :=
  List.mergeSort_perm specs _

/-- Not being lighter is transitive. -/
lemma weight_le_trans (first second third : RuleSpec)
    (hfirst : decide (second.weight ≤ first.weight))
    (hsecond : decide (third.weight ≤ second.weight)) :
    decide (third.weight ≤ first.weight) := by
  simp only [decide_eq_true_eq] at hfirst hsecond ⊢
  exact Int.le_trans hsecond hfirst

/-- Of two rules one is not lighter than the other. -/
lemma weight_le_total (first second : RuleSpec) :
    (decide (second.weight ≤ first.weight) || decide (first.weight ≤ second.weight)) := by
  simpa using Int.le_total second.weight first.weight

/-- No rule comes behind a lighter one. -/
lemma pairwise_sortByPriority (specs : List RuleSpec) :
    (sortByPriority specs).Pairwise fun spec later => later.weight ≤ spec.weight := by
  refine (List.pairwise_mergeSort weight_le_trans weight_le_total specs).imp fun h => ?_
  simpa using h

/-- **Rules of the same weight keep their order.**

**Proof sketch.** They are a part of the list that is in order already, which sorting keeps; and
sorting keeps their number. -/
theorem filter_sortByPriority (specs : List RuleSpec) (weight : Int) :
    ((sortByPriority specs).filter fun spec => spec.weight = weight) =
      specs.filter fun spec => spec.weight = weight := by
  have hsorted : (specs.filter fun spec => spec.weight = weight).Pairwise
      fun spec later => decide (later.weight ≤ spec.weight) := by
    refine List.pairwise_of_forall_mem_list fun spec hspec later hlater => ?_
    simp only [List.mem_filter, decide_eq_true_eq] at hspec hlater ⊢
    exact Int.le_of_eq (hlater.2.trans hspec.2.symm)
  have hpart := List.sublist_mergeSort weight_le_trans weight_le_total hsorted List.filter_sublist
  have hkept := hpart.filter fun spec => decide (spec.weight = weight)
  rw [List.filter_filter] at hkept
  simp only [Bool.and_self] at hkept
  exact (hkept.eq_of_length ((sortByPriority_perm specs).filter _).length_eq.symm).symm

/-- In a list without repetitions what comes first has the smaller position. -/
lemma idxOf_lt_of_sublist {names : List String} (h : names.Nodup) {first second : String}
    (hsublist : [first, second].Sublist names) : names.idxOf first < names.idxOf second := by
  have hpairs : names.Pairwise fun first second => names.idxOf first < names.idxOf second :=
    List.pairwise_iff_getElem.2 fun i j hi hj hlt => by
      rwa [h.idxOf_getElem, h.idxOf_getElem]
  exact List.pairwise_iff_forall_sublist.1 hpairs hsublist

/-- A rule comes behind those of a greater weight, and of those of the same weight behind the ones
that come before it in the list. -/
lemma pairwise_position (h : (specs.map RuleSpec.name).Nodup) :
    (sortByPriority specs).Pairwise fun spec later => later.weight < spec.weight ∨
      later.weight = spec.weight ∧
        (specs.map RuleSpec.name).idxOf spec.name < (specs.map RuleSpec.name).idxOf later.name := by
  refine List.pairwise_iff_forall_sublist.2 fun {spec later} hpair => ?_
  have hle := List.pairwise_iff_forall_sublist.1 (pairwise_sortByPriority specs) hpair
  rcases Int.lt_or_eq_of_le hle with hlt | heq
  · exact .inl hlt
  · refine .inr ⟨heq, idxOf_lt_of_sublist h ?_⟩
    have hkept := hpair.filter fun other => decide (other.weight = spec.weight)
    rw [filter_sortByPriority, List.filter_cons_of_pos (by simp),
      List.filter_cons_of_pos (by simp [heq]), List.filter_nil] at hkept
    exact (hkept.trans List.filter_sublist).map RuleSpec.name

end Order

/-! ## Books of rules -/

/-- A rule that cannot be built is no rule whose name is taken. -/
lemma RuleError.OfRule.ne_duplicateRule {rejected : Prop} {e : RuleError} (h : e.OfRule rejected)
    (name : String) : e ≠ .duplicateRule name := by
  rintro rfl
  cases h with
  | condition h => cases h

namespace RuleSpec

variable {specs : List RuleSpec} {handlers : List String}

/-- Rules are compiled if each of them is. -/
lemma compileAll_eq_ok {rules : List Rule} :
    compileAll .builtins handlers specs = .ok rules ↔
      List.Forall₂ (fun spec rule => spec.compile .builtins handlers = .ok rule) specs rules := by
  rw [compileAll_eq_mapM, mapM_eq_ok]

/-- A rule is compiled with its name. -/
lemma name_of_compile {spec : RuleSpec} {rule : Rule}
    (h : spec.compile .builtins handlers = .ok rule) : spec.name = rule.name := by
  obtain ⟨conditions, -, actions, -, rfl⟩ := compile_eq_ok.1 h
  rfl

/-- A rule is compiled with its weight. -/
lemma weight_of_compile {spec : RuleSpec} {rule : Rule}
    (h : spec.compile .builtins handlers = .ok rule) : spec.weight = rule.priority := by
  obtain ⟨conditions, -, actions, -, rfl⟩ := compile_eq_ok.1 h
  rfl

/-- **A name that comes twice is reported if, and only if, there is one and all rules compile.** -/
theorem duplicate_iff :
    (∃ name, compileAll .builtins handlers specs >>= RuleBook.ofRules =
        .error (.duplicateRule name)) ↔
      (∀ spec ∈ specs, ∃ rule, spec.compile .builtins handlers = .ok rule) ∧
        ¬ (specs.map RuleSpec.name).Nodup := by
  rw [← exists_forall₂]
  constructor
  · rintro ⟨name, h⟩
    rcases bind_eq_error.1 h with hcompiled | ⟨rules, hcompiled, hbook⟩
    · rw [compileAll_eq_mapM] at hcompiled
      obtain ⟨spec, -, hspec⟩ := exists_mem_of_mapM_eq_error hcompiled
      rw [← ConditionRegistry.builtinsWith_compile] at hspec
      exact absurd rfl ((ofRule_of_compile hspec).ne_duplicateRule name)
    · have hrules := compileAll_eq_ok.1 hcompiled
      rw [map_eq_of_forall₂ hrules fun _ _ => name_of_compile]
      exact ⟨⟨rules, hrules⟩, RuleBook.ofRules_eq_duplicate.1 ⟨name, hbook⟩⟩
  · rintro ⟨⟨rules, hrules⟩, htwice⟩
    rw [map_eq_of_forall₂ hrules fun _ _ => name_of_compile] at htwice
    obtain ⟨name, hname⟩ := RuleBook.ofRules_eq_duplicate.2 htwice
    exact ⟨name, bind_eq_error.2 (.inr ⟨rules, compileAll_eq_ok.2 hrules, hname⟩)⟩

end RuleSpec

/-! ## The first match -/

/-- Whether a rule matches some knowledge: it has conditions, and in a transaction of their own all
of them match. -/
def Rule.isMatch (rule : Rule) (knowledge : Knowledge) : Bool :=
  !rule.conditions.isEmpty &&
    Engine.isMatch (Condition.evaluateAll rule.conditions knowledge.begin).1

namespace Engine

variable {engine : Engine} {rule : Rule} {knowledge : Knowledge} {book : RuleBook}

/-- If there are no vetoes, nothing is refused. -/
lemma approve_of_vetoes_eq_nil {hooks : Hooks} (h : hooks.vetoes = []) (rule : Rule)
    (knowledge : Knowledge) : (hooks.approve rule knowledge).1 = true := by
  rw [Hooks.approve, h, Hooks.approveFrom]

/-- Without vetoes the verdict of an attempt is whether the rule matches. -/
lemma verdict_eq_isMatch (hvetoes : engine.hooks.vetoes = []) {verdict : Bool}
    (h : (engine.attempt rule knowledge book).result = .ok verdict) :
    verdict = rule.isMatch knowledge := by
  have hends := Rule.ends_attempt engine rule knowledge book
  change (rule.attempt engine knowledge book).result = .ok verdict at h
  generalize rule.attempt engine knowledge book = outcome at h hends
  cases hends with
  | idle hnone =>
    cases h
    simp [Rule.isMatch, hnone]
  | fails e after => cases h
  | refuses after hafter =>
    cases h
    simp [Rule.isMatch, hafter, isMatch]
  | vetoed after hne hafter hveto =>
    rw [approve_of_vetoes_eq_nil hvetoes] at hveto
    cases hveto
  | fires after hne hafter hveto =>
    cases verdict with
    | false => exact absurd h (Rule.fire_result_ne engine rule after book)
    | true => simp [Rule.isMatch, hafter, isMatch, hne]

/-- **Up to the first match a pass over rules is a search of the list**, if there are no vetoes and
no attempt fails.

**Proof sketch.** Induction on the rules.  An attempt at a rule that does not match leaves
everything as it was, so the next rule is attempted on the knowledge from the beginning. -/
theorem firstMatch_eq_find? {rules : List Rule} (hvetoes : engine.hooks.vetoes = [])
    (hspeculative : ∀ rule ∈ rules, ∀ condition ∈ rule.conditions, condition.Speculative)
    (hclosed : knowledge.inTransaction = false)
    (hverdicts : ∀ attempt ∈ engine.attempts true rules knowledge book,
      ∃ verdict, attempt.outcome.result = .ok verdict) :
    (engine.firstMatch rules knowledge book).result =
      .ok (rules.find? fun rule => rule.isMatch knowledge) := by
  induction rules with
  | nil => rfl
  | cons rule rest ih =>
    obtain ⟨hrule, hothers⟩ := List.forall_mem_cons.1 hspeculative
    obtain ⟨verdict, hverdict : (engine.attempt rule knowledge book).result = .ok verdict⟩ :=
      hverdicts _ List.mem_cons_self
    have hmatch := verdict_eq_isMatch hvetoes hverdict
    cases verdict with
    | true =>
      rw [firstMatch_cons_of_decided (by simp [hverdict]),
        List.find?_cons_of_pos (by simp [← hmatch])]
      simp only [hverdict, Except.map]
    | false =>
      have hpassed := visible_attempt_of_unmatched hrule hclosed hverdict
      rw [firstMatch_cons_of_passed hpassed, List.find?_cons_of_neg (by simp [← hmatch])]
      refine ih hothers fun attempt hattempt => hverdicts attempt ?_
      rw [attempts_cons_of_goesOn (by rw [hverdict]; rfl)]
      simp only [Outcome.visible, Prod.mk.injEq] at hpassed
      rw [hpassed.2.1, hpassed.2.2]
      exact List.mem_cons_of_mem _ hattempt

end Engine

/-! ## The elected rule -/

/-- A rule goes before another one: its priority is higher, or it is the same, and the rule has been
loaded earlier. -/
def Rule.GoesBefore (loaded : List String) (rule other : Rule) : Prop :=
  other.priority < rule.priority ∨
    other.priority = rule.priority ∧ loaded.idxOf rule.name < loaded.idxOf other.name

/-- Rules elect the one that matches and goes before all others that do, or none if none matches. -/
inductive RuleBook.Elects (book : RuleBook) (loaded : List String) (knowledge : Knowledge) :
    Option Rule → Prop where
  | none (h : ∀ rule ∈ book.rules, rule.isMatch knowledge = false) :
    Elects book loaded knowledge none
  | some (rule : Rule) (member : rule ∈ book.rules) (matching : rule.isMatch knowledge = true)
      (first : ∀ other ∈ book.rules, other ≠ rule → other.isMatch knowledge = true →
        rule.GoesBefore loaded other) :
    Elects book loaded knowledge (some rule)

/-- The first match of a list in order is elected. -/
lemma RuleBook.elects_find? {book : RuleBook} {loaded : List String} {knowledge : Knowledge}
    (h : book.rules.Pairwise (Rule.GoesBefore loaded)) :
    book.Elects loaded knowledge (book.rules.find? fun rule => rule.isMatch knowledge) := by
  cases hfound : book.rules.find? fun rule => rule.isMatch knowledge with
  | none => exact .none fun rule hrule => by simpa using List.find?_eq_none.1 hfound rule hrule
  | some rule =>
    obtain ⟨hmatch, before, later, hrules, hbefore⟩ := List.find?_eq_some_iff_append.1 hfound
    refine .some rule (hrules ▸ List.mem_append_cons_self) hmatch fun other hother hne hothers => ?_
    rw [hrules] at h hother
    rcases List.mem_append.1 hother with hearlier | hlater
    · exact absurd (hbefore other hearlier) (by simp [hothers])
    · rcases List.mem_cons.1 hlater with rfl | hlater
      · exact absurd rfl hne
      · exact List.rel_of_pairwise_cons (List.pairwise_append.1 h).2.1 hlater

/-- The rules of a book stand in the order in which they go before each other. -/
lemma RuleBook.pairwise_goesBefore {specs : List RuleSpec} {handlers : List String}
    {book : RuleBook}
    (h : List.Forall₂ (fun spec rule => RuleSpec.compile spec .builtins handlers = .ok rule)
      (sortByPriority specs) book.rules) :
    book.rules.Pairwise (Rule.GoesBefore (specs.map RuleSpec.name)) := by
  have hnames : (sortByPriority specs).map RuleSpec.name = book.rules.map Rule.name :=
    map_eq_of_forall₂ h fun _ _ => RuleSpec.name_of_compile
  have hdistinct : (specs.map RuleSpec.name).Nodup := by
    rw [← ((sortByPriority_perm specs).map RuleSpec.name).nodup_iff, hnames]
    exact book.distinct
  refine pairwise_of_forall₂ h (pairwise_position hdistinct) ?_
  intro spec later rule other hrule hother
  rw [RuleSpec.weight_of_compile hrule, RuleSpec.weight_of_compile hother,
    RuleSpec.name_of_compile hrule, RuleSpec.name_of_compile hother]
  exact id

/-- **The priority decides which rule a dispatch ends with.**  The rules of all tables are put in
order by decreasing weight, which is zero where no priority is given, and rules of the same weight
stay as they have been loaded.  Building a book of them ends with a name that comes twice if, and
only if, all rules compile and there is such a name.  And if there is a book, then a dispatch
without vetoes, over knowledge outside of transactions on which no attempt fails, ends with the rule
that the book elects. -/
theorem orderedRules_decide (tables : List LoadedTable) (handlers : List String) :
    let loaded := tables.flatMap fun source => source.table.rules
    let built := RuleSpec.compileAll .builtins handlers (orderedRules tables) >>= RuleBook.ofRules
    ((orderedRules tables).Perm loaded ∧
      (orderedRules tables).Pairwise (fun spec later => later.weight ≤ spec.weight) ∧
      ∀ weight, ((orderedRules tables).filter fun spec => spec.weight = weight) =
        loaded.filter fun spec => spec.weight = weight) ∧
    ((∃ name, built = .error (.duplicateRule name)) ↔
      (∀ spec ∈ loaded, ∃ rule, spec.compile .builtins handlers = .ok rule) ∧
        ¬ (loaded.map RuleSpec.name).Nodup) ∧
    ∀ book, built = .ok book →
      List.Forall₂ (fun spec rule => spec.compile .builtins handlers = .ok rule)
        (orderedRules tables) book.rules ∧
      ∀ dispatcher : Dispatcher, dispatcher.book = book → dispatcher.engine.hooks.vetoes = [] →
        ∀ knowledge : Knowledge, knowledge.inTransaction = false →
          (∀ attempt ∈ dispatcher.engine.attempts true book.rules knowledge book,
            ∃ verdict, attempt.outcome.result = .ok verdict) →
          ∃ answer, (dispatcher.dispatch knowledge).result = .ok answer ∧
            book.Elects (loaded.map RuleSpec.name) knowledge answer := by
  intro loaded built
  have hperm : (orderedRules tables).Perm loaded := sortByPriority_perm loaded
  refine ⟨⟨hperm, pairwise_sortByPriority loaded, filter_sortByPriority loaded⟩, ?_, ?_⟩
  · have hcompiled : (∀ spec ∈ orderedRules tables, ∃ rule,
        spec.compile .builtins handlers = .ok rule) ↔
        ∀ spec ∈ loaded, ∃ rule, spec.compile .builtins handlers = .ok rule :=
      forall_congr' fun spec => imp_congr_left hperm.mem_iff
    rw [← hcompiled, ← (hperm.map RuleSpec.name).nodup_iff]
    exact RuleSpec.duplicate_iff
  · intro book hbuilt
    obtain ⟨rules, hcompiled, hbook⟩ := bind_eq_ok.1 hbuilt
    rw [← RuleBook.ofRules_eq_ok.1 hbook, RuleSpec.compileAll_eq_ok] at hcompiled
    refine ⟨hcompiled, ?_⟩
    rintro dispatcher rfl hvetoes knowledge hclosed hverdicts
    have hspeculative : ∀ rule ∈ dispatcher.book.rules,
        ∀ condition ∈ rule.conditions, condition.Speculative := by
      intro rule hrule condition hcondition
      obtain ⟨spec, -, hspec⟩ := exists_mem_of_forall₂ hcompiled.flip hrule
      exact (RuleSpec.native_of_compile hspec condition hcondition).speculative
    exact ⟨_, Engine.firstMatch_eq_find? hvetoes hspeculative hclosed hverdicts,
      RuleBook.elects_find? (RuleBook.pairwise_goesBefore hcompiled)⟩

/-! ## Five rules in two tables -/

/-- A rule for a method, with a priority. -/
def methodRule (name method : String) (priority : Option Int) : RuleSpec :=
  ⟨name, none, priority, [⟨"request", .ofList [("method", .string method)]⟩], []⟩

/-- Two tables.  The rule of the greatest priority is for another method, and that of the least one
comes first; the others have none, or zero. -/
def deskTables : List LoadedTable := [
  ⟨"front.toml", none, [methodRule "last" "GET" (some (-9223372036854775808)),
    methodRule "early" "GET" none]⟩,
  ⟨"back.toml", none, [methodRule "late" "GET" (some 0),
    methodRule "top" "POST" (some 9223372036854775807), methodRule "later" "GET" none]⟩]

/-- The rules of the desk in their order. -/
def deskRules : List RuleSpec := [methodRule "top" "POST" (some 9223372036854775807),
  methodRule "early" "GET" none, methodRule "late" "GET" (some 0), methodRule "later" "GET" none,
  methodRule "last" "GET" (some (-9223372036854775808))]

/-- They are put in this order. -/
lemma orderedRules_deskTables : orderedRules deskTables = deskRules := by
  simp [orderedRules, deskTables, deskRules, sortByPriority, List.mergeSort, methodRule,
    RuleSpec.weight]

/-- A dispatcher over some book, without handlers and hooks. -/
def plainDispatcher (book : RuleBook) : Dispatcher := ⟨book, ⟨.empty, .empty, true⟩, .first⟩

/-- The rules make a book, and nothing fails when it is dispatched. -/
lemma runs_deskRules :
    (RuleSpec.compileAll .builtins [] deskRules >>= RuleBook.ofRules).toOption.any fun book =>
      let knowledge := Knowledge.forRequest "GET" "/"
      ((plainDispatcher book).engine.attempts true book.rules knowledge book).all
        (fun attempt => attempt.outcome.result.toOption.isSome) &&
      ((plainDispatcher book).dispatch knowledge).result.toOption.any
        fun answer => decide (answer.map Rule.name = some "early") := by
  decide +kernel

/-- All rules of the tables compile, also if each is there twice. -/
lemma compiles_deskTables : ((deskTables ++ deskTables).flatMap fun source =>
    source.table.rules).all fun spec => (spec.compile .builtins []).toOption.isSome := by
  decide +kernel

/-- Of the three rules with the same priority, which match, the first one is elected; and a name
that comes twice is reported. -/
theorem orderedRules_decide_desk :
    let knowledge := Knowledge.forRequest "GET" "/"
    (∃ book rule, RuleSpec.compileAll .builtins [] (orderedRules deskTables) >>= RuleBook.ofRules =
        .ok book ∧ ((plainDispatcher book).dispatch knowledge).result = .ok (some rule) ∧
      rule.name = "early" ∧
      book.Elects ["last", "early", "late", "top", "later"] knowledge (some rule)) ∧
    ∃ name, RuleSpec.compileAll .builtins [] (orderedRules (deskTables ++ deskTables)) >>=
      RuleBook.ofRules = .error (.duplicateRule name) := by
  intro knowledge
  constructor
  · obtain ⟨book, hbook, hholds⟩ := exists_of_any runs_deskRules
    simp only [Bool.and_eq_true] at hholds
    obtain ⟨answer, hanswer, hname⟩ := exists_of_any hholds.2
    obtain ⟨rule, rfl, hrule⟩ := Option.map_eq_some_iff.1 (of_decide_eq_true hname)
    rw [← orderedRules_deskTables] at hbook
    obtain ⟨-, helects⟩ := (orderedRules_decide deskTables []).2.2 book hbook
    obtain ⟨answer, hsame, helected⟩ := helects (plainDispatcher book) rfl rfl knowledge rfl
      fun attempt hattempt => exists_ok_of_isSome (List.all_eq_true.1 hholds.1 attempt hattempt)
    cases hsame.symm.trans hanswer
    exact ⟨book, rule, hbook, hanswer, hrule, helected⟩
  · have hcompiled := List.all_eq_true.1 compiles_deskTables
    exact (orderedRules_decide (deskTables ++ deskTables) []).2.1.2
      ⟨fun spec hspec => exists_ok_of_isSome (hcompiled spec hspec), by decide⟩

end RequestRouting
