import RequestRouting.Proofs.Rule.Failure
import RequestRouting.Proofs.Toml.Statements
import RequestRouting.Proofs.Url.Written
import RequestRouting.Rule.Source

/-!
# Checking patterns early

When a rule table is read, the regular expressions of its rules are collected and compiled, and the
table is refused if one of them is rejected.  The conditions of the rules compile theirs again, much
later, when they are built.  The two walk through the options in ways of their own; but no pattern
of the options is compiled later that has not been checked before, so no rule of a table fails over
one.

The path of a request condition is no such pattern.  A regular expression is made of it when the
condition is built, and this one may be too large.

## Main definitions

* `RuleError.OverPattern` — an error is about a regular expression.
* `pathRuleText`, `pathRule` — a rule whose only condition is on the path of a request.

## Main results

* `RuleSpec.compile_congr` — what a rule is compiled to depends on what is made of its patterns, and
  of no others.
* `RuleSpec.eq_of_overPattern` — no rule fails over a pattern of its options if these are accepted.
* `RuleTable.checked_of_ofText` — so no rule of a table does that has been read.
* `RuleTable.not_checked_of_ofText` — but one may fail over the path of a request.
-/

set_option autoImplicit false

namespace RequestRouting

/-- An error is about a regular expression: one that the options of a condition have, or the one
that is made of a URL pattern. -/
inductive RuleError.OverPattern : RuleError → Prop where
  | pattern (cause : Regex.Error) : OverPattern (.invalidPattern cause)
  | option (kind key : String) (cause : Regex.Error) :
    OverPattern (.invalidCondition kind (.badRegex key cause))
  | tooLong (path pattern : String) : OverPattern (.load path (.patternTooLong pattern))
  | load (path : String) (cause : Regex.Error) : OverPattern (.load path (.badPattern cause))
  | path (kind : String) : OverPattern (.invalidCondition kind (.badPath .matcherTooLarge))
  | url : OverPattern (.url .matcherTooLarge)

/-- If no pattern is rejected, a rule can fail to be built over a regular expression only if it is
made of the path of a request. -/
lemma RuleError.OfRule.eq_of_overPattern {rejected : Prop} {e : RuleError} (h : e.OfRule rejected)
    (hnone : ¬ rejected) (hover : e.OverPattern) :
    e = .invalidCondition RequestCondition.kind (.badPath .matcherTooLarge) := by
  cases hover with
  | option kind key cause =>
    cases h with
    | condition h =>
      cases h with
      | invalid _ _ hregex => cases hregex
      | pattern _ _ _ hrejected => exact absurd hrejected hnone
  | path kind =>
    cases h with
    | condition h =>
      cases h with
      | invalid _ _ hregex => cases hregex
      | matcher => rfl
  | pattern | tooLong | load | url =>
    cases h with
    | condition h => cases h

/-! ## What is checked -/

/-- A pattern that has been checked compiles. -/
lemma checkPattern_eq_ok {pattern : String} (h : checkPattern pattern = .ok ()) :
    ∃ regex, Regex.compile pattern = .ok regex := by
  unfold checkPattern at h
  split_ifs at h
  split at h
  · next regex hregex => exact ⟨regex, hregex⟩
  · cases h

/-- So do all patterns that have been checked. -/
lemma compile_of_checkPatterns {patterns : List String} (h : checkPatterns patterns = .ok ()) :
    ∀ pattern ∈ patterns, ∃ regex, Regex.compile pattern = .ok regex := by
  induction patterns with
  | nil => exact List.forall_mem_nil _
  | cons pattern rest ih =>
    unfold checkPatterns at h
    split at h
    · next hfirst => exact List.forall_mem_cons.2 ⟨checkPattern_eq_ok hfirst, ih h⟩
    · cases h

/-- All patterns of a table have been checked when it has been read. -/
lemma RuleTable.compile_of_ofText {text : String} {table : RuleTable}
    (h : RuleTable.ofText text = .ok table) {spec : RuleSpec} (hspec : spec ∈ table.rules) :
    ∀ pattern ∈ spec.regexPatterns, ∃ regex, Regex.compile pattern = .ok regex := by
  unfold ofText at h
  split at h
  · cases h
  · split at h
    · next hchecked =>
      cases h
      exact fun pattern hpattern => compile_of_checkPatterns hchecked pattern
        (List.mem_flatMap.2 ⟨spec, hspec, hpattern⟩)
    · cases h

/-! ## What is compiled -/

namespace RuleSpec

variable {spec : RuleSpec} {handlers : List String}

/-- The patterns of the options of a condition are among those of the rule. -/
lemma mem_regexPatterns {condition : ConditionSpec} (hcondition : condition ∈ spec.conditions)
    {pattern : String} (h : pattern ∈ kindPatterns condition.kind condition.options.entries) :
    pattern ∈ spec.regexPatterns :=
  List.mem_flatMap.2 ⟨condition, hcondition, h⟩

/-- **Compilers that agree on the patterns of a rule make the same rule of it.** -/
theorem compile_congr {first second : Regex.Compiler}
    (h : ∀ pattern ∈ spec.regexPatterns, first pattern = second pattern) :
    spec.compile (.builtinsWith first) handlers = spec.compile (.builtinsWith second) handlers := by
  have hconditions : (spec.conditions.mapM fun condition =>
      (ConditionRegistry.builtinsWith first).construct condition.kind condition.options.entries) =
      spec.conditions.mapM fun condition =>
        (ConditionRegistry.builtinsWith second).construct condition.kind
          condition.options.entries :=
    mapM_congr fun condition hcondition =>
      ConditionRegistry.construct_congr fun pattern hpattern =>
        h pattern (mem_regexPatterns hcondition hpattern)
  rw [compile, compile, buildConditions_eq_mapM, buildConditions_eq_mapM, hconditions]

/-- **A rule does not fail over a pattern of its options if all these patterns are accepted.**

**Proof sketch.** Instead of the compiler one may take another one, which accepts whatever is not a
pattern of the rule; and a compiler that rejects nothing leaves no such error. -/
theorem eq_of_overPattern {compiler : Regex.Compiler}
    (h : ∀ pattern ∈ spec.regexPatterns, ∃ regex, compiler pattern = .ok regex) {e : RuleError}
    (he : spec.compile (.builtinsWith compiler) handlers = .error e) (hover : e.OverPattern) :
    e = .invalidCondition RequestCondition.kind (.badPath .matcherTooLarge) := by
  let lenient : Regex.Compiler := fun pattern =>
    if pattern ∈ spec.regexPatterns then compiler pattern else .ok default
  have hagree : ∀ pattern ∈ spec.regexPatterns, compiler pattern = lenient pattern :=
    fun pattern hpattern => (if_pos hpattern).symm
  have hlenient : ¬ lenient.Rejects := by
    rintro ⟨pattern, cause, hcause⟩
    by_cases hpattern : pattern ∈ spec.regexPatterns
    · obtain ⟨regex, hregex⟩ := h pattern hpattern
      rw [← hagree pattern hpattern, hregex] at hcause
      cases hcause
    · cases (if_neg hpattern).symm.trans hcause
  rw [compile_congr hagree] at he
  exact (ofRule_of_compile he).eq_of_overPattern hlenient hover

end RuleSpec

/-! ## Rules about the path of a request -/

section PathRule

open Toml

variable (path : String)

/-- A list of one rule, whose only condition is on the path of a request. -/
def pathRuleValue : String :=
  "[\x7bname='page',conditions=[\x7btype='request',path=" ++ writeText path ++
    String.singleton '\x7d' ++ "],actions=[\x7bhandler='go'\x7d]\x7d]"

/-- A table with such a rule. -/
def pathRuleText : String := writeLine "rules" (pathRuleValue path)

/-- The rule. -/
def pathRule : RuleSpec where
  name := "page"
  description := none
  priority := none
  conditions := [⟨RequestCondition.kind, .ofList [("path", .string path)]⟩]
  actions := [⟨some "go", none, none, none⟩]

/-- The rule as a value of a document. -/
def pathRuleNode : Node :=
  .table [("actions", .array [.table [("handler", .text "go")]]),
    ("conditions", .array [.table [("path", .text path), ("type", .text "request")]]),
    ("name", .text "page")]

/-- The tokens in front of the path. -/
def tokensBeforePath : List Token :=
  [.openBracket, .openBrace, .word "name".toList, .equals, .text "page" false, .comma,
    .word "conditions".toList, .equals, .openBracket, .openBrace, .word "type".toList, .equals,
    .text "request" false, .comma, .word "path".toList, .equals]

/-- The tokens behind it. -/
def tokensAfterPath : List Token :=
  [.closeBrace, .closeBracket, .comma, .word "actions".toList, .equals, .openBracket, .openBrace,
    .word "handler".toList, .equals, .text "go" false, .closeBrace, .closeBracket, .closeBrace,
    .closeBracket]

/-- Whatever the path is, the rule spells its tokens. -/
lemma spells_pathRuleValue : Toml.Spells (pathRuleValue path).toList
    (tokensBeforePath ++ valueToken path :: tokensAfterPath) := by
  have hbefore : Toml.Spells "[\x7bname='page',conditions=[\x7btype='request',path=".toList
      tokensBeforePath := by rfl
  have hafter : Toml.Spells ('\x7d' :: "],actions=[\x7bhandler='go'\x7d]\x7d]".toList)
      tokensAfterPath := by rfl
  exact hbefore.writeText path hafter (by decide) (by decide)

/-- Whatever the path is, the tokens are read as the rule. -/
lemma readsAs_pathRule :
    ReadsAs (tokensBeforePath ++ valueToken path :: tokensAfterPath)
      (.array [pathRuleNode path]) := by
  intro rest fuel hfuel
  obtain ⟨fuel, rfl⟩ := Nat.exists_eq_add_of_le' hfuel
  have hcondition (fuel : Nat) (rest : List Token) :
      readValue? (fuel + 4) (.openBrace :: .word "type".toList :: .equals ::
        .text "request" false :: .comma :: .word "path".toList :: .equals :: valueToken path ::
        .closeBrace :: rest) =
      some (.table [("path", .text path), ("type", .text "request")], rest) := by
    refine readValue?_table (readPairs?_cons (by decide) rfl rfl
      (readPairs?_last (by decide) rfl (readValue?_valueToken path _ (by omega)))) ?_
    simp only [inlineTable?, assignAll?, List.foldlM_cons, List.foldlM_nil]
    rfl
  have haction (fuel : Nat) (rest : List Token) :
      readValue? (fuel + 3) (.openBrace :: .word "handler".toList :: .equals ::
        .text "go" false :: .closeBrace :: rest) = some (.table [("handler", .text "go")], rest) :=
    readValue?_table (readPairs?_last (by decide) rfl rfl) rfl
  refine readValue?_tables (readValue?_table (readPairs?_cons (by decide) rfl rfl
    (readPairs?_cons (by decide) rfl (readValue?_tables (hcondition _ _))
      (readPairs?_last (by decide) rfl (readValue?_tables (haction _ _))))) ?_)
  simp only [inlineTable?, assignAll?, List.foldlM_cons, List.foldlM_nil]
  rfl

/-- The list is written as a value. -/
lemma writes_pathRuleValue : Writes (pathRuleValue path) (.array [pathRuleNode path]) where
  exists_tokens := ⟨_, (spells_pathRuleValue path).before '\n', readsAs_pathRule path⟩
  exists_first := ⟨'[', head?_toList_append <| head?_toList_append <| head?_toList_append rfl, rfl⟩

/-- **Whatever the path is, the table is read**, since it has no patterns that are checked. -/
theorem RuleTable.ofText_pathRuleText :
    RuleTable.ofText (pathRuleText path) = .ok ⟨none, [pathRule path]⟩ := by
  have hfirst : (pathRuleText path).toList.head? = some 'r' :=
    head?_toList_append <| head?_toList_append <| head?_toList_append rfl
  have hmark : (pathRuleText path).toList.head? ≠ some '\uFEFF' := by
    rw [hfirst]
    decide
  have hparse := (states_writeLine "rules" (by decide) (writes_pathRuleValue path)).parse?_eq hmark
  have htable : (build? [⟨[], "rules", .array [pathRuleNode path]⟩] []).bind
      (RuleTable.ofNode? .toml) = some ⟨none, [pathRule path]⟩ := rfl
  have hread : (parse? (pathRuleText path)).bind (RuleTable.ofNode? .toml) =
      some ⟨none, [pathRule path]⟩ := by
    rw [pathRuleText, hparse]
    exact htable
  have hchecked : checkPatterns ([pathRule path].flatMap RuleSpec.regexPatterns) = .ok () := rfl
  rw [ofText, hread]
  dsimp only
  rw [hchecked]

/-- A path that does not compile makes no condition. -/
lemma RequestCondition.ofOptions_path_eq_error {cause : UrlError}
    (h : Template.compile path = .error cause) :
    RequestCondition.ofOptions [("path", .string path)] =
      .error (.invalidCondition RequestCondition.kind (.badPath cause)) := by
  have hmethods : (Options.takeStrings "method").run ⟨kind, [("path", .string path)]⟩ =
      (.ok none, ⟨kind, [("path", .string path)]⟩) := rfl
  have hnone : (readMethods none).run ⟨kind, [("path", .string path)]⟩ =
      (.ok [], ⟨kind, [("path", .string path)]⟩) := rfl
  have hpath : (Options.takeString "path").run ⟨kind, [("path", .string path)]⟩ =
      (.ok (some path), ⟨kind, []⟩) := rfl
  have hread : (readPath (some path)).run ⟨kind, []⟩ =
      (.error (.invalidCondition kind (.badPath cause)), ⟨kind, []⟩) := by
    rw [readPath, h]
    rfl
  rw [ofOptions, Options.build, builder, OptionM.run_bind, hmethods]
  dsimp only
  rw [OptionM.run_bind, hnone]
  dsimp only
  rw [OptionM.run_bind, hpath]
  dsimp only
  rw [OptionM.run_bind, hread]

/-- **But if the path does not compile, the rule does not either.** -/
theorem RuleSpec.compile_pathRule {cause : UrlError} (h : Template.compile path = .error cause)
    (handlers : List String) : (pathRule path).compile .builtins handlers =
      .error (.invalidCondition RequestCondition.kind (.badPath cause)) := by
  have hconstruct : ConditionRegistry.builtins.construct RequestCondition.kind
      [("path", .string path)] =
        .error (.invalidCondition RequestCondition.kind (.badPath cause)) := by
    rw [← ConditionRegistry.builtinsWith_compile, ConditionRegistry.construct,
      ConditionRegistry.constructWith_builtinsWith, if_neg (by decide), if_neg (by decide),
      if_neg (by decide), if_neg (by decide), if_pos rfl,
      RequestCondition.ofOptions_path_eq_error path h]
    rfl
  have hconditions : buildConditions .builtins (pathRule path).conditions =
      .error (.invalidCondition RequestCondition.kind (.badPath cause)) :=
    congrArg (· >>= _) hconstruct
  rw [RuleSpec.compile, hconditions]
  rfl

end PathRule

/-- A path of placeholders and nothing else. -/
def placeholdersPath (n : Nat) : String :=
  String.ofList ((List.replicate n "\x7ba\x7d".toList).flatten)

/-- A path of too many placeholders does not compile. -/
lemma compile_placeholdersPath {n : Nat} (h : maxMatcherSize < 1040 * n) :
    Template.compile (placeholdersPath n) = .error .matcherTooLarge := by
  let piece := Template.Piece.placeholder ⟨["a"]⟩
  have hproper : ∀ other ∈ List.replicate n piece, other.Proper := by
    intro other hother
    rw [List.eq_of_mem_replicate hother]
    exact (by decide : PropertyPath.Spelled ⟨["a"]⟩)
  refine Template.compile_eq_matcherTooLarge hproper ?_ ?_
  · rw [placeholdersPath, String.toList_ofList, List.flatMap, List.map_replicate]
    rfl
  · have hpath : piece.path? = some ⟨["a"]⟩ := rfl
    rw [List.filterMap_replicate_of_some hpath, List.length_replicate]
    exact h

/-! ## Tables that have been read -/

/-- **No rule of a table that has been read fails over a pattern of its options.**  All patterns of
its conditions, nested ones included, have been accepted; whatever else a compiler might make of
other texts, the rule comes to the same; and if the rule cannot be built over a regular expression,
that is the one made of the path of a request condition, which is too large. -/
theorem RuleTable.checked_of_ofText {text : String} {table : RuleTable}
    (h : RuleTable.ofText text = .ok table) {spec : RuleSpec} (hspec : spec ∈ table.rules) :
    (∀ pattern ∈ spec.regexPatterns, ∃ regex, Regex.compile pattern = .ok regex) ∧
      ∀ handlers : List String,
        (∀ compiler : Regex.Compiler,
          (∀ pattern ∈ spec.regexPatterns, compiler pattern = Regex.compile pattern) →
          spec.compile (.builtinsWith compiler) handlers = spec.compile .builtins handlers) ∧
        ∀ e, spec.compile .builtins handlers = .error e → e.OverPattern →
          e = .invalidCondition RequestCondition.kind (.badPath .matcherTooLarge) := by
  have haccepted := compile_of_ofText h hspec
  refine ⟨haccepted, fun handlers => ⟨fun compiler hagree => ?_, fun e he hover => ?_⟩⟩
  · rw [← ConditionRegistry.builtinsWith_compile]
    exact RuleSpec.compile_congr hagree
  · rw [← ConditionRegistry.builtinsWith_compile] at he
    exact RuleSpec.eq_of_overPattern haccepted he hover

/-- A table with a rule whose conditions have patterns on two levels. -/
def passageText : String :=
  "rules=[\x7bname='pass',conditions=[\x7btype='bool',conditions=[\x7btype='url_path'," ++
    "'chunk[0]'='^a'\x7d,\x7btype='bool',conditions=[\x7btype='url_params',name='p'," ++
    "operator='regexp',value='b'\x7d]\x7d]\x7d],actions=[\x7bhandler='go'\x7d]\x7d]"

/-- The table can be read, and its rule has both patterns.  It can be built if its handler is
there. -/
lemma reads_passageText : (RuleTable.ofText passageText).toOption.any fun table =>
    table.rules.any fun spec => decide (spec.regexPatterns = ["^a", "b"]) &&
      (spec.compile .builtins ["go"]).toOption.isSome &&
      (spec.compile .builtins []).toOption.isNone := by
  decide +kernel

/-- The patterns of the rule compile, and if it is not built, that is for want of a handler. -/
theorem RuleTable.checked_of_ofText_passage :
    ∃ table spec, RuleTable.ofText passageText = .ok table ∧ spec ∈ table.rules ∧
      spec.regexPatterns = ["^a", "b"] ∧
      (∀ pattern ∈ ["^a", "b"], ∃ regex, Regex.compile pattern = .ok regex) ∧
      (∃ rule, spec.compile .builtins ["go"] = .ok rule) ∧
      ∃ e, spec.compile .builtins [] = .error e ∧ (e.OverPattern →
        e = .invalidCondition RequestCondition.kind (.badPath .matcherTooLarge)) := by
  obtain ⟨table, htable, hrules⟩ := exists_of_any reads_passageText
  obtain ⟨spec, hspec, hholds⟩ := List.any_eq_true.1 hrules
  simp only [Bool.and_eq_true, decide_eq_true_eq] at hholds
  obtain ⟨⟨hpatterns, hsome⟩, hnone⟩ := hholds
  obtain ⟨haccepted, hcompiled⟩ := checked_of_ofText htable hspec
  refine ⟨table, spec, htable, hspec, hpatterns, hpatterns ▸ haccepted,
    exists_ok_of_isSome hsome, ?_⟩
  cases hrule : spec.compile .builtins [] with
  | ok rule => simp [hrule, Except.toOption] at hnone
  | error e => exact ⟨e, rfl, (hcompiled []).2 e hrule⟩

/-- **But a rule of a table that has been read may fail over the path of a request**: twenty
thousand placeholders make a regular expression that is too large, and nothing has checked it. -/
theorem RuleTable.not_checked_of_ofText :
    ∃ table spec, RuleTable.ofText (pathRuleText (placeholdersPath 20000)) = .ok table ∧
      spec ∈ table.rules ∧ spec.regexPatterns = [] ∧
      ∃ e, spec.compile .builtins ["go"] = .error e ∧ e.OverPattern := by
  have hcompile : Template.compile (placeholdersPath 20000) = .error .matcherTooLarge :=
    compile_placeholdersPath (by decide)
  exact ⟨_, _, ofText_pathRuleText _, List.mem_singleton_self _, rfl, _,
    RuleSpec.compile_pathRule _ hcompile ["go"], .path _⟩

end RequestRouting
