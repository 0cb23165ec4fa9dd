import RequestRouting.Proofs.Condition.Compiler
import RequestRouting.Proofs.Rule.Compilation

/-!
# How rules fail to be built

Building a rule has few ways to fail: a type of conditions is unknown, the options of a condition
are wrong, a handler is unknown, or an action is wrong.  The options of a condition are wrong for a
regular expression only if the compiler has rejected one, or if the condition is one on a request
and the expression that is made of its path is too large.

## Main definitions

* `OptionFault.isRegex` — whether options are wrong for a regular expression.
* `OptionM.FailsWith` — whatever a builder fails with, over the options of a kind, has a property.
* `RuleError.OfCondition`, `RuleError.OfRule` — the errors with which a condition and a rule can
  fail to be built.

## Main results

* `ConditionRegistry.ofCondition_of_construct` — a condition fails to be built with no other errors.
* `RuleSpec.ofRule_of_compile` — neither does a rule.
-/

set_option autoImplicit false

namespace RequestRouting

/-! ## Errors -/

/-- Whether options are wrong for a regular expression: one of their own, or the one that is made of
a path. -/
def OptionFault.isRegex : OptionFault → Bool
  | .badRegex _ _ => true
  | .badPath cause => cause = .matcherTooLarge
  | _ => false

/-- The errors with which a condition can fail to be built, where a pattern is at fault only if one
is rejected.  What is made of the path of a request may be too large in any case. -/
inductive RuleError.OfCondition (rejected : Prop) : RuleError → Prop where
  | unknown (tag : String) : OfCondition rejected (.unknownConditionType tag)
  | invalid (kind : String) (fault : OptionFault) (h : fault.isRegex = false) :
    OfCondition rejected (.invalidCondition kind fault)
  | pattern (kind key : String) (cause : Regex.Error) (h : rejected) :
    OfCondition rejected (.invalidCondition kind (.badRegex key cause))
  | matcher : OfCondition rejected (.invalidCondition RequestCondition.kind
      (.badPath .matcherTooLarge))

/-- The errors with which a rule can fail to be built. -/
inductive RuleError.OfRule (rejected : Prop) : RuleError → Prop where
  | condition {e : RuleError} (h : e.OfCondition rejected) : OfRule rejected e
  | unknownHandler (name : String) : OfRule rejected (.unknownHandler name)
  | invalidAction (rule : String) (fault : ActionFault) :
    OfRule rejected (.invalidAction rule fault)

/-- Whatever a builder fails with, over whichever options of a kind, has a property; and the kind
stays as it is. -/
def OptionM.FailsWith {α : Type} (builder : OptionM α) (kind : String)
    (property : RuleError → Prop) : Prop :=
  ∀ fields, (builder.run ⟨kind, fields⟩).2.kind = kind ∧
    ∀ e, (builder.run ⟨kind, fields⟩).1 = .error e → property e

namespace OptionM.FailsWith

variable {α β : Type} {kind : String} {property : RuleError → Prop}

/-- What is returned at once does not fail. -/
lemma pure {value : α} : OptionM.FailsWith (Pure.pure value) kind property :=
  fun _ => ⟨rfl, nofun⟩

/-- A failure fails with its error. -/
lemma throw {e : RuleError} (h : property e) :
    OptionM.FailsWith (MonadExcept.throw e : OptionM α) kind property := by
  refine fun fields => ⟨rfl, fun other hother => ?_⟩
  cases hother
  exact h

/-- **Two steps.**  Either of them may fail. -/
theorem bind {first : OptionM α} {second : α → OptionM β} (hfirst : first.FailsWith kind property)
    (hsecond : ∀ value, (second value).FailsWith kind property) :
    OptionM.FailsWith (first >>= second) kind property := by
  intro fields
  obtain ⟨hkind, herror⟩ := hfirst fields
  rw [run_bind]
  cases hrun : first.run ⟨kind, fields⟩ with
  | mk result later =>
    rw [hrun] at hkind herror
    obtain rfl : later.kind = kind := hkind
    cases result with
    | error other =>
      refine ⟨rfl, fun e he => ?_⟩
      cases he
      exact herror other rfl
    | ok value => exact hsecond value later.fields

end OptionM.FailsWith

/-! ## Options -/

namespace Options

open RuleError OptionM

variable {kind : String} {rejected : Prop}

/-- A fault of the options. -/
lemma failsWith_fault {α : Type} {fault : OptionFault}
    (h : OfCondition rejected (.invalidCondition kind fault)) :
    (invalid fault : OptionM α).FailsWith kind (OfCondition rejected) := by
  refine fun fields => ⟨rfl, fun e he => ?_⟩
  cases he
  exact h

/-- A fault that is not about a pattern. -/
lemma failsWith_invalid {α : Type} {fault : OptionFault} (h : fault.isRegex = false) :
    (invalid fault : OptionM α).FailsWith kind (OfCondition rejected) :=
  failsWith_fault (.invalid _ _ h)

/-- A check in front of what comes next. -/
lemma failsWith_unless {α : Type} {fault : OptionFault} {next : Unit → OptionM α} {check : Prop}
    [Decidable check] (h : fault.isRegex = false)
    (hnext : (next ()).FailsWith kind (OfCondition rejected)) :
    OptionM.FailsWith (if check then invalid fault >>= next else next ()) kind
      (OfCondition rejected) := by
  split
  · exact .bind (failsWith_invalid h) fun _ => hnext
  · exact hnext

/-- Taking an option does not fail. -/
lemma failsWith_take (key : String) : (take key).FailsWith kind (OfCondition rejected) :=
  fun _ => ⟨rfl, nofun⟩

/-- Taking options by a test does not fail. -/
lemma failsWith_takeMatching (test : String → Bool) :
    (takeMatching test).FailsWith kind (OfCondition rejected) :=
  fun _ => ⟨rfl, nofun⟩

/-- Taking a string. -/
lemma failsWith_takeString (key : String) :
    (takeString key).FailsWith kind (OfCondition rejected) := by
  refine .bind (failsWith_take key) fun found => ?_
  split
  · exact .pure
  · exact .pure
  · exact failsWith_invalid rfl

/-- Taking a mandatory string. -/
lemma failsWith_requireString (key : String) :
    (requireString key).FailsWith kind (OfCondition rejected) := by
  refine .bind (failsWith_takeString key) fun found => ?_
  cases found with
  | none => exact failsWith_invalid rfl
  | some text => exact .pure

/-- Taking strings. -/
lemma failsWith_takeStrings (key : String) :
    (takeStrings key).FailsWith kind (OfCondition rejected) := by
  refine .bind (failsWith_take key) fun found => ?_
  split
  · exact .pure
  · exact .pure
  · split
    · exact .pure
    · exact failsWith_invalid rfl
  · exact failsWith_invalid rfl

/-- There must be no options left. -/
lemma failsWith_finish : finish.FailsWith kind (OfCondition rejected) := by
  intro fields
  have hrun : finish.run ⟨kind, fields⟩ = (if fields.isEmpty then Pure.pure ()
      else invalid (.unknownOptions (fields.map Prod.fst)) : OptionM Unit).run ⟨kind, fields⟩ := rfl
  rw [hrun]
  split
  · exact ⟨rfl, nofun⟩
  · exact failsWith_invalid rfl fields

end Options

/-! ## Conditions -/

section Conditions

open RuleError OptionM Options

/-- Whether a compiler rejects some pattern. -/
def Regex.Compiler.Rejects (compiler : Regex.Compiler) : Prop :=
  ∃ pattern cause, compiler pattern = .error cause

variable {compiler : Regex.Compiler} {kind : String}

namespace UrlPathCondition

/-- A pattern that does not compile is rejected. -/
lemma failsWith_compileOptionWith (key pattern : String) :
    (compileOptionWith compiler key pattern).FailsWith kind (OfCondition compiler.Rejects) := by
  unfold compileOptionWith
  split
  · exact .pure
  · next cause hcause => exact failsWith_fault (.pattern _ _ _ ⟨pattern, cause, hcause⟩)

/-- The patterns of chunks. -/
lemma failsWith_readChunksWith (chunks : List (Int × Regex.Compiled))
    (fields : List (String × Json)) :
    (readChunksWith compiler chunks fields).FailsWith kind (OfCondition compiler.Rejects) := by
  induction fields generalizing chunks with
  | nil => exact .pure
  | cons field rest ih =>
    unfold readChunksWith
    split
    · exact failsWith_invalid rfl
    · split
      · exact .bind (failsWith_compileOptionWith _ _) fun regex => ih _
      · exact failsWith_invalid rfl

/-- The options of a path condition. -/
lemma failsWith_builderWith :
    (builderWith compiler).FailsWith kind (OfCondition compiler.Rejects) := by
  refine .bind (failsWith_takeString _) fun text => .bind ?_ fun source => ?_
  · unfold readSource
    split
    · exact .pure
    · split_ifs
      · exact .pure
      · exact .pure
      · exact failsWith_invalid rfl
  refine .bind (failsWith_takeString _) fun text => .bind ?_ fun delimiter => ?_
  · unfold readDelimiter
    split
    · exact .pure
    · split_ifs
      · exact failsWith_invalid rfl
      · exact .pure
  refine .bind (failsWith_takeString _) fun text => .bind ?_ fun pattern => ?_
  · cases text with
    | none => exact .pure
    | some pattern => exact .bind (failsWith_compileOptionWith _ _) fun regex => .pure
  refine .bind (failsWith_takeMatching _) fun taken =>
    .bind (failsWith_readChunksWith _ _) fun chunks => ?_
  exact failsWith_unless rfl (.bind failsWith_finish fun _ => .pure)

end UrlPathCondition

/-- The options of a parameter condition. -/
lemma UrlParamsCondition.failsWith_builderWith :
    (builderWith compiler).FailsWith kind (OfCondition compiler.Rejects) := by
  refine .bind (failsWith_requireString _) fun name =>
    .bind (failsWith_takeString _) fun text => .bind ?_ fun scope => ?_
  · unfold readScope
    split
    · exact .pure
    · split
      · exact .pure
      · exact failsWith_invalid rfl
  refine .bind (failsWith_takeString _) fun text => .bind ?_ fun operator =>
    .bind failsWith_finish fun _ => .pure
  unfold readOperatorWith
  split_ifs
  · exact .pure
  · exact .pure
  · refine .bind (failsWith_take _) fun found => ?_
    split
    · split_ifs
      · exact failsWith_invalid rfl
      · exact .pure
    · exact failsWith_invalid rfl
  · exact .bind (failsWith_requireString _) fun pattern =>
      .bind (UrlPathCondition.failsWith_compileOptionWith _ _) fun regex => .pure
  · exact failsWith_invalid rfl

variable {rejected : Prop}

/-- The options of an authentication condition. -/
lemma AuthenticationCondition.failsWith_builder :
    builder.FailsWith kind (OfCondition rejected) := by
  refine .bind (failsWith_takeString _) fun text => .bind ?_ fun condition =>
    .bind failsWith_finish fun _ => .pure
  unfold readOperator
  split_ifs
  · exact .bind (failsWith_requireString _) fun name => .pure
  · exact .bind (failsWith_requireString _) fun name => .pure
  · exact .pure
  · exact failsWith_invalid rfl

/-- The options of a request condition. -/
lemma RequestCondition.failsWith_builder :
    builder.FailsWith RequestCondition.kind (OfCondition rejected) := by
  refine .bind (failsWith_takeStrings _) fun names => .bind ?_ fun methods => ?_
  · unfold readMethods
    split
    · exact .pure
    · split_ifs
      · exact failsWith_invalid rfl
      · exact .pure
  refine .bind (failsWith_takeString _) fun text => .bind ?_ fun path => ?_
  · unfold readPath
    split
    · exact .pure
    · split
      · exact .pure
      · next cause _ =>
        obtain rfl | hcause := eq_or_ne cause .matcherTooLarge
        · exact failsWith_fault .matcher
        · exact failsWith_invalid (decide_eq_false hcause)
  exact failsWith_unless rfl (.bind failsWith_finish fun _ => .pure)

/-- The parts of a Boolean condition. -/
lemma failsWith_buildParts {construct : Table → Except RuleError Condition}
    (h : ∀ table e, construct table = .error e → e.OfCondition rejected) (items : List Json) :
    (buildParts construct items).FailsWith kind (OfCondition rejected) := by
  fun_induction buildParts construct items with
  | case1 => exact .pure
  | case2 table rest e he => exact .throw (h table e he)
  | case3 table rest condition _ ih => exact .bind ih fun conditions => .pure
  | case4 => exact failsWith_invalid rfl

/-- The options of a Boolean condition. -/
lemma failsWith_boolBuilder {construct : Table → Except RuleError Condition} (depth : Nat)
    (h : ∀ table e, construct table = .error e → e.OfCondition rejected) :
    (boolBuilder construct depth).FailsWith kind (OfCondition rejected) := by
  refine failsWith_unless rfl <| .bind (failsWith_takeString _) fun text =>
    .bind ?_ fun operator => .bind (failsWith_take _) fun found => .bind ?_ fun parts =>
    .bind (failsWith_buildParts h _) fun conditions => .bind failsWith_finish fun _ => .pure
  · unfold readBoolOperator
    split
    · exact .pure
    · split_ifs
      · exact .pure
      · exact .pure
      · exact .pure
      · exact failsWith_invalid rfl
  · unfold readParts
    split
    · exact failsWith_invalid rfl
    · exact failsWith_invalid rfl
    · exact .pure
    · exact failsWith_invalid rfl

namespace ConditionRegistry

variable {inner : Table → Except RuleError Condition} {tag : String} {fields : Table}
  {e : RuleError}

/-- The error of a constructor of leaves is that of its builder. -/
lemma error_of_map_build {α : Type} {property : RuleError → Prop} {builder : OptionM α}
    {leaf : α → Condition} (hbuilder : builder.FailsWith kind property)
    (h : (Options.build kind fields builder).map leaf = .error e) : property e := by
  refine (hbuilder fields).2 e ?_
  change Options.build kind fields builder = .error e
  cases hbuilt : Options.build kind fields builder with
  | error other => rw [hbuilt] at h; exact congrArg _ (Except.error.inj h)
  | ok value => rw [hbuilt] at h; cases h

/-- What a constructor fails with, if the parts fail in this way. -/
lemma ofCondition_of_constructWith
    (hinner : ∀ table e, inner table = .error e → e.OfCondition compiler.Rejects)
    (h : (builtinsWith compiler).constructWith inner tag fields = .error e) :
    e.OfCondition compiler.Rejects := by
  rw [constructWith_builtinsWith] at h
  split_ifs at h
  · exact error_of_map_build UrlPathCondition.failsWith_builderWith h
  · exact error_of_map_build UrlParamsCondition.failsWith_builderWith h
  · exact error_of_map_build AuthenticationCondition.failsWith_builder h
  · exact (failsWith_boolBuilder _ hinner _).2 _ h
  · exact error_of_map_build RequestCondition.failsWith_builder h
  · cases h
    exact .unknown tag

/-- A table without a tag has wrong options. -/
lemma ofCondition_of_tagOf {table : Table} {rejected : Prop} (h : tagOf table = .error e) :
    e.OfCondition rejected := by
  unfold tagOf at h
  split at h <;> cases h <;> exact .invalid _ _ rfl

/-- What building the condition of a table fails with, with whatever fuel. -/
lemma ofCondition_of_constructLevels {fuel : Nat} {table : Table}
    (h : (builtinsWith compiler).constructLevels fuel table = .error e) :
    e.OfCondition compiler.Rejects := by
  induction fuel generalizing table e with
  | zero =>
    rcases bind_eq_error.1 h with htag | ⟨tag, -, hnone⟩
    · exact ofCondition_of_tagOf htag
    · cases hnone
      exact .unknown tag
  | succ fuel ih =>
    rcases bind_eq_error.1 h with htag | ⟨tag, -, hparts⟩
    · exact ofCondition_of_tagOf htag
    · exact ofCondition_of_constructWith (fun _ _ => ih) hparts

/-- **A condition fails to be built over a pattern of its options only if the compiler rejects
one.** -/
theorem ofCondition_of_construct (h : (builtinsWith compiler).construct tag fields = .error e) :
    e.OfCondition compiler.Rejects :=
  ofCondition_of_constructWith (fun _ _ => ofCondition_of_constructLevels) h

end ConditionRegistry

end Conditions

/-! ## Rules -/

/-- An action that is wrong. -/
lemma ActionSpec.ofRule_of_toAction {spec : ActionSpec} {rule : String} {handlers : List String}
    {rejected : Prop} {e : RuleError} (h : spec.toAction rule handlers = .error e) :
    e.OfRule rejected := by
  unfold toAction at h
  split_ifs at h
  · cases h
    exact .invalidAction _ _
  split at h
  · unfold resolveHandler at h
    split_ifs at h
    cases h
    exact .unknownHandler _
  · cases h
  · cases h
  · cases h

/-- **A rule fails to be built over a pattern of its options only if the compiler rejects one.** -/
theorem RuleSpec.ofRule_of_compile {compiler : Regex.Compiler} {spec : RuleSpec}
    {handlers : List String} {e : RuleError}
    (h : spec.compile (.builtinsWith compiler) handlers = .error e) :
    e.OfRule compiler.Rejects := by
  rw [compile, buildConditions_eq_mapM, buildActions_eq_mapM] at h
  rcases bind_eq_error.1 h with hconditions | ⟨conditions, -, h⟩
  · obtain ⟨condition, -, hfailed⟩ := exists_mem_of_mapM_eq_error hconditions
    exact .condition (ConditionRegistry.ofCondition_of_construct hfailed)
  rcases bind_eq_error.1 h with hactions | ⟨actions, -, hnone⟩
  · obtain ⟨action, -, hfailed⟩ := exists_mem_of_mapM_eq_error hactions
    exact ActionSpec.ofRule_of_toAction hfailed
  · cases hnone

end RequestRouting
