import RequestRouting.Proofs.Condition.Construction
import RequestRouting.Rule.Table

/-!
# Which patterns constructors compile

Path and parameter conditions compile regular expressions while they are built.  To say which ones,
the constructors are given the compiler as an argument: they depend on nothing else of it than what
it makes of the patterns of the options that they read.

## Main definitions

* `Regex.Compiler` — something that compiles regular expressions, or rejects them.
* `ConditionRegistry.builtinsWith` — the registry of the library with a compiler.
* `kindPatterns` — the regular expressions of the options of a condition.

## Main results

* `ConditionRegistry.builtinsWith_compile` — with the usual compiler it is the usual registry.
* `ConditionRegistry.construct_congr` — compilers that agree on the patterns of some options build
  the same of them.
-/

set_option autoImplicit false

namespace RequestRouting

/-- Something that compiles regular expressions, or rejects them. -/
abbrev Regex.Compiler := String → Except Regex.Error Regex.Compiled

/-! ## Constructors with a compiler -/

namespace UrlPathCondition

variable (compiler : Regex.Compiler)

/-- Compiles the pattern of an option. -/
def compileOptionWith (key pattern : String) : OptionM Regex.Compiled :=
  match compiler pattern with
  | .ok regex => return regex
  | .error cause => Options.invalid (.badRegex key cause)

/-- The pattern of the whole path. -/
def readPatternWith : Option String → OptionM (Option Regex.Compiled)
  | none => return none
  | some pattern => return some (← compileOptionWith compiler "pattern" pattern)

/-- Adds the patterns of chunk options. -/
def readChunksWith (chunks : List (Int × Regex.Compiled)) :
    List (String × Json) → OptionM (List (Int × Regex.Compiled))
  | [] => return chunks
  | (key, value) :: rest =>
    match parseChunkKey? key with
    | none => Options.invalid (.malformedChunkKey key)
    | some index =>
      match value with
      | .string pattern => do
        let regex ← compileOptionWith compiler key pattern
        readChunksWith (insertChunk index regex chunks) rest
      | _ => Options.invalid (.chunkNotAString key)

/-- Takes the options of a path condition. -/
def builderWith : OptionM UrlPathCondition := do
  let source ← readSource (← Options.takeString "source")
  let delimiter ← readDelimiter (← Options.takeString "delimiter")
  let pattern ← readPatternWith compiler (← Options.takeString "pattern")
  let chunks ← readChunksWith compiler [] (← Options.takeMatching isChunkKey)
  if pattern.isNone && chunks.isEmpty then Options.invalid .noPathPattern
  Options.finish
  return ⟨source, delimiter, pattern, chunks⟩

/-- With the usual compiler the same patterns of chunks are read. -/
lemma readChunksWith_compile (chunks : List (Int × Regex.Compiled))
    (fields : List (String × Json)) :
    readChunksWith Regex.compile chunks fields = readChunks chunks fields := by
  induction fields generalizing chunks with
  | nil => rfl
  | cons field rest ih =>
    obtain ⟨key, value⟩ := field
    simp only [readChunksWith, readChunks, ih]
    rfl

/-- With the usual compiler the same conditions are built. -/
lemma builderWith_compile : builderWith Regex.compile = builder := by
  unfold builderWith builder
  simp only [readChunksWith_compile]
  rfl

end UrlPathCondition

namespace UrlParamsCondition

variable (compiler : Regex.Compiler)

/-- Takes the options of a test with a name. -/
def readOperatorWith (name : String) : OptionM ParamOperator := do
  if name = "isset" then return .isSet
  else if name = "isnumeric" then return .isNumeric
  else if name = "equal" then
    match ← Options.take "value" with
    | some value => if value.isNull then Options.invalid .missingValue else return .equal value
    | none => Options.invalid .missingValue
  else if name = "regexp" then
    let pattern ← Options.requireString "value"
    return .regexp (← UrlPathCondition.compileOptionWith compiler "value" pattern)
  else Options.invalid (.unknownParamOperator name)

/-- Takes the options of a parameter condition. -/
def builderWith : OptionM UrlParamsCondition := do
  let name ← Options.requireString "name"
  let scope ← readScope (← Options.takeString "scope")
  let operator ← readOperatorWith compiler ((← Options.takeString "operator").getD "isset")
  Options.finish
  return ⟨name, operator, scope⟩

/-- With the usual compiler the same conditions are built. -/
lemma builderWith_compile : builderWith Regex.compile = builder := rfl

end UrlParamsCondition

namespace ConditionRegistry

/-- The constructors of the library by their tags, where patterns are compiled by a compiler. -/
def kinds (compiler : Regex.Compiler) : List (String × ConditionFactory) := [
  (UrlPathCondition.kind, fun _ options =>
    (Options.build UrlPathCondition.kind options
      (UrlPathCondition.builderWith compiler)).map .urlPath),
  (UrlParamsCondition.kind, fun _ options =>
    (Options.build UrlParamsCondition.kind options
      (UrlParamsCondition.builderWith compiler)).map .urlParams),
  (AuthenticationCondition.kind, fun _ options =>
    (AuthenticationCondition.ofOptions options).map .authentication),
  (Condition.boolKind, boolFactory),
  (RequestCondition.kind, fun _ options => (RequestCondition.ofOptions options).map .request)]

/-- The registry of the kinds of the library with a compiler. -/
def builtinsWith (compiler : Regex.Compiler) : ConditionRegistry := ⟨.ofList (kinds compiler)⟩

/-- **With the usual compiler it is the usual registry.** -/
theorem builtinsWith_compile : builtinsWith Regex.compile = builtins := by
  rw [builtinsWith, kinds, UrlPathCondition.builderWith_compile,
    UrlParamsCondition.builderWith_compile]
  rfl

end ConditionRegistry

/-! ### The constructors of the library -/

namespace ConditionRegistry

variable (compiler : Regex.Compiler) (inner : Table → Except RuleError Condition) (fields : Table)

/-- What is built for a tag, as a choice among the kinds. -/
lemma constructWith_builtinsWith (tag : String) :
    (builtinsWith compiler).constructWith inner tag fields =
      if tag = UrlPathCondition.kind then
        (Options.build UrlPathCondition.kind fields
          (UrlPathCondition.builderWith compiler)).map .urlPath
      else if tag = UrlParamsCondition.kind then
        (Options.build UrlParamsCondition.kind fields
          (UrlParamsCondition.builderWith compiler)).map .urlParams
      else if tag = AuthenticationCondition.kind then
        (AuthenticationCondition.ofOptions fields).map .authentication
      else if tag = Condition.boolKind then boolFactory inner fields
      else if tag = RequestCondition.kind then
        (RequestCondition.ofOptions fields).map .request
      else .error (.unknownConditionType tag) := by
  have hnodup : ((kinds compiler).map Prod.fst).Nodup :=
    show ["url_path", "url_params", "authentication", "bool", "request"].Nodup by decide
  rw [constructWith, builtinsWith, Dict.get?_ofList hnodup]
  simp only [kinds, Fields.get?, eq_comm (b := tag)]
  split_ifs <;> rfl

end ConditionRegistry

/-! ## Patterns of options -/

/-- The regular expressions of the options of a condition. -/
def kindPatterns (tag : String) (options : Table) : List String :=
  if tag = UrlPathCondition.kind then pathPatterns options
  else if tag = UrlParamsCondition.kind then paramPatterns options
  else if tag = Condition.boolKind then partPatterns options
  else []

/-- The regular expressions of a Boolean condition are those of its parts. -/
lemma kindPatterns_boolKind (options : Table) :
    kindPatterns Condition.boolKind options = partPatterns options := by
  rw [kindPatterns, if_neg (by decide), if_neg (by decide), if_pos rfl]

/-- The regular expressions of a path condition are texts under the names of patterns. -/
lemma mem_pathPatterns {pattern : String} {options : Table} :
    pattern ∈ pathPatterns options ↔
      ∃ key, (key, .string pattern) ∈ options ∧ isPathPattern key = true := by
  simp only [pathPatterns, List.mem_filterMap, Prod.exists]
  constructor
  · rintro ⟨key, value, hmem, hvalue⟩
    split at hvalue
    · next hkey =>
      cases value <;> simp only [Json.string?, reduceCtorEq, Option.some.injEq] at hvalue
      subst hvalue
      exact ⟨key, hmem, hkey⟩
    · cases hvalue
  · rintro ⟨key, hmem, hkey⟩
    exact ⟨key, _, hmem, by rw [if_pos hkey, Json.string?]⟩

/-- The parts of a Boolean condition are those that its options list. -/
lemma partPatterns_eq (options : Table) :
    partPatterns options = ((Fields.get? "conditions" options).map listedPatterns).getD [] := by
  induction options with
  | nil => rfl
  | cons field rest ih =>
    obtain ⟨key, value⟩ := field
    by_cases h : key = "conditions" <;> simp [partPatterns, Fields.get?, h, ih]

/-- The regular expressions of a part are among those of all parts. -/
lemma mem_itemPatterns {pattern : String} {item : Json} {items : List Json} (hitem : item ∈ items)
    (h : pattern ∈ nestedPatterns item) : pattern ∈ itemPatterns items := by
  induction items with
  | nil => cases hitem
  | cons first rest ih =>
    rw [itemPatterns]
    rcases List.mem_cons.1 hitem with rfl | hitem
    · exact List.mem_append_left _ h
    · exact List.mem_append_right _ (ih hitem)

/-- So they are among those of the options that list the parts. -/
lemma mem_partPatterns {pattern : String} {item : Json} {items : List Json} {options : Table}
    (hitems : Fields.get? "conditions" options = some (.array items)) (hitem : item ∈ items)
    (h : pattern ∈ nestedPatterns item) : pattern ∈ partPatterns options := by
  rw [partPatterns_eq, hitems, Option.map_some, Option.getD_some, listedPatterns]
  exact mem_itemPatterns hitem h

/-- The regular expressions of a table inside of a Boolean condition are those of its options. -/
lemma nestedPatterns_object {table : Table} {tag : String}
    (h : ConditionRegistry.tagOf table = .ok tag) :
    nestedPatterns (.object table) = kindPatterns tag (Fields.erase "type" table) := by
  have htype := ConditionRegistry.tagOf_eq_ok.1 h
  have hpath : pathPatterns (Fields.erase "type" table) = pathPatterns table := by
    unfold pathPatterns Fields.erase
    rw [List.filterMap_filter]
    refine List.filterMap_congr fun field _ => ?_
    by_cases hfield : field.1 = "type"
    · simp [hfield, show isPathPattern "type" = false by decide]
    · simp [hfield]
  have hparam : paramPatterns (Fields.erase "type" table) = paramPatterns table := by
    simp [paramPatterns]
  have hpart : partPatterns (Fields.erase "type" table) = partPatterns table := by
    simp [partPatterns_eq]
  have htag : tagOf? table = some tag := by
    simp [tagOf?, htype, Json.string?]
  rw [nestedPatterns, htag, kindPatterns, hpath, hparam, hpart]

/-! ## Compilers that agree -/

section Agreement

open OptionM Options

variable {first second : Regex.Compiler} {options : Options}

/-- Two ways to go on agree if they do on what the step before them gives. -/
lemma OptionM.run_bind_congr {α β : Type} {step : OptionM α} {next other : α → OptionM β}
    (h : ∀ value later, step.Gives options value later →
      (next value).run later = (other value).run later) :
    (step >>= next).run options = (step >>= other).run options := by
  rw [run_bind, run_bind]
  cases hrun : step.run options with
  | mk result later =>
    cases result with
    | error e => rfl
    | ok value => exact h value later hrun

/-- Two first steps agree with what comes after them if they agree. -/
lemma OptionM.run_bind_congr_left {α β : Type} {step other : OptionM α} (next : α → OptionM β)
    (h : step.run options = other.run options) :
    (step >>= next).run options = (other >>= next).run options := by
  rw [run_bind, run_bind, h]

/-- Two ways to go on agree if they do behind an option that is taken and read. -/
lemma Options.run_read_congr {α β : Type} {read : Option String → OptionM α}
    {spells : String → α → Prop} {byDefault : α} (hread : Understands read spells byDefault)
    {key : String} {next other : α → OptionM β}
    (h : ∀ value, (next value).run (options.without key) =
      (other value).run (options.without key)) :
    (takeString key >>= fun text => read text >>= next).run options =
      (takeString key >>= fun text => read text >>= other).run options := by
  refine run_bind_congr fun text later htext => run_bind_congr fun value after hvalue => ?_
  obtain ⟨-, rfl⟩ := gives_takeString.1 htext
  obtain ⟨-, rfl⟩ := (hread _ _ _ _).1 hvalue
  exact h value

namespace UrlPathCondition

/-- Compilers that agree on a pattern make the same of an option. -/
lemma compileOptionWith_congr {key pattern : String} (h : first pattern = second pattern) :
    compileOptionWith first key pattern = compileOptionWith second key pattern := by
  rw [compileOptionWith, compileOptionWith, h]

/-- Compilers that agree on the patterns of chunks make the same of them. -/
lemma readChunksWith_congr {taken : List (String × Json)}
    (h : ∀ key pattern, (key, Json.string pattern) ∈ taken → first pattern = second pattern)
    (chunks : List (Int × Regex.Compiled)) :
    readChunksWith first chunks taken = readChunksWith second chunks taken := by
  induction taken generalizing chunks with
  | nil => rfl
  | cons field rest ih =>
    obtain ⟨key, value⟩ := field
    have hrest := ih fun key pattern hmem => h key pattern (List.mem_cons_of_mem _ hmem)
    unfold readChunksWith
    split
    · rfl
    · split
      · next pattern =>
        simp only [hrest, compileOptionWith_congr (h key pattern List.mem_cons_self)]
      · rfl

/-- Reading the pattern of the whole path takes no options. -/
lemma eq_of_gives_readPatternWith {compiler : Regex.Compiler} {text : Option String}
    {pattern : Option Regex.Compiled} {later : Options}
    (h : (readPatternWith compiler text).Gives options pattern later) : options = later := by
  cases text with
  | none => exact (gives_pure.1 h).2
  | some text =>
    rw [readPatternWith, compileOptionWith, gives_bind] at h
    obtain ⟨regex, between, hregex, hgiven⟩ := h
    obtain ⟨-, rfl⟩ := gives_pure.1 hgiven
    cases hcompile : compiler text with
    | error cause => simp [hcompile] at hregex
    | ok regex =>
      simp only [hcompile] at hregex
      exact (gives_pure.1 hregex).2

/-- Compilers that agree on the patterns of some options build the same path condition of them. -/
lemma builderWith_congr
    (h : ∀ pattern ∈ pathPatterns options.fields, first pattern = second pattern) :
    (builderWith first).run options = (builderWith second).run options := by
  have hagree (key pattern : String) (hmem : (key, Json.string pattern) ∈ options.fields)
      (hkey : isPathPattern key = true) : first pattern = second pattern :=
    h pattern (mem_pathPatterns.2 ⟨key, hmem, hkey⟩)
  unfold builderWith
  refine run_read_congr understands_readSource fun source => ?_
  refine run_read_congr understands_readDelimiter fun delimiter => ?_
  refine run_bind_congr fun text later htext => ?_
  obtain ⟨hfound, rfl⟩ := gives_takeString.1 htext
  have hpattern : readPatternWith first text = readPatternWith second text := by
    cases text with
    | none => rfl
    | some pattern =>
      have hmem : ("pattern", Json.string pattern) ∈ options.fields :=
        Fields.mem_of_get? (by simpa using hfound)
      simp only [readPatternWith, compileOptionWith_congr (hagree _ _ hmem rfl)]
  rw [hpattern]
  refine run_bind_congr fun pattern later hread => ?_
  obtain rfl := eq_of_gives_readPatternWith hread
  refine run_bind_congr fun taken later htaken => ?_
  obtain ⟨rfl, -⟩ := gives_takeMatching.1 htaken
  rw [readChunksWith_congr]
  intro key pattern hmem
  obtain ⟨hmem, hchunk⟩ := List.mem_filter.1 hmem
  simp only [Options.without, Fields.mem_erase] at hmem
  exact hagree key pattern hmem.1.1.1 (by simp [isPathPattern, hchunk])

end UrlPathCondition

/-- Compilers that agree on the patterns of some options build the same parameter condition of
them. -/
lemma UrlParamsCondition.builderWith_congr
    (h : ∀ pattern ∈ paramPatterns options.fields, first pattern = second pattern) :
    (builderWith first).run options = (builderWith second).run options := by
  unfold builderWith
  refine run_bind_congr fun name later hname => ?_
  obtain ⟨-, rfl⟩ := gives_requireString.1 hname
  refine run_read_congr understands_readScope fun scope => ?_
  refine run_bind_congr fun operator later hoperator => run_bind_congr_left _ ?_
  obtain ⟨hnamed, rfl⟩ := gives_takeString.1 hoperator
  unfold readOperatorWith
  split_ifs with hset hnumeric hequal hregexp
  · rfl
  · rfl
  · rfl
  · obtain rfl : operator = some "regexp" := by
      cases operator with
      | none => exact absurd hregexp (by decide)
      | some text => exact congrArg some hregexp
    refine run_bind_congr fun pattern later hpattern => ?_
    obtain ⟨hvalue, rfl⟩ := gives_requireString.1 hpattern
    simp only [get?_without, ne_eq, String.reduceEq, not_false_eq_true, Option.map_some]
      at hnamed hvalue
    rw [UrlPathCondition.compileOptionWith_congr (h pattern ?_)]
    simp [paramPatterns, hnamed, hvalue, Json.string?]
  · rfl

/-- The parts of a Boolean condition are built in the same way if each of them is. -/
lemma buildParts_congr {construct other : Table → Except RuleError Condition} {items : List Json}
    (h : ∀ table, Json.object table ∈ items → construct table = other table) :
    buildParts construct items = buildParts other items := by
  induction items with
  | nil => rfl
  | cons item rest ih =>
    have hrest := ih fun table htable => h table (List.mem_cons_of_mem _ htable)
    unfold buildParts
    split
    · rfl
    · next table rest' heq =>
      obtain ⟨rfl, rfl⟩ := List.cons.inj heq
      rw [h table List.mem_cons_self, hrest]
    · rfl

/-- So is the condition itself. -/
lemma boolBuilder_congr {construct other : Table → Except RuleError Condition} {depth : Nat}
    (h : ∀ items table, Fields.get? "conditions" options.fields = some (.array items) →
      Json.object table ∈ items → construct table = other table) :
    (boolBuilder construct depth).run options = (boolBuilder other depth).run options := by
  unfold boolBuilder
  split
  · exact run_bind_congr fun _ _ hgiven => absurd hgiven gives_invalid
  · refine run_read_congr understands_readBoolOperator fun operator => ?_
    refine run_bind_congr fun found later hfound => ?_
    obtain ⟨rfl, rfl⟩ := gives_take.1 hfound
    refine run_bind_congr fun items later hitems => ?_
    obtain ⟨⟨hlisted, -⟩, rfl⟩ := gives_readParts.1 hitems
    rw [buildParts_congr fun table => h items table (by simpa using hlisted)]

namespace ConditionRegistry

variable {inner other : Table → Except RuleError Condition} {tag : String} {fields : Table}

/-- Compilers that agree on the patterns of some options build the same of them, if the parts are
built in the same way. -/
lemma constructWith_congr
    (h : ∀ pattern ∈ kindPatterns tag fields, first pattern = second pattern)
    (hinner : tag = Condition.boolKind → ∀ items table,
      Fields.get? "conditions" fields = some (.array items) → Json.object table ∈ items →
      inner table = other table) :
    (builtinsWith first).constructWith inner tag fields =
      (builtinsWith second).constructWith other tag fields := by
  rw [constructWith_builtinsWith, constructWith_builtinsWith]
  by_cases hpath : tag = UrlPathCondition.kind
  · rw [kindPatterns, if_pos hpath] at h
    rw [if_pos hpath, if_pos hpath, Options.build, UrlPathCondition.builderWith_congr h,
      Options.build]
  rw [if_neg hpath, if_neg hpath]
  by_cases hparams : tag = UrlParamsCondition.kind
  · rw [kindPatterns, if_neg hpath, if_pos hparams] at h
    rw [if_pos hparams, if_pos hparams, Options.build, UrlParamsCondition.builderWith_congr h,
      Options.build]
  rw [if_neg hparams, if_neg hparams]
  by_cases hbool : tag = Condition.boolKind
  · rw [boolFactory, boolFactory, Options.build, boolBuilder_congr (hinner hbool), Options.build]
  · simp only [if_neg hbool]

/-- Compilers that agree on the patterns of a table build the same of it, with whatever fuel.

**Proof sketch.** Induction on the fuel: the patterns of a part are among those of the table. -/
theorem constructLevels_congr (fuel : Nat) (table : Table)
    (h : ∀ pattern ∈ nestedPatterns (.object table), first pattern = second pattern) :
    (builtinsWith first).constructLevels fuel table =
      (builtinsWith second).constructLevels fuel table := by
  induction fuel generalizing table with
  | zero => simp only [constructLevels]
  | succ fuel ih =>
    simp only [constructLevels, bind, Except.bind]
    cases htag : tagOf table with
    | error e => simp only
    | ok tag =>
      rw [nestedPatterns_object htag] at h
      refine constructWith_congr h fun hbool items part hitems hpart => ih part ?_
      intro pattern hpattern
      refine h pattern ?_
      rw [hbool, kindPatterns_boolKind]
      exact mem_partPatterns hitems hpart hpattern

/-- **Compilers that agree on the patterns of some options build the same of them.** -/
theorem construct_congr (h : ∀ pattern ∈ kindPatterns tag fields, first pattern = second pattern) :
    (builtinsWith first).construct tag fields = (builtinsWith second).construct tag fields := by
  refine constructWith_congr h fun hbool items part hitems hpart => ?_
  refine constructLevels_congr _ part fun pattern hpattern => h pattern ?_
  rw [hbool, kindPatterns_boolKind]
  exact mem_partPatterns hitems hpart hpattern

end ConditionRegistry

end Agreement

end RequestRouting
