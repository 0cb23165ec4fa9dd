import RequestRouting.Condition.Basic
import RequestRouting.Proofs.Condition.Chunk

/-!
# How options spell conditions

For each kind of leaf: which options spell which condition.  The options are described as they are
documented, and the builders accept exactly these.

## Main definitions

* `UrlPathCondition.SpeltBy`, `UrlParamsCondition.SpeltBy`, `AuthenticationCondition.SpeltBy`,
  `RequestCondition.SpeltBy` — options spell a condition.

## Main results

* `UrlPathCondition.ofOptions_eq_ok`, `UrlParamsCondition.ofOptions_eq_ok`,
  `AuthenticationCondition.ofOptions_eq_ok`, `RequestCondition.ofOptions_eq_ok` — a condition is
  built of the options that spell it, and of no others.
-/

set_option autoImplicit false

namespace RequestRouting

open OptionM Options

variable {options later : Options} {fields : List (String × Json)}

/-! ## Identities -/

namespace AuthenticationCondition

/-- The name of a test and the option `value` make a condition. -/
inductive Tests : String → Option Json → AuthenticationCondition → Prop where
  | isUser (name : String) : Tests "isuser" (some (.string name)) (.isUser name)
  | inGroup (name : String) : Tests "ingroup" (some (.string name)) (.inGroup name)
  | isAnonymous : Tests "isanon" none .isAnonymous

/-- Options spell a condition: without a test the identity itself is meant. -/
structure SpeltBy (condition : AuthenticationCondition) (fields : List (String × Json)) :
    Prop where
  known : Known ["operator", "value"] fields
  test : ∃ name, Reads Eq "isuser" (Fields.get? "operator" fields) name ∧
    Tests name (Fields.get? "value" fields) condition

/-- A test takes the option that it needs. -/
lemma gives_readOperator {name : String} {condition : AuthenticationCondition} :
    (readOperator name).Gives options condition later ↔
      ∃ value, Tests name value condition ∧ Needs "value" options value later := by
  unfold readOperator
  constructor
  · intro h
    split at h
    · next hname =>
      simp only [gives_bind, gives_requireString, gives_pure] at h
      obtain ⟨text, _, ⟨hvalue, rfl⟩, rfl, rfl⟩ := h
      exact ⟨_, hname ▸ .isUser text, .option hvalue⟩
    split at h
    · next hname =>
      simp only [gives_bind, gives_requireString, gives_pure] at h
      obtain ⟨text, _, ⟨hvalue, rfl⟩, rfl, rfl⟩ := h
      exact ⟨_, hname ▸ .inGroup text, .option hvalue⟩
    split at h
    · next hname =>
      obtain ⟨rfl, rfl⟩ := gives_pure.1 h
      exact ⟨_, hname ▸ .isAnonymous, .nothing⟩
    · exact absurd h gives_invalid
  · rintro ⟨_, ⟨text⟩ | ⟨text⟩ | ⟨⟩, hneeds⟩
    · obtain _ | ⟨hvalue⟩ := hneeds
      rw [if_pos rfl]
      exact gives_bind.2 ⟨text, _, gives_requireString.2 ⟨hvalue, rfl⟩, gives_pure.2 ⟨rfl, rfl⟩⟩
    · obtain _ | ⟨hvalue⟩ := hneeds
      rw [if_neg (by decide), if_pos rfl]
      exact gives_bind.2 ⟨text, _, gives_requireString.2 ⟨hvalue, rfl⟩, gives_pure.2 ⟨rfl, rfl⟩⟩
    · obtain ⟨⟩ := hneeds
      rw [if_neg (by decide), if_neg (by decide), if_pos rfl]
      exact gives_pure.2 ⟨rfl, rfl⟩

/-- **A condition on the identity is built of the options that spell it.** -/
theorem ofOptions_eq_ok {condition : AuthenticationCondition} :
    ofOptions fields = .ok condition ↔ condition.SpeltBy fields := by
  have hbuilder : builder = takeString "operator" >>= fun text => pure (text.getD "isuser") >>=
      fun name => readOperator name >>= fun condition => finish >>= fun _ => pure condition := rfl
  change builder.Makes ⟨kind, fields⟩ condition ↔ _
  rw [hbuilder, makes_read (understands_getD "isuser")]
  simp only [makes_last fun _ _ => gives_readOperator, known_without, exists_eq_right, ne_eq,
    String.reduceEq, not_false_eq_true, get?_without]
  constructor
  · rintro ⟨name, hname, hknown, htest⟩
    exact ⟨hknown, name, hname, htest⟩
  · rintro ⟨hknown, name, hname, htest⟩
    exact ⟨name, hname, hknown, htest⟩

end AuthenticationCondition

/-! ## Parameters -/

/-- A pattern of an option is compiled without taking another. -/
lemma UrlPathCondition.gives_compileOption {key pattern : String} {regex : Regex.Compiled} :
    (UrlPathCondition.compileOption key pattern).Gives options regex later ↔
      Regex.compile pattern = .ok regex ∧ options = later := by
  unfold UrlPathCondition.compileOption
  cases Regex.compile pattern <;> simp

namespace UrlParamsCondition

/-- The name of a test and the option `value` make a test of a parameter. -/
inductive Tests : String → Option Json → ParamOperator → Prop where
  | isSet : Tests "isset" none .isSet
  | isNumeric : Tests "isnumeric" none .isNumeric
  | equal (value : Json) (h : value ≠ .null) : Tests "equal" (some value) (.equal value)
  | regexp {pattern : String} {regex : Regex.Compiled} (h : Regex.compile pattern = .ok regex) :
    Tests "regexp" (some (.string pattern)) (.regexp regex)

/-- Options spell a condition: the name of the parameter has to be there, the scope may be written
in any case, and without a test the parameter only has to be set. -/
structure SpeltBy (condition : UrlParamsCondition) (fields : List (String × Json)) : Prop where
  known : Known ["name", "scope", "operator", "value"] fields
  name : Fields.get? "name" fields = some (.string condition.name)
  scope : Reads (fun text scope => asciiLower text = scope.name) .both (Fields.get? "scope" fields)
    condition.scope
  test : ∃ operator, Reads Eq "isset" (Fields.get? "operator" fields) operator ∧
    Tests operator (Fields.get? "value" fields) condition.operator

/-- A scope is found under its own name only. -/
lemma ofName?_eq_some {text : String} {scope : Scope} :
    Scope.ofName? text = some scope ↔ text = scope.name := by
  constructor
  · unfold Scope.ofName?
    intro h
    split at h
    · next htext => cases h; exact htext
    split at h
    · next htext => cases h; exact htext
    split at h
    · next htext => cases h; exact htext
    · cases h
  · rintro rfl
    exact Scope.ofName?_name scope

/-- Scopes are read in any case. -/
lemma understands_readScope :
    Understands readScope (fun text scope => asciiLower text = scope.name) .both := by
  refine .of_texts rfl fun text => ?_
  cases hscope : Scope.parse? text with
  | none =>
    refine .inr ⟨⟨_, by rw [readScope, hscope]⟩, fun other hother => ?_⟩
    rw [Scope.parse?, ofName?_eq_some.2 hother] at hscope
    cases hscope
  | some scope =>
    refine .inl ⟨scope, by rw [readScope, hscope], fun other => ?_⟩
    rw [← ofName?_eq_some, ← Scope.parse?, hscope, Option.some.injEq]

/-- A test takes the option that it needs. -/
lemma gives_readOperator {name : String} {operator : ParamOperator} :
    (readOperator name).Gives options operator later ↔
      ∃ value, Tests name value operator ∧ Needs "value" options value later := by
  unfold readOperator
  constructor
  · intro h
    split at h
    · next hname =>
      obtain ⟨rfl, rfl⟩ := gives_pure.1 h
      exact ⟨_, hname ▸ .isSet, .nothing⟩
    split at h
    · next hname =>
      obtain ⟨rfl, rfl⟩ := gives_pure.1 h
      exact ⟨_, hname ▸ .isNumeric, .nothing⟩
    split at h
    · next hname =>
      simp only [gives_bind, gives_take] at h
      obtain ⟨_, _, ⟨rfl, rfl⟩, h⟩ := h
      split at h
      · next value hvalue =>
        split at h
        · exact absurd h gives_invalid
        · next hnull =>
          obtain ⟨rfl, rfl⟩ := gives_pure.1 h
          exact ⟨_, hname ▸ .equal value (by rintro rfl; exact hnull rfl), .option hvalue⟩
      · exact absurd h gives_invalid
    split at h
    · next hname =>
      simp only [gives_bind, gives_requireString, UrlPathCondition.gives_compileOption,
        gives_pure] at h
      obtain ⟨pattern, _, ⟨hvalue, rfl⟩, regex, _, ⟨hregex, rfl⟩, rfl, rfl⟩ := h
      exact ⟨_, hname ▸ .regexp hregex, .option hvalue⟩
    · exact absurd h gives_invalid
  · rintro ⟨_, ⟨⟩ | ⟨⟩ | ⟨value, hnull⟩ | @⟨pattern, regex, hregex⟩, hneeds⟩
    · obtain ⟨⟩ := hneeds
      exact gives_pure.2 ⟨rfl, rfl⟩
    · obtain ⟨⟩ := hneeds
      exact gives_pure.2 ⟨rfl, rfl⟩
    · obtain _ | ⟨hvalue⟩ := hneeds
      refine gives_bind.2 ⟨some value, _, gives_take.2 ⟨hvalue, rfl⟩, ?_⟩
      cases value with
      | null => exact absurd rfl hnull
      | _ => exact gives_pure.2 ⟨rfl, rfl⟩
    · obtain _ | ⟨hvalue⟩ := hneeds
      refine gives_bind.2 ⟨pattern, _, gives_requireString.2 ⟨hvalue, rfl⟩, ?_⟩
      exact gives_bind.2 ⟨regex, _, UrlPathCondition.gives_compileOption.2 ⟨hregex, rfl⟩,
        gives_pure.2 ⟨rfl, rfl⟩⟩

/-- **A condition on a parameter is built of the options that spell it.** -/
theorem ofOptions_eq_ok {condition : UrlParamsCondition} :
    ofOptions fields = .ok condition ↔ condition.SpeltBy fields := by
  have hbuilder : builder = requireString "name" >>= fun name => takeString "scope" >>=
      fun text => readScope text >>= fun scope => takeString "operator" >>=
      fun text => pure (text.getD "isset") >>= fun operator => readOperator operator >>=
      fun operator => finish >>= fun _ => pure ⟨name, operator, scope⟩ := rfl
  change builder.Makes ⟨kind, fields⟩ condition ↔ _
  rw [hbuilder]
  simp only [makes_bind (requireString _), gives_requireString,
    makes_read understands_readScope, makes_read (understands_getD "isset"),
    makes_last fun _ _ => gives_readOperator, known_without, ne_eq, String.reduceEq,
    not_false_eq_true, get?_without]
  constructor
  · rintro ⟨name, _, ⟨hname, rfl⟩, scope, hscope, operator, hoperator, hknown, test, htest, rfl⟩
    simp only [known_without, get?_without, ne_eq, String.reduceEq, not_false_eq_true] at *
    exact ⟨hknown, hname, hscope, operator, hoperator, htest⟩
  · rintro ⟨hknown, hname, hscope, operator, hoperator, htest⟩
    refine ⟨_, _, ⟨hname, rfl⟩, condition.scope, ?_, operator, ?_, ?_, condition.operator, ?_, rfl⟩
    all_goals simpa [known_without]

end UrlParamsCondition

/-! ## Methods and templates -/

namespace RequestCondition

/-- An option spells methods: it is left out, or it lists at least one method, in any case. -/
inductive Methods : Option Json → List String → Prop where
  | absent : Methods none []
  | listed {value : Json} {texts : List String} (h : Lists value texts) (hsome : texts ≠ []) :
    Methods (some value) (texts.map asciiUpper)

/-- A text can be compiled to a template. -/
def Compiles (text : String) (path : Option PathTemplate) : Prop :=
  ∃ template, Template.compile text = .ok template ∧ path = some ⟨text, template⟩

/-- Options spell a condition: there are methods, or a template for the path, or both. -/
structure SpeltBy (condition : RequestCondition) (fields : List (String × Json)) : Prop where
  known : Known ["method", "path"] fields
  methods : Methods (Fields.get? "method" fields) condition.methods
  path : Reads Compiles none (Fields.get? "path" fields) condition.path
  some : condition.methods ≠ [] ∨ condition.path ≠ none

/-- Methods are taken in upper case. -/
lemma makes_readMethods {α : Type} {next : List String → OptionM α} {value : α} :
    Makes (takeStrings "method" >>= fun texts => readMethods texts >>= next) options value ↔
      ∃ methods, Methods (Fields.get? "method" options.fields) methods ∧
        (next methods).Makes (options.without "method") value := by
  simp only [makes_bind, gives_takeStrings]
  generalize Fields.get? "method" options.fields = found
  constructor
  · rintro ⟨texts, _, ⟨@⟨value, texts, hlists⟩ | _, rfl⟩, methods, later, hread, hnext⟩
    · unfold readMethods at hread
      split at hread
      · cases ‹some texts = none›
      · next listed hlisted =>
        obtain rfl := Option.some.inj hlisted
        split at hread
        · exact absurd hread gives_invalid
        · next hsome =>
          obtain ⟨rfl, rfl⟩ := gives_pure.1 hread
          exact ⟨_, .listed hlists (by simpa using hsome), hnext⟩
    · obtain ⟨rfl, rfl⟩ := gives_pure.1 hread
      exact ⟨[], .absent, hnext⟩
  · rintro ⟨methods, _ | @⟨value, texts, hlists, hsome⟩, hnext⟩
    · exact ⟨none, _, ⟨.none, rfl⟩, [], _, gives_pure.2 ⟨rfl, rfl⟩, hnext⟩
    · refine ⟨some texts, _, ⟨.some hlists, rfl⟩, _, _, ?_, hnext⟩
      rw [readMethods, if_neg (by simpa using hsome)]
      exact gives_pure.2 ⟨rfl, rfl⟩

/-- Templates are compiled. -/
lemma understands_readPath : Understands readPath Compiles none := by
  refine .of_texts rfl fun text => ?_
  cases hcompile : Template.compile text with
  | error cause => exact .inr ⟨⟨_, by rw [readPath, hcompile]⟩, by simp [Compiles, hcompile]⟩
  | ok template =>
    exact .inl ⟨some ⟨text, template⟩, by rw [readPath, hcompile], by
      simp [Compiles, hcompile, eq_comm]⟩

/-- **A condition on the method and the path is built of the options that spell it.** -/
theorem ofOptions_eq_ok {condition : RequestCondition} :
    ofOptions fields = .ok condition ↔ condition.SpeltBy fields := by
  change builder.Makes ⟨kind, fields⟩ condition ↔ _
  unfold builder
  simp only [makes_readMethods, makes_read understands_readPath, makes_unless, makes_finish,
    known_without, ne_eq, String.reduceEq, not_false_eq_true, get?_without, Bool.and_eq_true,
    List.isEmpty_iff, Option.isNone_iff_eq_none, not_and_or]
  constructor
  · rintro ⟨methods, hmethods, path, hpath, hsome, hknown, rfl⟩
    exact ⟨hknown, hmethods, hpath, hsome⟩
  · rintro ⟨hknown, hmethods, hpath, hsome⟩
    exact ⟨_, hmethods, _, hpath, hsome, hknown, rfl⟩

end RequestCondition

/-! ## Paths -/

namespace UrlPathCondition

/-- A text can be compiled to a pattern. -/
def Compiles (text : String) (pattern : Option Regex.Compiled) : Prop :=
  ∃ regex, Regex.compile text = .ok regex ∧ pattern = some regex

/-- A chunk option spells an index with a pattern. -/
def SpellsChunk (field : String × Json) (chunk : Int × Regex.Compiled) : Prop :=
  NamesChunk field.1 chunk.1 ∧
    ∃ pattern, field.2 = .string pattern ∧ Regex.compile pattern = .ok chunk.2

/-- The options that are meant as chunk options. -/
def chunkOptions (fields : List (String × Json)) : List (String × Json) :=
  fields.filter fun field => isChunkKey field.1

/-- The options that are not meant as chunk options. -/
def otherOptions (fields : List (String × Json)) : List (String × Json) :=
  fields.filter fun field => ! isChunkKey field.1

/-- Options spell a condition: there is a pattern for the whole path, or for a chunk at least.  Of
several options for one chunk the last one counts. -/
structure SpeltBy (condition : UrlPathCondition) (fields : List (String × Json)) : Prop where
  known : Known ["source", "delimiter", "pattern"] (otherOptions fields)
  source : Reads (fun text source => text = source.name) .request (Fields.get? "source" fields)
    condition.source
  delimiter : Reads (fun text delimiter => text = delimiter ∧ text ≠ "") "/"
    (Fields.get? "delimiter" fields) condition.delimiter
  pattern : Reads Compiles none (Fields.get? "pattern" fields) condition.pattern
  chunks : ∃ read, List.Forall₂ SpellsChunk (chunkOptions fields) read ∧
    condition.chunks = insertChunks read
  some : condition.pattern ≠ none ∨ condition.chunks ≠ []

/-- Sources are read by their names. -/
lemma understands_readSource :
    Understands readSource (fun text source => text = source.name) .request := by
  refine .of_texts rfl fun text => ?_
  simp only [readSource]
  split_ifs with hrequest hextra
  · exact .inl ⟨.request, rfl, fun other => by cases other <;> simp [hrequest, PathSource.name]⟩
  · exact .inl ⟨.extra, rfl, fun other => by cases other <;> simp [hextra, PathSource.name]⟩
  · exact .inr ⟨⟨_, rfl⟩, fun other => by cases other <;> assumption⟩

/-- Delimiters are read as they are, unless they are empty. -/
lemma understands_readDelimiter :
    Understands readDelimiter (fun text delimiter => text = delimiter ∧ text ≠ "") "/" := by
  refine .of_texts rfl fun text => ?_
  simp only [readDelimiter]
  split_ifs with hempty
  · exact .inr ⟨⟨_, rfl⟩, fun other h => h.2 hempty⟩
  · exact .inl ⟨text, rfl, fun other => and_iff_left hempty⟩

/-- A delimiter that has been read is not empty. -/
lemma delimiter_ne_empty {found : Option Json} {delimiter : String}
    (h : Reads (fun text delimiter => text = delimiter ∧ text ≠ "") "/" found delimiter) :
    delimiter ≠ "" := by
  obtain _ | ⟨rfl, hne⟩ := h
  · decide
  · exact hne

/-- Patterns are compiled. -/
lemma understands_readPattern : Understands readPattern Compiles none := by
  refine .of_texts rfl fun text => ?_
  simp only [readPattern, compileOption, Compiles]
  cases hcompile : Regex.compile text with
  | error cause => exact .inr ⟨⟨_, rfl⟩, by simp⟩
  | ok regex => exact .inl ⟨some regex, rfl, by simp [eq_comm]⟩

/-- Chunk options are read one after another. -/
lemma gives_readChunks {chunks result : List (Int × Regex.Compiled)}
    {taken : List (String × Json)} :
    (readChunks chunks taken).Gives options result later ↔
      (∃ read, List.Forall₂ SpellsChunk taken read ∧
        read.foldl (fun chunks chunk => insertChunk chunk.1 chunk.2 chunks) chunks = result) ∧
        options = later := by
  induction taken generalizing chunks options with
  | nil =>
    rw [readChunks, gives_pure]
    constructor
    · rintro ⟨rfl, rfl⟩
      exact ⟨⟨[], .nil, rfl⟩, rfl⟩
    · rintro ⟨⟨_, ⟨⟩, rfl⟩, rfl⟩
      exact ⟨rfl, rfl⟩
  | cons field rest ih =>
    obtain ⟨key, value⟩ := field
    unfold readChunks
    constructor
    · intro h
      split at h
      · exact absurd h gives_invalid
      · next index hindex =>
        split at h
        · next pattern =>
          simp only [gives_bind, gives_compileOption, ih] at h
          obtain ⟨regex, _, ⟨hregex, rfl⟩, ⟨read, hread, rfl⟩, rfl⟩ := h
          have hname := parseChunkKey?_eq_some.1 hindex
          exact ⟨⟨(index, regex) :: read, .cons ⟨hname, pattern, rfl, hregex⟩ hread, rfl⟩, rfl⟩
        · exact absurd h gives_invalid
    · rintro ⟨⟨_, hspelt, rfl⟩, rfl⟩
      obtain _ | @⟨_, ⟨index, regex⟩, _, read, ⟨hname, pattern, hvalue, hregex⟩, hread⟩ := hspelt
      obtain rfl : value = .string pattern := hvalue
      simp only [parseChunkKey?_eq_some.2 hname]
      exact gives_bind.2 ⟨regex, _, gives_compileOption.2 ⟨hregex, rfl⟩,
        ih.2 ⟨⟨read, hread, rfl⟩, rfl⟩⟩

/-- Chunk options are taken and read. -/
lemma makes_chunks {α : Type} {next : List (Int × Regex.Compiled) → OptionM α} {value : α} :
    Makes (takeMatching isChunkKey >>= fun taken => readChunks [] taken >>= next) options value ↔
      ∃ read, List.Forall₂ SpellsChunk (chunkOptions options.fields) read ∧
        (next (insertChunks read)).Makes { options with fields := otherOptions options.fields }
          value := by
  simp only [makes_bind, gives_takeMatching, gives_readChunks]
  constructor
  · rintro ⟨_, _, ⟨rfl, rfl⟩, _, _, ⟨⟨read, hread, rfl⟩, rfl⟩, hnext⟩
    exact ⟨read, hread, hnext⟩
  · rintro ⟨read, hread, hnext⟩
    exact ⟨_, _, ⟨rfl, rfl⟩, _, _, ⟨⟨read, hread, rfl⟩, rfl⟩, hnext⟩

/-- Taking another option leaves the chunk options. -/
lemma chunkOptions_without {key : String} (h : isChunkKey key = false) :
    chunkOptions (options.without key).fields = chunkOptions options.fields :=
  Fields.filter_erase_of_not h _

/-- The other options are known if that one may come in addition which has been taken. -/
lemma known_otherOptions_without {key : String} {names : List String} :
    Known names (otherOptions (options.without key).fields) ↔
      Known (key :: names) (otherOptions options.fields) := by
  rw [otherOptions, without, Fields.filter_erase, known_erase, otherOptions]

/-- **A condition on a path is built of the options that spell it.** -/
theorem ofOptions_eq_ok {condition : UrlPathCondition} :
    ofOptions fields = .ok condition ↔ condition.SpeltBy fields := by
  change builder.Makes ⟨kind, fields⟩ condition ↔ _
  have hchunks : chunkOptions (((Options.mk kind fields).without "source").without
      "delimiter" |>.without "pattern").fields = chunkOptions fields := by
    iterate 3 rw [chunkOptions_without (by decide)]
  unfold builder
  simp only [makes_read understands_readSource, makes_read understands_readDelimiter,
    makes_read understands_readPattern, makes_chunks, makes_unless, makes_finish, hchunks,
    known_otherOptions_without, get?_without, ne_eq, String.reduceEq, not_false_eq_true,
    Bool.and_eq_true, List.isEmpty_iff, Option.isNone_iff_eq_none, not_and_or]
  constructor
  · rintro ⟨source, hsource, delimiter, hdelimiter, pattern, hpattern, read, hread, hsome, hknown,
      rfl⟩
    exact ⟨hknown, hsource, hdelimiter, hpattern, ⟨read, hread, rfl⟩, hsome⟩
  · rintro ⟨hknown, hsource, hdelimiter, hpattern, ⟨read, hread, hkept⟩, hsome⟩
    refine ⟨_, hsource, _, hdelimiter, _, hpattern, read, hread, ?_, hknown, ?_⟩
    · rwa [← hkept]
    · rw [← hkept]

end UrlPathCondition

end RequestRouting
