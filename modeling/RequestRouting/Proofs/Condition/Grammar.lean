import RequestRouting.Proofs.Condition.Construction

/-!
# The language of condition tables

The tables of which conditions are built, as they are documented: which options a kind has, which of
them may be left out, and which values each may have.  The language says nothing about the
conditions that are built, and counts no levels beforehand.

## Main definitions

* `IsUrlPath`, `IsUrlParams`, `IsAuthentication`, `IsRequest` — the options of the leaves.
* `DocumentedTable` — the tables with a number of levels of Boolean conditions at most.

## Main results

* `Condition.exists_spelt_iff` — the documented tables are those that spell a condition.
* `ConditionRegistry.constructTable_accepts` — and those of which the registry builds one.
-/

set_option autoImplicit false

namespace RequestRouting

open Options

/-! ## Forms of options -/

/-- An option may be left out, and has a form if it is there. -/
def Optional (key : String) (form : Json → Prop) (fields : Table) : Prop :=
  ∀ value, Fields.get? key fields = some value → form value

/-- An option has to be there, and has a form. -/
def Mandatory (key : String) (form : Json → Prop) (fields : Table) : Prop :=
  ∃ value, Fields.get? key fields = some value ∧ form value

/-- An option has to be left out. -/
def Absent (key : String) (fields : Table) : Prop := Fields.get? key fields = none

/-- A value is a string with a form. -/
def IsText (form : String → Prop) (value : Json) : Prop := ∃ text, value = .string text ∧ form text

/-- A value is a string. -/
def IsAnyText : Json → Prop := IsText fun _ => True

/-- A value is one of the given names. -/
def IsOneOf (names : List String) : Json → Prop := IsText (· ∈ names)

/-- A value is a pattern that can be compiled. -/
def IsPattern : Json → Prop := IsText fun text => ∃ regex, Regex.compile text = .ok regex

/-- A value is a URL template. -/
def IsTemplate : Json → Prop := IsText fun text => ∃ template, Template.compile text = .ok template

/-! ## The options of the kinds -/

/-- The options of a path condition: `source` is `request` or `extra`, `delimiter` is not empty,
`pattern` can be compiled, and any number of options begin with `chunk[`; these have the name of a
chunk option and can be compiled.  There has to be a pattern at least, or a chunk option. -/
structure IsUrlPath (fields : Table) : Prop where
  known : ∀ field ∈ fields, field.1 ∈ ["source", "delimiter", "pattern"] ∨
    "chunk[".toList <+: field.1.toList
  source : Optional "source" (IsOneOf ["request", "extra"]) fields
  delimiter : Optional "delimiter" (IsText (· ≠ "")) fields
  pattern : Optional "pattern" IsPattern fields
  chunks : ∀ field ∈ fields, "chunk[".toList <+: field.1.toList →
    (∃ index, UrlPathCondition.NamesChunk field.1 index) ∧ IsPattern field.2
  some : ¬ Absent "pattern" fields ∨ ∃ field ∈ fields, "chunk[".toList <+: field.1.toList

/-- The options of a parameter condition: `name` is a string, `scope` is `get`, `post` or `both` in
any case, and `value` depends on `operator`. -/
structure IsUrlParams (fields : Table) : Prop where
  known : ∀ field ∈ fields, field.1 ∈ ["name", "scope", "operator", "value"]
  name : Mandatory "name" IsAnyText fields
  scope : Optional "scope" (IsText fun text => asciiLower text ∈ ["get", "post", "both"]) fields
  test :
    (Optional "operator" (IsOneOf ["isset"]) fields ∨
      Mandatory "operator" (IsOneOf ["isnumeric"]) fields) ∧ Absent "value" fields ∨
    Mandatory "operator" (IsOneOf ["equal"]) fields ∧ Mandatory "value" (· ≠ .null) fields ∨
    Mandatory "operator" (IsOneOf ["regexp"]) fields ∧ Mandatory "value" IsPattern fields

/-- The options of a condition on the identity: `value` is a string, unless `operator` is
`isanon`. -/
structure IsAuthentication (fields : Table) : Prop where
  known : ∀ field ∈ fields, field.1 ∈ ["operator", "value"]
  test :
    (Optional "operator" (IsOneOf ["isuser"]) fields ∨
      Mandatory "operator" (IsOneOf ["ingroup"]) fields) ∧ Mandatory "value" IsAnyText fields ∨
    Mandatory "operator" (IsOneOf ["isanon"]) fields ∧ Absent "value" fields

/-- The options of a request condition: `method` is a string or an array of at least one string,
and `path` is a template.  One of them has to be there. -/
structure IsRequest (fields : Table) : Prop where
  known : ∀ field ∈ fields, field.1 ∈ ["method", "path"]
  method : Optional "method" (fun value => IsAnyText value ∨
    ∃ texts, texts ≠ [] ∧ value = Json.ofStrings texts) fields
  path : Optional "path" IsTemplate fields
  some : ¬ Absent "method" fields ∨ ¬ Absent "path" fields

/-- The options of a Boolean condition that lists the given tables: `operator` is `and`, `or` or
`not`, and `conditions` is an array of tables that is not empty. -/
structure IsBool (tables : List Table) (fields : Table) : Prop where
  known : ∀ field ∈ fields, field.1 ∈ ["operator", "conditions"]
  operator : Optional "operator" (IsOneOf ["and", "or", "not"]) fields
  conditions : Fields.get? "conditions" fields = some (.array (tables.map .object))
  some : tables ≠ []

/-- The tables of conditions, with at most the given number of levels of Boolean conditions.  The
options of a table are its fields without the type. -/
inductive DocumentedTable : Nat → Table → Prop where
  | urlPath {levels : Nat} {table : Table}
      (type : Fields.get? "type" table = some (.string "url_path"))
      (options : IsUrlPath (Fields.erase "type" table)) : DocumentedTable levels table
  | urlParams {levels : Nat} {table : Table}
      (type : Fields.get? "type" table = some (.string "url_params"))
      (options : IsUrlParams (Fields.erase "type" table)) : DocumentedTable levels table
  | authentication {levels : Nat} {table : Table}
      (type : Fields.get? "type" table = some (.string "authentication"))
      (options : IsAuthentication (Fields.erase "type" table)) : DocumentedTable levels table
  | request {levels : Nat} {table : Table}
      (type : Fields.get? "type" table = some (.string "request"))
      (options : IsRequest (Fields.erase "type" table)) : DocumentedTable levels table
  | bool {levels : Nat} {table : Table} {tables : List Table}
      (type : Fields.get? "type" table = some (.string "bool"))
      (options : IsBool tables (Fields.erase "type" table))
      (parts : ∀ part ∈ tables, DocumentedTable levels part) : DocumentedTable (levels + 1) table

/-! ## Options that spell something -/

/-- An option that may be left out spells a value if it is a string that does. -/
lemma exists_reads {α : Type} {spells : String → α → Prop} {byDefault : α} {key : String}
    {fields : Table} :
    (∃ value, Reads spells byDefault (Fields.get? key fields) value) ↔
      Optional key (IsText fun text => ∃ value, spells text value) fields := by
  unfold Optional
  generalize Fields.get? key fields = found
  constructor
  · rintro ⟨_, _ | h⟩ value hvalue
    · cases hvalue
    · cases hvalue
      exact ⟨_, rfl, _, h⟩
  · intro h
    cases found with
    | none => exact ⟨_, .absent⟩
    | some value =>
      obtain ⟨text, rfl, found, hspells⟩ := h value rfl
      exact ⟨found, .present hspells⟩

/-- The sources by their names. -/
lemma exists_source_name {text : String} :
    (∃ source : PathSource, text = source.name) ↔ text ∈ ["request", "extra"] := by
  constructor
  · rintro ⟨source, rfl⟩
    cases source <;> simp [PathSource.name]
  · intro h
    rcases List.mem_pair.1 h with rfl | rfl
    · exact ⟨.request, rfl⟩
    · exact ⟨.extra, rfl⟩

/-- The scopes by their names. -/
lemma exists_scope_name {text : String} :
    (∃ scope : Scope, text = scope.name) ↔ text ∈ ["get", "post", "both"] := by
  simp only [List.mem_cons, List.not_mem_nil, or_false]
  constructor
  · rintro ⟨scope, rfl⟩
    cases scope <;> simp [Scope.name]
  · rintro (rfl | rfl | rfl)
    · exact ⟨.get, rfl⟩
    · exact ⟨.post, rfl⟩
    · exact ⟨.both, rfl⟩

/-- The operators by their names. -/
lemma exists_operator_name {text : String} :
    (∃ operator : BoolOperator, text = operator.name) ↔ text ∈ ["and", "or", "not"] := by
  simp only [List.mem_cons, List.not_mem_nil, or_false]
  constructor
  · rintro ⟨operator, rfl⟩
    cases operator <;> simp [BoolOperator.name]
  · rintro (rfl | rfl | rfl)
    · exact ⟨.and, rfl⟩
    · exact ⟨.or, rfl⟩
    · exact ⟨.not, rfl⟩

/-! ## Paths -/

namespace UrlPathCondition

variable {fields : Table}

/-- An insertion leaves something. -/
lemma insertChunk_ne_nil (index : Int) (regex : Regex.Compiled)
    (chunks : List (Int × Regex.Compiled)) : insertChunk index regex chunks ≠ [] := by
  fun_cases insertChunk index regex chunks <;> simp

/-- If something has been read, something is kept. -/
lemma insertChunks_eq_nil {read : List (Int × Regex.Compiled)} :
    insertChunks read = [] ↔ read = [] := by
  induction read using List.reverseRecOn with
  | nil => simp [insertChunks]
  | append_singleton read last ih => simp [insertChunks_concat, insertChunk_ne_nil]

/-- The chunk options are those that begin like one. -/
lemma mem_chunkOptions {field : String × Json} :
    field ∈ chunkOptions fields ↔ field ∈ fields ∧ "chunk[".toList <+: field.1.toList := by
  rw [chunkOptions, List.mem_filter, isChunkKey_iff, chunkOpening]

/-- The other options are known if all options are, apart from those that begin like a chunk
option. -/
lemma known_otherOptions {names : List String} :
    Known names (otherOptions fields) ↔
      ∀ field ∈ fields, field.1 ∈ names ∨ "chunk[".toList <+: field.1.toList := by
  simp only [Known, otherOptions, List.mem_filter, Bool.not_eq_true', ← Bool.not_eq_true,
    isChunkKey_iff, chunkOpening]
  exact forall_congr' fun field => by tauto

/-- A chunk option spells something if it has the name of one and can be compiled. -/
lemma exists_spellsChunk {field : String × Json} :
    (∃ chunk, SpellsChunk field chunk) ↔
      (∃ index, NamesChunk field.1 index) ∧ IsPattern field.2 := by
  constructor
  · rintro ⟨chunk, hname, pattern, hpattern, hregex⟩
    exact ⟨⟨_, hname⟩, pattern, hpattern, _, hregex⟩
  · rintro ⟨⟨index, hname⟩, pattern, hpattern, regex, hregex⟩
    exact ⟨(index, regex), hname, pattern, hpattern, hregex⟩

/-- There is a pattern if the option is there. -/
lemma pattern_eq_none {found : Option Json} {pattern : Option Regex.Compiled}
    (h : Reads Compiles none found pattern) : pattern = none ↔ found = none := by
  obtain _ | ⟨_, _, rfl⟩ := h <;> simp

/-- Something is tested if there is a pattern or a chunk option. -/
lemma exists_test_iff {pattern : Option Regex.Compiled} {read : List (Int × Regex.Compiled)}
    (hpattern : Reads Compiles none (Fields.get? "pattern" fields) pattern)
    (hread : List.Forall₂ SpellsChunk (chunkOptions fields) read) :
    (pattern ≠ none ∨ insertChunks read ≠ []) ↔
      (¬ Absent "pattern" fields ∨ ∃ field ∈ fields, "chunk[".toList <+: field.1.toList) := by
  have hempty : read = [] ↔ chunkOptions fields = [] := by
    rw [← List.length_eq_zero_iff, ← hread.length_eq, List.length_eq_zero_iff]
  rw [Ne, pattern_eq_none hpattern, Ne, insertChunks_eq_nil, hempty, Absent,
    List.eq_nil_iff_forall_not_mem, not_forall_not]
  simp only [mem_chunkOptions]

/-- **The options of path conditions.** -/
theorem exists_speltBy : (∃ condition : UrlPathCondition, condition.SpeltBy fields) ↔
    IsUrlPath fields := by
  have hsource : (∃ source, Reads (fun text source => text = source.name) PathSource.request
      (Fields.get? "source" fields) source) ↔
      Optional "source" (IsOneOf ["request", "extra"]) fields := by
    simp only [exists_reads, exists_source_name, IsOneOf]
  have hdelimiter : (∃ delimiter, Reads (fun text delimiter => text = delimiter ∧ text ≠ "") "/"
      (Fields.get? "delimiter" fields) delimiter) ↔
      Optional "delimiter" (IsText (· ≠ "")) fields := by
    simp only [exists_reads, exists_eq_left']
  have hpattern : (∃ pattern, Reads Compiles none (Fields.get? "pattern" fields) pattern) ↔
      Optional "pattern" IsPattern fields := by
    simp only [exists_reads, IsPattern, Compiles, exists_comm (α := Option _), exists_and_left,
      exists_eq, and_true]
  have hchunks : (∃ read, List.Forall₂ SpellsChunk (chunkOptions fields) read) ↔
      ∀ field ∈ fields, "chunk[".toList <+: field.1.toList →
        (∃ index, NamesChunk field.1 index) ∧ IsPattern field.2 := by
    simp only [exists_forall₂, exists_spellsChunk, mem_chunkOptions, and_imp]
  constructor
  · rintro ⟨⟨_, _, pattern, _⟩, hknown, hs, hd, hp, ⟨read, hread, rfl⟩, hany⟩
    exact ⟨known_otherOptions.1 hknown, hsource.1 ⟨_, hs⟩, hdelimiter.1 ⟨_, hd⟩,
      hpattern.1 ⟨_, hp⟩, hchunks.1 ⟨_, hread⟩, (exists_test_iff hp hread).1 hany⟩
  · rintro ⟨hknown, hs, hd, hp, hc, hany⟩
    obtain ⟨source, hs⟩ := hsource.2 hs
    obtain ⟨delimiter, hd⟩ := hdelimiter.2 hd
    obtain ⟨pattern, hp⟩ := hpattern.2 hp
    obtain ⟨read, hread⟩ := hchunks.2 hc
    exact ⟨⟨source, delimiter, pattern, insertChunks read⟩, known_otherOptions.2 hknown, hs, hd, hp,
      ⟨read, hread, rfl⟩, (exists_test_iff hp hread).2 hany⟩

end UrlPathCondition

/-! ## Parameters, identities and requests -/

variable {fields : Table}

/-- An option that spells another name than the default has to be there. -/
lemma reads_eq_of_ne {key byDefault name : String} (hname : name ≠ byDefault) :
    Reads Eq byDefault (Fields.get? key fields) name ↔ Mandatory key (IsOneOf [name]) fields := by
  unfold Mandatory IsOneOf IsText
  generalize Fields.get? key fields = found
  constructor
  · rintro (_ | rfl)
    · exact absurd rfl hname
    · exact ⟨_, rfl, _, rfl, List.mem_singleton_self _⟩
  · rintro ⟨_, rfl, _, rfl, h⟩
    exact .present (List.mem_singleton.1 h)

/-- An option that spells the default is left out, or names it. -/
lemma reads_eq_default {key byDefault : String} :
    Reads Eq byDefault (Fields.get? key fields) byDefault ↔
      Optional key (IsOneOf [byDefault]) fields := by
  unfold Optional IsOneOf IsText
  generalize Fields.get? key fields = found
  constructor
  · rintro (_ | rfl) value hvalue
    · cases hvalue
    · cases hvalue
      exact ⟨_, rfl, List.mem_singleton_self _⟩
  · intro h
    cases found with
    | none => exact .absent
    | some value =>
      obtain ⟨text, rfl, htext⟩ := h value rfl
      exact .present (List.mem_singleton.1 htext)

/-- **The options of parameter conditions.** -/
theorem UrlParamsCondition.exists_speltBy :
    (∃ condition : UrlParamsCondition, condition.SpeltBy fields) ↔ IsUrlParams fields := by
  have hscope : (∃ scope, Reads (fun text scope => asciiLower text = scope.name) Scope.both
      (Fields.get? "scope" fields) scope) ↔
      Optional "scope" (IsText fun text => asciiLower text ∈ ["get", "post", "both"]) fields := by
    simp only [exists_reads, exists_scope_name]
  constructor
  · rintro ⟨⟨name, operator, scope⟩, hknown, hname, hs, operator, hoperator, htest⟩
    refine ⟨hknown, ⟨_, hname, name, rfl, trivial⟩, hscope.1 ⟨_, hs⟩, ?_⟩
    generalize hvalue : Fields.get? "value" fields = value at htest
    cases htest with
    | isSet => exact .inl ⟨.inl (reads_eq_default.1 hoperator), hvalue⟩
    | isNumeric => exact .inl ⟨.inr ((reads_eq_of_ne (by decide)).1 hoperator), hvalue⟩
    | equal value hnull =>
      exact .inr (.inl ⟨(reads_eq_of_ne (by decide)).1 hoperator, value, hvalue, hnull⟩)
    | @regexp pattern regex hregex =>
      exact .inr (.inr ⟨(reads_eq_of_ne (by decide)).1 hoperator, _, hvalue, pattern, rfl, regex,
        hregex⟩)
  · rintro ⟨hknown, ⟨_, hname, name, rfl, -⟩, hs, htest⟩
    obtain ⟨scope, hs⟩ := hscope.2 hs
    obtain ⟨operator, hoperator⟩ : ∃ operator, ∃ test,
        Reads Eq "isset" (Fields.get? "operator" fields) test ∧
          Tests test (Fields.get? "value" fields) operator := by
      rcases htest with ⟨hoperator | hoperator, hvalue⟩ | ⟨hoperator, value, hvalue, hnull⟩ |
        ⟨hoperator, _, hvalue, pattern, rfl, regex, hregex⟩
      · exact ⟨.isSet, "isset", reads_eq_default.2 hoperator, hvalue.symm ▸ .isSet⟩
      · exact ⟨.isNumeric, "isnumeric", (reads_eq_of_ne (by decide)).2 hoperator,
          hvalue.symm ▸ .isNumeric⟩
      · exact ⟨.equal value, "equal", (reads_eq_of_ne (by decide)).2 hoperator,
          hvalue.symm ▸ .equal value hnull⟩
      · exact ⟨.regexp regex, "regexp", (reads_eq_of_ne (by decide)).2 hoperator,
          hvalue.symm ▸ .regexp hregex⟩
    exact ⟨⟨name, operator, scope⟩, hknown, hname, hs, hoperator⟩

/-- **The options of conditions on the identity.** -/
theorem AuthenticationCondition.exists_speltBy :
    (∃ condition : AuthenticationCondition, condition.SpeltBy fields) ↔
      IsAuthentication fields := by
  constructor
  · rintro ⟨condition, hknown, operator, hoperator, htest⟩
    refine ⟨hknown, ?_⟩
    generalize hvalue : Fields.get? "value" fields = value at htest
    cases htest with
    | isUser name => exact .inl ⟨.inl (reads_eq_default.1 hoperator), _, hvalue, name, rfl, trivial⟩
    | inGroup name =>
      exact .inl ⟨.inr ((reads_eq_of_ne (by decide)).1 hoperator), _, hvalue, name, rfl, trivial⟩
    | isAnonymous => exact .inr ⟨(reads_eq_of_ne (by decide)).1 hoperator, hvalue⟩
  · rintro ⟨hknown, ⟨hoperator | hoperator, _, hvalue, name, rfl, -⟩ | ⟨hoperator, hvalue⟩⟩
    · exact ⟨.isUser name, hknown, "isuser", reads_eq_default.2 hoperator,
        hvalue.symm ▸ .isUser name⟩
    · exact ⟨.inGroup name, hknown, "ingroup", (reads_eq_of_ne (by decide)).2 hoperator,
        hvalue.symm ▸ .inGroup name⟩
    · exact ⟨.isAnonymous, hknown, "isanon", (reads_eq_of_ne (by decide)).2 hoperator,
        hvalue.symm ▸ .isAnonymous⟩

namespace RequestCondition

/-- An option that may be left out spells methods if it lists at least one text. -/
lemma exists_methods : (∃ methods, Methods (Fields.get? "method" fields) methods) ↔
    Optional "method" (fun value => IsAnyText value ∨
      ∃ texts, texts ≠ [] ∧ value = Json.ofStrings texts) fields := by
  unfold Optional
  generalize Fields.get? "method" fields = found
  constructor
  · rintro ⟨_, _ | ⟨⟨text⟩ | ⟨texts⟩, hsome⟩⟩ value hvalue
    · cases hvalue
    · cases hvalue
      exact .inl ⟨text, rfl, trivial⟩
    · cases hvalue
      exact .inr ⟨_, hsome, rfl⟩
  · intro h
    cases found with
    | none => exact ⟨_, .absent⟩
    | some value =>
      rcases h value rfl with ⟨text, rfl, -⟩ | ⟨texts, hsome, rfl⟩
      · exact ⟨_, .listed (.one text) (List.cons_ne_nil _ _)⟩
      · exact ⟨_, .listed (.array texts) hsome⟩

/-- There are methods if the option is there. -/
lemma methods_eq_nil {found : Option Json} {methods : List String} (h : Methods found methods) :
    methods = [] ↔ found = none := by
  obtain _ | ⟨_, hsome⟩ := h <;> simp_all

/-- There is a template if the option is there. -/
lemma path_eq_none {found : Option Json} {path : Option PathTemplate}
    (h : Reads Compiles none found path) : path = none ↔ found = none := by
  obtain _ | ⟨_, _, rfl⟩ := h <;> simp

/-- **The options of request conditions.** -/
theorem exists_speltBy :
    (∃ condition : RequestCondition, condition.SpeltBy fields) ↔ IsRequest fields := by
  have hpath : (∃ path, Reads Compiles none (Fields.get? "path" fields) path) ↔
      Optional "path" IsTemplate fields := by
    simp only [exists_reads, IsTemplate, Compiles, exists_comm (α := Option _), exists_and_left,
      exists_eq, and_true]
  have hany : ∀ methods path, Methods (Fields.get? "method" fields) methods →
      Reads Compiles none (Fields.get? "path" fields) path →
      ((methods ≠ [] ∨ path ≠ none) ↔ (¬ Absent "method" fields ∨ ¬ Absent "path" fields)) := by
    intro methods path hmethods hpath
    rw [Ne, methods_eq_nil hmethods, Ne, path_eq_none hpath, Absent, Absent]
  constructor
  · rintro ⟨condition, hknown, hm, hp, hsome⟩
    exact ⟨hknown, exists_methods.1 ⟨_, hm⟩, hpath.1 ⟨_, hp⟩, (hany _ _ hm hp).1 hsome⟩
  · rintro ⟨hknown, hm, hp, hsome⟩
    obtain ⟨methods, hm⟩ := exists_methods.2 hm
    obtain ⟨path, hp⟩ := hpath.2 hp
    exact ⟨⟨methods, path⟩, hknown, hm, hp, (hany _ _ hm hp).2 hsome⟩

end RequestCondition

/-! ## Boolean conditions -/

/-- The options of Boolean conditions. -/
lemma BoolOperator.exists_speltBy {tables : List Table} :
    (∃ operator : BoolOperator, operator.SpeltBy tables fields) ↔ IsBool tables fields := by
  have hoperator : (∃ operator, Reads (fun text operator => text = operator.name) BoolOperator.and
      (Fields.get? "operator" fields) operator) ↔
      Optional "operator" (IsOneOf ["and", "or", "not"]) fields := by
    simp only [exists_reads, exists_operator_name, IsOneOf]
  constructor
  · rintro ⟨operator, hknown, ho, hparts, hsome⟩
    exact ⟨hknown, hoperator.1 ⟨_, ho⟩, hparts, hsome⟩
  · rintro ⟨hknown, ho, hparts, hsome⟩
    obtain ⟨operator, ho⟩ := hoperator.2 ho
    exact ⟨operator, hknown, ho, hparts, hsome⟩

/-- **The documented tables are those that spell a condition.** -/
theorem Condition.exists_spelt_iff {levels : Nat} {table : Table} :
    (∃ condition, Condition.Spelt levels table condition) ↔ DocumentedTable levels table := by
  constructor
  · rintro ⟨condition, h⟩
    induction h with
    | urlPath type options => exact .urlPath type (UrlPathCondition.exists_speltBy.1 ⟨_, options⟩)
    | urlParams type options =>
      exact .urlParams type (UrlParamsCondition.exists_speltBy.1 ⟨_, options⟩)
    | authentication type options =>
      exact .authentication type (AuthenticationCondition.exists_speltBy.1 ⟨_, options⟩)
    | request type options => exact .request type (RequestCondition.exists_speltBy.1 ⟨_, options⟩)
    | bool type options length parts ih =>
      exact .bool type (BoolOperator.exists_speltBy.1 ⟨_, options⟩) (forall_mem_of_zip length ih)
  · intro h
    induction h with
    | urlPath type options =>
      obtain ⟨condition, hspelt⟩ := UrlPathCondition.exists_speltBy.2 options
      exact ⟨_, .urlPath type hspelt⟩
    | urlParams type options =>
      obtain ⟨condition, hspelt⟩ := UrlParamsCondition.exists_speltBy.2 options
      exact ⟨_, .urlParams type hspelt⟩
    | authentication type options =>
      obtain ⟨condition, hspelt⟩ := AuthenticationCondition.exists_speltBy.2 options
      exact ⟨_, .authentication type hspelt⟩
    | request type options =>
      obtain ⟨condition, hspelt⟩ := RequestCondition.exists_speltBy.2 options
      exact ⟨_, .request type hspelt⟩
    | bool type options parts ih =>
      obtain ⟨operator, hspelt⟩ := BoolOperator.exists_speltBy.2 options
      obtain ⟨conditions, hparts⟩ := exists_forall₂.2 ih
      obtain ⟨hlength, hparts⟩ := List.forall₂_iff_zip.1 hparts
      exact ⟨_, .bool type hspelt hlength fun part hpart => hparts hpart⟩

/-- **The registry accepts exactly the documented tables.**  It builds a condition of a table if and
only if the table is one of the language, with at most eight levels of Boolean conditions. -/
theorem ConditionRegistry.constructTable_accepts (table : Table) :
    (∃ condition, builtins.constructTable table = .ok condition) ↔ DocumentedTable 8 table := by
  simp only [constructTable_eq_ok, Condition.exists_spelt_iff]

end RequestRouting
