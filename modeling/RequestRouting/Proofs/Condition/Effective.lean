import Mathlib
import RequestRouting.Proofs.Condition.Construction

/-!
# Reported conditions can be read again

A condition reports a table.  It does not look like the table of which the condition was built:
defaults are written out, methods are in upper case, and every index has one name.  But it spells
the same condition, with the same levels.

## Main results

* `UrlPathCondition.SpeltBy.config`, `UrlParamsCondition.SpeltBy.config`,
  `AuthenticationCondition.speltBy_config`, `RequestCondition.SpeltBy.config` — the options that a
  leaf reports spell it.
* `Condition.Spelt.config` — so does the table that any condition reports.
* `ConditionRegistry.constructTable_config` — a condition is built again of the table that it
  reports.
-/

set_option autoImplicit false

namespace RequestRouting

open Options

/-! ## Reported tables -/

/-- A report has a type, and options that spell what is reported. -/
def Reports (tag : String) (spells : Table → Prop) (config : Json) : Prop :=
  ∃ fields, config = .object fields ∧ Fields.get? "type" fields = some (.string tag) ∧
    spells (Fields.erase "type" fields)

/-- A report of fields whose names differ.  What they spell must not depend on their order. -/
lemma Reports.of_fields {tag : String} {spells : Table → Prop} {fields : List (String × Json)}
    (hnames : ("type" :: fields.map Prod.fst).Nodup)
    (hspells : ∀ options : Table, options.Perm fields →
      (∀ key, Fields.get? key options = Fields.get? key fields) → spells options) :
    Reports tag spells (Json.ofFields (("type", .string tag) :: fields)) := by
  have hfresh : ∀ field ∈ fields, field.1 ≠ "type" := fun field hfield htype =>
    (List.nodup_cons.1 hnames).1 (htype ▸ List.mem_map_of_mem hfield)
  have hall : ((("type", Json.string tag) :: fields).map Prod.fst).Nodup := hnames
  refine ⟨_, rfl, Fields.get?_ofList hall _, hspells _ ?_ fun key => ?_⟩
  · have herase : Fields.erase "type" (("type", Json.string tag) :: fields) = fields := by
      simpa [Fields.erase, List.filter_eq_self] using hfresh
    exact ((Fields.ofList_perm hall).filter _).trans (.of_eq herase)
  · by_cases hkey : "type" = key
    · subst hkey
      rw [Fields.get?_erase_self, Fields.get?_eq_none.2 hfresh]
    · rw [Fields.get?_erase_of_ne hkey, Fields.get?_ofList hall, Fields.get?, if_neg hkey]

/-- Options are known in any order. -/
lemma Options.Known.of_perm {names : List String} {options fields : List (String × Json)}
    (hperm : options.Perm fields) (h : Known names fields) : Known names options :=
  fun field hfield => h field (hperm.mem_iff.1 hfield)

/-! ## Identities -/

/-- A condition on the identity reports options that spell it. -/
lemma AuthenticationCondition.reports (condition : AuthenticationCondition) :
    Reports "authentication" condition.SpeltBy condition.config := by
  cases condition with
  | isUser name =>
    refine .of_fields (by simp) fun options hperm hget =>
      ⟨.of_perm hperm (by simp [Known]), "isuser", ?_, ?_⟩
    · rw [hget]
      exact .present rfl
    · rw [hget]
      exact .isUser name
  | inGroup name =>
    refine .of_fields (by simp) fun options hperm hget =>
      ⟨.of_perm hperm (by simp [Known]), "ingroup", ?_, ?_⟩
    · rw [hget]
      exact .present rfl
    · rw [hget]
      exact .inGroup name
  | isAnonymous =>
    refine .of_fields (by simp) fun options hperm hget =>
      ⟨.of_perm hperm (by simp [Known]), "isanon", ?_, ?_⟩
    · rw [hget]
      exact .present rfl
    · rw [hget]
      exact .isAnonymous

/-! ## Parameters -/

/-- A text in lower case stays as it is. -/
lemma asciiLower_name (scope : Scope) : asciiLower scope.name = scope.name := by
  cases scope <;> decide

namespace UrlParamsCondition

/-- The option `value` that a test reports. -/
def reportedValue : ParamOperator → Option Json
  | .equal value => some value
  | .regexp regex => some (.string regex.source)
  | .isSet | .isNumeric => none

/-- A condition reports its test by name, with the option that the test needs. -/
lemma config_eq (condition : UrlParamsCondition) :
    condition.config = Json.ofFields (("type", .string "url_params") ::
      ([("name", .string condition.name), ("operator", .string condition.operator.name),
        ("scope", .string condition.scope.name)] ++
      (reportedValue condition.operator).toList.map fun value => ("value", value))) := by
  obtain ⟨name, _ | _ | _ | _, scope⟩ := condition <;> rfl

/-- The option that a test needs is the one that it reports. -/
lemma Tests.reported {name : String} {value : Option Json} {operator : ParamOperator}
    (h : Tests name value operator) :
    Tests operator.name (reportedValue operator) operator := by
  cases h with
  | isSet => exact .isSet
  | isNumeric => exact .isNumeric
  | equal value hnull => exact .equal value hnull
  | regexp hregex => exact .regexp (Regex.source_of_compile hregex ▸ hregex)

/-- A condition on a parameter reports options that spell it. -/
lemma SpeltBy.reports {condition : UrlParamsCondition} {fields : Table}
    (h : condition.SpeltBy fields) : Reports "url_params" condition.SpeltBy condition.config := by
  obtain ⟨-, -, -, text, -, htest⟩ := h
  have htest := htest.reported
  rw [config_eq]
  generalize reportedValue condition.operator = value at htest
  refine .of_fields (by cases value <;> simp) fun options hperm hget =>
    ⟨.of_perm hperm (by cases value <;> simp [Known]), ?_, ?_, condition.operator.name, ?_, ?_⟩
  · rw [hget]
    rfl
  · rw [hget]
    exact .present (asciiLower_name condition.scope)
  · rw [hget]
    exact .present rfl
  · rw [hget]
    cases value <;> exact htest

end UrlParamsCondition

/-! ## Methods and templates -/

namespace RequestCondition

/-- A method in upper case stays as it is. -/
lemma asciiUpper_asciiUpper (text : String) : asciiUpper (asciiUpper text) = asciiUpper text := by
  simp [asciiUpper, Function.comp_def]

/-- The option `method` that is reported. -/
def reportedMethods (methods : List String) : Option Json :=
  if methods.isEmpty then none else some (Json.ofStrings methods)

/-- The option `path` that is reported. -/
def reportedPath (path : Option PathTemplate) : Option Json :=
  path.map fun path => .string path.text

/-- A condition reports its methods and its template if there are any. -/
lemma config_eq (condition : RequestCondition) :
    condition.config = Json.ofFields (("type", .string "request") ::
      ((reportedMethods condition.methods).toList.map (fun value => ("method", value)) ++
        (reportedPath condition.path).toList.map fun value => ("path", value))) := by
  obtain ⟨_ | _, _ | _⟩ := condition <;> rfl

/-- Methods that are reported are read as they are. -/
lemma Methods.reported {found : Option Json} {methods : List String} (h : Methods found methods) :
    Methods (reportedMethods methods) methods := by
  cases h with
  | absent => exact .absent
  | @listed value texts hlists hsome =>
    have hupper : (texts.map asciiUpper).map asciiUpper = texts.map asciiUpper := by
      simp [asciiUpper_asciiUpper]
    have hne : texts.map asciiUpper ≠ [] := by simpa using hsome
    rw [reportedMethods, if_neg (by simpa using hsome)]
    simpa only [hupper] using Methods.listed (.array (texts.map asciiUpper)) hne

/-- A template that is reported is compiled again. -/
lemma reads_reportedPath {found : Option Json} {path : Option PathTemplate}
    (h : Reads Compiles none found path) : Reads Compiles none (reportedPath path) path := by
  obtain _ | ⟨template, htemplate, rfl⟩ := h
  · exact .absent
  · exact .present ⟨template, htemplate, rfl⟩

/-- A condition on methods and the path reports options that spell it. -/
lemma SpeltBy.reports {condition : RequestCondition} {fields : Table}
    (h : condition.SpeltBy fields) : Reports "request" condition.SpeltBy condition.config := by
  obtain ⟨-, hmethods, hpath, hsome⟩ := h
  have hmethods := hmethods.reported
  have hpath := reads_reportedPath hpath
  rw [config_eq]
  generalize reportedMethods condition.methods = methods at hmethods
  generalize reportedPath condition.path = path at hpath
  refine .of_fields (by cases methods <;> cases path <;> simp) fun options hperm hget =>
    ⟨.of_perm hperm (by cases methods <;> cases path <;> simp [Known]), ?_, ?_, hsome⟩
  · rw [hget]
    cases methods <;> cases path <;> exact hmethods
  · rw [hget]
    cases methods <;> cases path <;> exact hpath

end RequestCondition

/-! ## Paths -/

namespace UrlPathCondition

/-- The option `pattern` that is reported. -/
def reportedPattern (pattern : Option Regex.Compiled) : Option Json :=
  pattern.map fun regex => .string regex.source

/-- The option that is reported for a chunk. -/
def reportedChunk (chunk : Int × Regex.Compiled) : String × Json :=
  (chunkKey chunk.1, .string chunk.2.source)

/-- A condition reports its source and its delimiter, and its patterns if there are any. -/
lemma config_eq (condition : UrlPathCondition) :
    condition.config = Json.ofFields (("type", .string "url_path") ::
      ([("source", .string condition.source.name), ("delimiter", .string condition.delimiter)] ++
        (reportedPattern condition.pattern).toList.map (fun value => ("pattern", value)) ++
        condition.chunks.map reportedChunk)) := by
  obtain ⟨source, delimiter, _ | _, chunks⟩ := condition <;> rfl

/-- A pattern that is reported is compiled again. -/
lemma reads_reportedPattern {found : Option Json} {pattern : Option Regex.Compiled}
    (h : Reads Compiles none found pattern) :
    Reads Compiles none (reportedPattern pattern) pattern := by
  obtain _ | ⟨regex, hregex, rfl⟩ := h
  · exact .absent
  · exact .present ⟨regex, (Regex.source_of_compile hregex).symm ▸ hregex, rfl⟩

/-- What is reported for a chunk spells it. -/
lemma SpellsChunk.reported {field : String × Json} {chunk : Int × Regex.Compiled}
    (h : SpellsChunk field chunk) : SpellsChunk (reportedChunk chunk) chunk := by
  obtain ⟨hname, pattern, -, hregex⟩ := h
  exact ⟨namesChunk_chunkKey hname.inRange, _, rfl, Regex.source_of_compile hregex ▸ hregex⟩

/-- Of the reported options those are chunk options that are reported for chunks. -/
lemma chunkOptions_reported {fields : Table} {chunks : List (Int × Regex.Compiled)}
    (hfields : ∀ field ∈ fields, isChunkKey field.1 = false)
    (hchunks : ∀ chunk ∈ chunks, SpellsChunk (reportedChunk chunk) chunk) :
    chunkOptions (fields ++ chunks.map reportedChunk) = chunks.map reportedChunk := by
  have hleft : chunkOptions fields = [] := by
    simpa [chunkOptions] using hfields
  have hright : chunkOptions (chunks.map reportedChunk) = chunks.map reportedChunk := by
    refine List.filter_eq_self.2 (List.forall_mem_map.2 fun chunk hchunk => ?_)
    exact (hchunks chunk hchunk).1.isChunkKey
  rw [chunkOptions, List.filter_append, ← chunkOptions, ← chunkOptions, hleft, hright,
    List.nil_append]

/-- Different chunks are reported under different names. -/
lemma nodup_reportedChunk {chunks : List (Int × Regex.Compiled)} (hsorted : SortedChunks chunks)
    (hchunks : ∀ chunk ∈ chunks, SpellsChunk (reportedChunk chunk) chunk) :
    ((chunks.map reportedChunk).map Prod.fst).Nodup := by
  rw [List.map_map]
  refine List.pairwise_map.2 (hsorted.imp_of_mem fun {a b} ha hb hlt hname => ?_)
  have hother : NamesChunk (reportedChunk a).1 b.1 :=
    (show (reportedChunk a).1 = (reportedChunk b).1 from hname) ▸ (hchunks b hb).1
  exact Int.ne_of_lt hlt ((hchunks a ha).1.unique hother)

/-- The fields of a report that are no chunk options. -/
def fixedFields (source : PathSource) (delimiter : String) (pattern : Option Json) :
    List (String × Json) :=
  [("source", .string source.name), ("delimiter", .string delimiter)] ++
    pattern.toList.map fun value => ("pattern", value)

/-- The names of these fields are no names of chunk options. -/
lemma isChunkKey_fixedFields (source : PathSource) (delimiter : String) (pattern : Option Json) :
    ∀ field ∈ fixedFields source delimiter pattern, isChunkKey field.1 = false := by
  have hkeys : isChunkKey "source" = false ∧ isChunkKey "delimiter" = false ∧
      isChunkKey "pattern" = false := by decide
  cases pattern <;> simp [fixedFields, hkeys]

/-- No two fields of a report have the same name. -/
lemma nodup_reported {fixed : List (String × Json)} {chunks : List (Int × Regex.Compiled)}
    (hfixed : ("type" :: fixed.map Prod.fst).Nodup)
    (hkeys : ∀ field ∈ fixed, isChunkKey field.1 = false) (hsorted : SortedChunks chunks)
    (hchunks : ∀ chunk ∈ chunks, SpellsChunk (reportedChunk chunk) chunk) :
    ("type" :: (fixed ++ chunks.map reportedChunk).map Prod.fst).Nodup := by
  rw [List.map_append, ← List.cons_append, List.nodup_append]
  refine ⟨hfixed, nodup_reportedChunk hsorted hchunks, fun name hname key hkey heq => ?_⟩
  have hfalse : isChunkKey name = false := by
    rcases List.mem_cons.1 hname with rfl | hname
    · decide
    · obtain ⟨field, hfield, rfl⟩ := List.mem_map.1 hname
      exact hkeys field hfield
  rw [List.map_map] at hkey
  obtain ⟨chunk, hchunk, rfl⟩ := List.mem_map.1 hkey
  rw [heq] at hfalse
  exact Bool.false_ne_true (hfalse.symm.trans (hchunks chunk hchunk).1.isChunkKey)

/-- The option `pattern` is found among the fields of a report. -/
lemma get?_pattern_reported {source : PathSource} {delimiter : String} {pattern : Option Json}
    {chunks : List (Int × Regex.Compiled)}
    (hchunks : ∀ chunk ∈ chunks, SpellsChunk (reportedChunk chunk) chunk) :
    Fields.get? "pattern" (fixedFields source delimiter pattern ++ chunks.map reportedChunk) =
      pattern := by
  cases pattern with
  | some value => rfl
  | none =>
    change Fields.get? "pattern" (chunks.map reportedChunk) = none
    refine Fields.get?_eq_none.2 (List.forall_mem_map.2 fun chunk hchunk hname => ?_)
    have hkey := (hchunks chunk hchunk).1.isChunkKey
    rw [hname] at hkey
    exact absurd hkey (by decide)

/-- The other fields of a report are known. -/
lemma known_reported {source : PathSource} {delimiter : String} {pattern : Option Json}
    {chunks : List (Int × Regex.Compiled)}
    (hchunks : ∀ chunk ∈ chunks, SpellsChunk (reportedChunk chunk) chunk) :
    Known ["source", "delimiter", "pattern"]
      (otherOptions (fixedFields source delimiter pattern ++ chunks.map reportedChunk)) := by
  intro field hfield
  obtain ⟨hfield, hother⟩ := List.mem_filter.1 hfield
  rcases List.mem_append.1 hfield with hfield | hfield
  · have hname : field.1 ∈ (fixedFields source delimiter pattern).map Prod.fst :=
      List.mem_map_of_mem hfield
    cases pattern with
    | none => exact List.mem_append_left ["pattern"] hname
    | some value => exact hname
  · obtain ⟨chunk, hchunk, rfl⟩ := List.mem_map.1 hfield
    rw [(hchunks chunk hchunk).1.isChunkKey] at hother
    cases hother

/-- A condition on a path reports options that spell it. -/
lemma SpeltBy.reports {condition : UrlPathCondition} {fields : Table}
    (h : condition.SpeltBy fields) : Reports "url_path" condition.SpeltBy condition.config := by
  obtain ⟨-, hsource, hdelimiter, hpattern, ⟨read, hread, hkept⟩, hsome⟩ := h
  have hpattern := reads_reportedPattern hpattern
  have hsorted : SortedChunks condition.chunks := hkept ▸ sorted_insertChunks read
  have hchunks : ∀ chunk ∈ condition.chunks, SpellsChunk (reportedChunk chunk) chunk := by
    intro chunk hchunk
    rw [hkept] at hchunk
    obtain ⟨field, -, hspells⟩ := exists_mem_of_forall₂ hread.flip (mem_insertChunks hchunk)
    exact SpellsChunk.reported hspells
  rw [config_eq, ← fixedFields]
  generalize reportedPattern condition.pattern = pattern at hpattern
  have hkeys := isChunkKey_fixedFields condition.source condition.delimiter pattern
  have hnames := nodup_reported (by cases pattern <;> simp [fixedFields]) hkeys hsorted hchunks
  refine .of_fields hnames fun options hperm hget => ⟨?_, ?_, ?_, ?_, ?_, hsome⟩
  · exact (known_reported hchunks).of_perm (hperm.filter _)
  · rw [hget]
    exact .present rfl
  · rw [hget]
    exact .present ⟨rfl, delimiter_ne_empty hdelimiter⟩
  · rw [hget, get?_pattern_reported hchunks]
    exact hpattern
  · have hoptions : (chunkOptions options).Perm (condition.chunks.map reportedChunk) :=
      (hperm.filter _).trans (.of_eq (chunkOptions_reported hkeys hchunks))
    have hspells : List.Forall₂ SpellsChunk (condition.chunks.map reportedChunk) condition.chunks :=
      List.forall₂_map_left_iff.2 (List.forall₂_same.2 hchunks)
    obtain ⟨read, hread, hother⟩ := List.perm_comp_forall₂ hoptions hspells
    exact ⟨read, hread, (insertChunks_of_perm hsorted hother).symm⟩

end UrlPathCondition

/-! ## Boolean conditions -/

/-- A Boolean condition reports options that spell it, if its parts report tables. -/
lemma BoolOperator.reports {operator : BoolOperator} {conditions : List Condition}
    {tables : List Table} (hconfigs : Condition.configs conditions = tables.map .object)
    (hsome : tables ≠ []) :
    Reports "bool" (operator.SpeltBy tables) (Condition.bool operator conditions).config := by
  rw [Condition.config, hconfigs]
  refine .of_fields (by simp) fun options hperm hget =>
    ⟨.of_perm hperm (by simp [Known]), ?_, ?_, hsome⟩
  · rw [hget]
    exact .present rfl
  · rw [hget]
    rfl

/-- The reports of conditions that report tables. -/
lemma Condition.configs_eq_map {conditions : List Condition} {tables : List Table}
    {related : Condition → Table → Prop}
    (h : List.Forall₂ related conditions tables)
    (hconfig : ∀ condition table, related condition table → condition.config = .object table) :
    Condition.configs conditions = tables.map .object := by
  induction h with
  | nil => rfl
  | cons hfirst _ ih => rw [configs, hconfig _ _ hfirst, ih, List.map_cons]

/-- **What is reported spells the same condition**, with the same levels.

**Proof sketch.** By induction on the spelling.  The leaves report options that spell them.  The
parts of a Boolean condition report tables that spell them, and these it lists. -/
theorem Condition.Spelt.config {levels : Nat} {table : Table} {condition : Condition}
    (h : Spelt levels table condition) :
    ∃ fields, condition.config = .object fields ∧ Spelt levels fields condition := by
  induction h with
  | urlPath _ options =>
    obtain ⟨fields, hconfig, htype, hspelt⟩ := options.reports
    exact ⟨fields, hconfig, .urlPath htype hspelt⟩
  | urlParams _ options =>
    obtain ⟨fields, hconfig, htype, hspelt⟩ := options.reports
    exact ⟨fields, hconfig, .urlParams htype hspelt⟩
  | @authentication _ _ leaf _ _ =>
    obtain ⟨fields, hconfig, htype, hspelt⟩ := leaf.reports
    exact ⟨fields, hconfig, .authentication htype hspelt⟩
  | request _ options =>
    obtain ⟨fields, hconfig, htype, hspelt⟩ := options.reports
    exact ⟨fields, hconfig, .request htype hspelt⟩
  | @bool levels _ operator tables conditions _ options length _ ih =>
    have hparts : ∀ condition ∈ conditions, ∃ fields,
        condition.config = .object fields ∧ Spelt levels fields condition :=
      forall_mem_of_zip_right length ih
    obtain ⟨reported, hreported⟩ := exists_forall₂.2 hparts
    have hconfigs := configs_eq_map hreported fun _ _ h => h.1
    have hsome : reported ≠ [] := by
      rw [← List.length_pos_iff, ← hreported.length_eq, ← length, List.length_pos_iff]
      exact options.some
    obtain ⟨fields, hconfig, htype, hspelt⟩ : Reports "bool" (operator.SpeltBy reported) _ :=
      BoolOperator.reports hconfigs hsome
    obtain ⟨hlength, hparts⟩ := List.forall₂_iff_zip.1 hreported.flip
    exact ⟨fields, hconfig, .bool htype hspelt hlength fun part hpart => (hparts hpart).2⟩

/-- **Reports can be read again.**  The table that a condition of the registry reports is accepted
again; the condition that is built of it reports the same, and evaluates to the same verdict or
error and the same knowledge on any knowledge. -/
theorem ConditionRegistry.constructTable_config {table : Table} {condition : Condition}
    (h : builtins.constructTable table = .ok condition) :
    ∃ fields rebuilt, condition.config = .object fields ∧
      builtins.constructTable fields = .ok rebuilt ∧ rebuilt.config = condition.config ∧
      ∀ knowledge, rebuilt.evaluate knowledge = condition.evaluate knowledge := by
  obtain ⟨fields, hconfig, hspelt⟩ := (constructTable_eq_ok.1 h).config
  exact ⟨fields, condition, hconfig, constructTable_eq_ok.2 hspelt, rfl, fun _ => rfl⟩

/-- A table that leaves out defaults, and writes indices, methods and a scope as nothing reports
them. -/
def mixedTable : Table :=
  [("conditions", .array [
    .object [("chunk[-0]", .string "a+"), ("chunk[007]", .string "b"),
      ("type", .string "url_path")],
    .object [("conditions", .array [
        .object [("method", .string "gEt"), ("type", .string "request")]]),
      ("operator", .string "not"), ("type", .string "bool")],
    .object [("name", .string "page"), ("scope", .string "POST"), ("type", .string "url_params")]]),
   ("type", .string "bool")]

/-- What the condition of `mixedTable` reports. -/
def mixedReport : Table :=
  [("conditions", .array [
    .object [("chunk[0]", .string "a+"), ("chunk[7]", .string "b"), ("delimiter", .string "/"),
      ("source", .string "request"), ("type", .string "url_path")],
    .object [("conditions", .array [
        .object [("method", .array [.string "GET"]), ("type", .string "request")]]),
      ("operator", .string "not"), ("type", .string "bool")],
    .object [("name", .string "page"), ("operator", .string "isset"), ("scope", .string "post"),
      ("type", .string "url_params")]]),
   ("operator", .string "and"), ("type", .string "bool")]

/-- The registry builds a condition of `mixedTable`, it reports `mixedReport`, and it is built again
of its report. -/
theorem ConditionRegistry.constructTable_config_mixedTable :
    ∃ condition, builtins.constructTable mixedTable = .ok condition ∧
      condition.config.same (.object mixedReport) = true ∧
      ∃ fields rebuilt, condition.config = .object fields ∧
        builtins.constructTable fields = .ok rebuilt ∧ rebuilt.config = condition.config ∧
        ∀ knowledge, rebuilt.evaluate knowledge = condition.evaluate knowledge := by
  have hreport : (builtins.constructTable mixedTable).toOption.any (fun condition =>
      condition.config.same (.object mixedReport)) = true := by decide +kernel
  cases h : builtins.constructTable mixedTable with
  | error e =>
    rw [h] at hreport
    cases hreport
  | ok condition =>
    rw [h] at hreport
    exact ⟨condition, rfl, hreport, constructTable_config h⟩

end RequestRouting
