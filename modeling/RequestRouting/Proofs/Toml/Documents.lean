import RequestRouting.Proofs.Fields
import RequestRouting.Proofs.Toml.Statements

/-!
# Documents built from statements

A document of plain fields, of tables and of arrays of tables has, under each name, what has been
stated there.

## Main definitions

* `Toml.assignments` — the assignments of fields.
* `Toml.itemsOf` — the entries that come of them.

## Main results

* `Toml.get?_fieldsToNodes_itemsOf` — each field of a table is found in it.
* `Toml.foldlM_openTable?_tables` — headers of one name collect their tables in order.
-/

set_option autoImplicit false

namespace RequestRouting

namespace Toml

variable {key : String} {fields : List (String × Node)} {entries : Entries}

/-! ## Fields -/

/-- The assignments of fields. -/
def assignments (fields : List (String × Node)) : List Assignment :=
  fields.map fun field => ⟨[], field.1, field.2⟩

/-- The entries that come of fields. -/
def itemsOf (fields : List (String × Node)) : Entries :=
  Fields.insertAll [] (fields.map fun field => (field.1, .value field.2))

/-- Fields with names of their own are assigned one after another. -/
lemma assignAll?_assignments (entries : Entries) (hnodup : (fields.map Prod.fst).Nodup)
    (hfresh : ∀ field ∈ fields, Fields.get? field.1 entries = none) :
    assignAll? (assignments fields) entries =
      some (Fields.insertAll entries (fields.map fun field => (field.1, .value field.2))) := by
  induction fields generalizing entries with
  | nil => rfl
  | cons field rest ih =>
    obtain ⟨hfirst, hrest⟩ := List.forall_mem_cons.1 hfresh
    obtain ⟨hnotin, hnodup⟩ := List.nodup_cons.1 hnodup
    have hassign : assign? field.1 field.2 [] entries =
        some (Fields.insert field.1 (.value field.2) entries) := by
      simp [assign?, Fields.has, hfirst]
    have hnext : ∀ other ∈ rest,
        Fields.get? other.1 (Fields.insert field.1 (.value field.2) entries) = none := by
      intro other hother
      have hne : field.1 ≠ other.1 := fun heq =>
        hnotin (List.mem_map.2 ⟨other, hother, heq.symm⟩)
      rw [Fields.get?_insert_of_ne hne, hrest other hother]
    unfold assignAll? assignments at ih ⊢
    rw [List.map_cons, List.foldlM_cons, hassign]
    exact ih _ hnodup hnext

/-- What lies under a name in a table. -/
lemma get?_fieldsToNodes (name : String) (entries : Entries) :
    Fields.get? name (fieldsToNodes entries) = (Fields.get? name entries).map Item.toNode := by
  induction entries with
  | nil => rfl
  | cons entry rest ih =>
    obtain ⟨key, item⟩ := entry
    rw [fieldsToNodes, Fields.get?, Fields.get?, ih]
    split <;> rfl

/-- What lies under a name among values. -/
lemma get?_map_value (name : String) (fields : List (String × Node)) :
    Fields.get? name (fields.map fun field => (field.1, Item.value field.2)) =
      (Fields.get? name fields).map Item.value := by
  induction fields with
  | nil => rfl
  | cons field rest ih =>
    rw [List.map_cons, Fields.get?, Fields.get?, ih]
    split <;> rfl

/-- What lies under a name in the entries of fields. -/
lemma get?_itemsOf (hnodup : (fields.map Prod.fst).Nodup) (name : String) :
    Fields.get? name (itemsOf fields) = (Fields.get? name fields).map Item.value := by
  have hnames : ((fields.map fun field => (field.1, Item.value field.2)).map Prod.fst).Nodup := by
    rw [List.map_map]
    exact hnodup
  rw [itemsOf, Fields.get?_insertAll_of_nodup hnames, Fields.get?_nil, Option.or_none,
    get?_map_value]

/-- **Each field of a table is found in it.** -/
theorem get?_fieldsToNodes_itemsOf (hnodup : (fields.map Prod.fst).Nodup) (name : String) :
    Fields.get? name (fieldsToNodes (itemsOf fields)) = Fields.get? name fields := by
  rw [get?_fieldsToNodes, get?_itemsOf hnodup, Option.map_map]
  cases Fields.get? name fields <;> rfl

/-! ## Tables -/

/-- The nodes of tables, one after another. -/
lemma tablesToNodes_eq_map (tables : List Entries) :
    tablesToNodes tables = tables.map fun entries => .table (fieldsToNodes entries) := by
  induction tables with
  | nil => rfl
  | cons entries rest ih => rw [tablesToNodes, ih, List.map_cons]

/-- A header of a new name opens a table, or the first table of an array. -/
lemma openTable?_new (hnew : Fields.get? key entries = none)
    (hnodup : (fields.map Prod.fst).Nodup) (isArray : Bool) :
    openTable? ⟨[], key, isArray, assignments fields⟩ entries =
      some (Fields.insert key (if isArray then .tables [itemsOf fields]
        else .table .explicit (itemsOf fields)) entries) := by
  have hassign := assignAll?_assignments [] hnodup fun _ _ => rfl
  simp only [openTable?, hnew, hassign, bind, Option.bind]
  rfl

/-- A header of an array of tables opens another one. -/
lemma openTable?_next {earlier : List Entries}
    (hearlier : Fields.get? key entries = some (.tables earlier))
    (hnodup : (fields.map Prod.fst).Nodup) :
    openTable? ⟨[], key, true, assignments fields⟩ entries =
      some (Fields.insert key (.tables (itemsOf fields :: earlier)) entries) := by
  have hassign := assignAll?_assignments [] hnodup fun _ _ => rfl
  simp only [openTable?, hearlier, hassign, bind, Option.bind]
  rfl

/-- **Headers of one name collect their tables in order**, and touch nothing else. -/
theorem foldlM_openTable?_tables (records : List (List (String × Node)))
    (hnodup : ∀ fields ∈ records, (fields.map Prod.fst).Nodup) {earlier : List Entries}
    (hearlier : Fields.get? key entries = some (.tables earlier)) :
    ∃ later, (records.map fun fields => (⟨[], key, true, assignments fields⟩ : Section)).foldlM
        (fun acc part => modifyAt? (openTable? part) part.path acc) entries = some later ∧
      Fields.get? key later = some (.tables ((records.map itemsOf).reverse ++ earlier)) ∧
      ∀ other, key ≠ other → Fields.get? other later = Fields.get? other entries := by
  induction records generalizing entries earlier with
  | nil => exact ⟨entries, rfl, hearlier, fun _ _ => rfl⟩
  | cons fields rest ih =>
    obtain ⟨hfirst, hrest⟩ := List.forall_mem_cons.1 hnodup
    obtain ⟨later, hlater, hget, hother⟩ := ih hrest (Fields.get?_insert_self key
      (Item.tables (itemsOf fields :: earlier)) entries)
    refine ⟨later, ?_, ?_, fun other hne => ?_⟩
    · rw [List.map_cons, List.foldlM_cons, modifyAt?, openTable?_next hearlier hfirst]
      exact hlater
    · rw [hget, List.map_cons, List.reverse_cons, List.append_assoc, List.singleton_append]
    · rw [hother other hne, Fields.get?_insert_of_ne hne]

/-! ## Sections -/

/-- The statements of fields. -/
def fieldStatements (fields : List (String × Node)) : List Statement :=
  (assignments fields).map .assign

/-- Fields in front of a header belong to what has been opened before. -/
lemma splitSections_fieldStatements (fields : List (String × Node)) (rest : List Statement) :
    splitSections (fieldStatements fields ++ rest) =
      (assignments fields ++ (splitSections rest).1, (splitSections rest).2) := by
  unfold fieldStatements assignments
  induction fields with
  | nil => rfl
  | cons field fields ih =>
    simp only [List.map_cons, List.cons_append, splitSections, ih]

/-- The statements of a header with fields below it. -/
def sectionStatements (isArray : Bool) (key : String) (fields : List (String × Node)) :
    List Statement :=
  .header [] key isArray :: fieldStatements fields

/-- A header with fields below it is a section. -/
lemma splitSections_sectionStatements (isArray : Bool) (key : String)
    (fields : List (String × Node)) (rest : List Statement) :
    splitSections (sectionStatements isArray key fields ++ rest) =
      ([], ⟨[], key, isArray, assignments fields ++ (splitSections rest).1⟩ ::
        (splitSections rest).2) := by
  simp only [sectionStatements, List.cons_append, splitSections, splitSections_fieldStatements]

/-- Headers with fields below them are sections, one after another. -/
lemma splitSections_flatMap_sectionStatements (isArray : Bool) (key : String)
    (records : List (List (String × Node))) :
    splitSections (records.flatMap (sectionStatements isArray key)) =
      ([], records.map fun fields => ⟨[], key, isArray, assignments fields⟩) := by
  induction records with
  | nil => rfl
  | cons fields rest ih =>
    rw [List.flatMap_cons, splitSections_sectionStatements, ih, List.append_nil, List.map_cons]

end Toml

end RequestRouting
