import RequestRouting.Config.Basic
import RequestRouting.Proofs.Toml.Documents

/-!
# Configurations as TOML

Every configuration can be written and read again, whatever texts are in it: what is absent stays
absent, and lists keep their order.

## Main definitions

* `Config.statements` — the statements that a configuration is written as.

## Main results

* `Config.states_toText` — the text of a configuration makes its statements.
* `Config.ofText?_toText` — the text of a configuration is read as the configuration.
-/

set_option autoImplicit false

namespace RequestRouting

open Toml

/-! ## Writing -/

/-- The field of a text that may be absent. -/
def optionalFields (key : String) (text : Option String) : List (String × Node) :=
  (text.map fun text => (key, Node.text text)).toList

/-- The fields of settings. -/
def Settings.fields (settings : Settings) : List (String × Node) :=
  [("mode", .text settings.mode.name), ("escape_urls", .bool settings.escapeUrls),
    ("clear_extractors", .bool settings.clearExtractors)]

/-- The fields of a resource. -/
def ResourceEntry.fields (entry : ResourceEntry) : List (String × Node) :=
  [("name", .text entry.name), ("pattern", .text entry.pattern)] ++
    optionalFields "description" entry.description

namespace Config

/-- The fields in front of the first header.  An empty list of resources is one of them. -/
def fields (config : Config) : List (String × Node) :=
  ("version", .text config.version) :: (optionalFields "origin" config.origin ++
    ("tables", .array (config.tables.map .text)) ::
      if config.resources.isEmpty then [("resources", .array [])] else [])

/-- The statements that a configuration is written as. -/
def statements (config : Config) : List Statement :=
  fieldStatements config.fields ++ (sectionStatements false "settings" config.settings.fields ++
    (config.resources.map ResourceEntry.fields).flatMap (sectionStatements true "resources"))

end Config

/-- A text that may be absent is written on a line, or not at all. -/
lemma states_writeOptional (key : String) (hkey : BareKey key) (text : Option String) :
    States (writeOptional key text) (fieldStatements (optionalFields key text)) := by
  cases text with
  | none => exact .empty
  | some text => exact states_writeLine key hkey (writes_writeText text)

/-- Settings are written as a table. -/
lemma Settings.states_toText (settings : Settings) :
    States settings.toText (sectionStatements false "settings" settings.fields) := by
  have hheader := states_writeHeader "settings" (by decide) false
  have hmode := states_writeLine "mode" (by decide) (writes_writeText settings.mode.name)
  have hescape := states_writeLine "escape_urls" (by decide) (writes_writeBool settings.escapeUrls)
  have hclear := states_writeLine "clear_extractors" (by decide)
    (writes_writeBool settings.clearExtractors)
  exact ((hheader.append hmode).append hescape).append hclear

/-- A resource is written as a table of an array. -/
lemma ResourceEntry.states_toText (entry : ResourceEntry) :
    States entry.toText (sectionStatements true "resources" entry.fields) := by
  have hheader := states_writeHeader "resources" (by decide) true
  have hname := states_writeLine "name" (by decide) (writes_writeText entry.name)
  have hpattern := states_writeLine "pattern" (by decide) (writes_writeText entry.pattern)
  have hdescription := states_writeOptional "description" (by decide) entry.description
  exact (((states_newline.append hheader).append hname).append hpattern).append hdescription

/-- Resources are written one after another. -/
lemma states_join_toText (entries : List ResourceEntry) :
    States (String.join (entries.map ResourceEntry.toText))
      ((entries.map ResourceEntry.fields).flatMap (sectionStatements true "resources")) := by
  induction entries with
  | nil => exact .empty
  | cons entry rest ih =>
    rw [List.map_cons, String.join_cons, List.map_cons, List.flatMap_cons]
    exact entry.states_toText.append ih

/-- **The text of a configuration makes its statements.** -/
theorem Config.states_toText (config : Config) : States config.toText config.statements := by
  have hversion := states_writeLine "version" (by decide) (writes_writeText config.version)
  have horigin := states_writeOptional "origin" (by decide) config.origin
  have htables := states_writeLine "tables" (by decide) (writes_writeTexts config.tables)
  have hnone : States (if config.resources.isEmpty then writeLine "resources" "[]" else "")
      (fieldStatements (if config.resources.isEmpty then [("resources", .array [])] else [])) := by
    split
    · exact states_writeLine "resources" (by decide) (writes_writeTexts [])
    · exact .empty
  have hall := (((((hversion.append horigin).append htables).append hnone).append
    states_newline).append config.settings.states_toText).append
      (states_join_toText config.resources)
  have hfields : fieldStatements config.fields =
      [.assign ⟨[], "version", .text config.version⟩] ++
        fieldStatements (optionalFields "origin" config.origin) ++
        [.assign ⟨[], "tables", .array (config.tables.map .text)⟩] ++
        fieldStatements (if config.resources.isEmpty then [("resources", .array [])] else []) := by
    simp [Config.fields, fieldStatements, assignments]
  rw [Config.statements, hfields]
  simpa only [Config.toText, List.append_nil, List.append_assoc] using hall

/-! ## Reading -/

/-- Values that are read back one by one are read back as a list. -/
lemma list?_map {α : Type} {read : Node → Option α} {node : α → Node} {values : List α}
    (h : ∀ value ∈ values, read (node value) = some value) :
    Node.list? read (.array (values.map node)) = some values := by
  change (values.map node).mapM read = some values
  induction values with
  | nil => rfl
  | cons value rest ih =>
    obtain ⟨hvalue, hrest⟩ := List.forall_mem_cons.1 h
    rw [List.map_cons, List.mapM_cons, hvalue]
    simp only [bind, Option.bind, ih hrest, pure]

/-- A text that may be absent is read back. -/
lemma optionalField_text {fields : List (String × Node)} {key : String} {text : Option String}
    (h : Fields.get? key fields = text.map .text) :
    optionalField fields key Node.text? = some text := by
  unfold optionalField
  cases text <;> simp [h, Node.text?]

/-- Settings are read back. -/
lemma Settings.ofNode?_of_get? {settings : Settings} {fields : List (String × Node)}
    (h : ∀ name, Fields.get? name fields = Fields.get? name settings.fields) :
    Settings.ofNode? (.table fields) = some settings := by
  have hmode : DispatchMode.ofNode? .toml (.text settings.mode.name) = some settings.mode :=
    DispatchMode.ofName?_name settings.mode
  simp [Settings.ofNode?, Node.fields?, fieldOr, h, Settings.fields, Fields.get?, hmode, Node.bool?]

/-- A resource is read back. -/
lemma ResourceEntry.ofNode?_of_get? {entry : ResourceEntry} {fields : List (String × Node)}
    (h : ∀ name, Fields.get? name fields = Fields.get? name entry.fields) :
    ResourceEntry.ofNode? (.table fields) = some entry := by
  have hdescription : optionalField fields "description" Node.text? = some entry.description := by
    refine optionalField_text ((h "description").trans ?_)
    unfold ResourceEntry.fields optionalFields
    cases entry.description <;> rfl
  simp [ResourceEntry.ofNode?, Node.fields?, requiredField, h, ResourceEntry.fields, Fields.get?,
    isComplete, hdescription, Node.text?]

/-- The names of the fields of settings are distinct. -/
lemma Settings.nodup_fields (settings : Settings) : (settings.fields.map Prod.fst).Nodup := by
  simp [Settings.fields]

/-- The names of the fields of a resource are distinct. -/
lemma ResourceEntry.nodup_fields (entry : ResourceEntry) : (entry.fields.map Prod.fst).Nodup := by
  unfold ResourceEntry.fields optionalFields
  cases entry.description <;> simp

/-- The names of the fields of a configuration are distinct. -/
lemma Config.nodup_fields (config : Config) : (config.fields.map Prod.fst).Nodup := by
  unfold Config.fields optionalFields
  cases config.origin <;> cases config.resources <;> simp

/-- A document that a configuration is read from. -/
structure Config.Document (config : Config) (fields : List (String × Node)) : Prop where
  settings : Fields.get? "settings" fields =
    some (.table (fieldsToNodes (itemsOf config.settings.fields)))
  resources : Fields.get? "resources" fields =
    some (.array (config.resources.map fun entry => .table (fieldsToNodes (itemsOf entry.fields))))
  others : ∀ name, name ≠ "settings" → name ≠ "resources" →
    Fields.get? name fields = Fields.get? name config.fields

/-- A configuration is read from its document. -/
lemma Config.Document.ofNode? {config : Config} {fields : List (String × Node)}
    (h : config.Document fields) : Config.ofNode? (.table fields) = some config := by
  have hversion : Fields.get? "version" fields = some (.text config.version) :=
    (h.others _ (by decide) (by decide)).trans rfl
  have horigin : optionalField fields "origin" Node.text? = some config.origin := by
    refine optionalField_text ((h.others _ (by decide) (by decide)).trans ?_)
    unfold Config.fields optionalFields
    cases config.origin <;> cases config.resources <;> rfl
  have htables : Fields.get? "tables" fields = some (.array (config.tables.map .text)) := by
    refine (h.others _ (by decide) (by decide)).trans ?_
    unfold Config.fields optionalFields
    cases config.origin <;> rfl
  have hsettings : Settings.ofNode? (.table (fieldsToNodes (itemsOf config.settings.fields))) =
      some config.settings :=
    Settings.ofNode?_of_get? (get?_fieldsToNodes_itemsOf config.settings.nodup_fields)
  have hpaths : Node.list? Node.text? (.array (config.tables.map .text)) = some config.tables :=
    list?_map fun _ _ => rfl
  have hentries : Node.list? ResourceEntry.ofNode? (.array (config.resources.map fun entry =>
      .table (fieldsToNodes (itemsOf entry.fields)))) = some config.resources :=
    list?_map fun entry _ =>
      ResourceEntry.ofNode?_of_get? (get?_fieldsToNodes_itemsOf entry.nodup_fields)
  simp only [Config.ofNode?, Node.fields?, requiredField, fieldOr, hversion, horigin, htables,
    h.settings, h.resources, hsettings, hpaths, hentries, bind, Option.bind, Node.text?]

/-- What is built of the fields of a configuration and of the table of its settings. -/
def Config.opened (config : Config) : Entries :=
  Fields.insert "settings" (.table .explicit (itemsOf config.settings.fields))
    (itemsOf config.fields)

/-- The settings are found there. -/
lemma Config.get?_settings_opened (config : Config) :
    Fields.get? "settings" config.opened =
      some (.table .explicit (itemsOf config.settings.fields)) :=
  Fields.get?_insert_self ..

/-- Everything else is found as it was stated. -/
lemma Config.get?_opened (config : Config) {name : String} (h : name ≠ "settings") :
    Fields.get? name config.opened = (Fields.get? name config.fields).map .value := by
  rw [opened, Fields.get?_insert_of_ne (Ne.symm h), get?_itemsOf config.nodup_fields]

/-- Fields and settings are built, and then the resources are collected. -/
lemma Config.build?_eq (config : Config) :
    build? (splitSections config.statements).1 (splitSections config.statements).2 =
      (((config.resources.map ResourceEntry.fields).map fun fields =>
          (⟨[], "resources", true, assignments fields⟩ : Section)).foldlM
        (fun acc part => modifyAt? (openTable? part) part.path acc) config.opened).map
          fun root => .table (fieldsToNodes root) := by
  have hroot : assignAll? (assignments config.fields) [] = some (itemsOf config.fields) :=
    assignAll?_assignments [] config.nodup_fields fun _ _ => rfl
  have hnew : Fields.get? "settings" (itemsOf config.fields) = none := by
    rw [get?_itemsOf config.nodup_fields]
    unfold Config.fields optionalFields
    cases config.origin <;> cases config.resources <;> rfl
  have hsettings := openTable?_new hnew config.settings.nodup_fields false
  rw [statements, splitSections_fieldStatements, splitSections_sectionStatements,
    splitSections_flatMap_sectionStatements, List.append_nil, List.append_nil, build?, hroot]
  simp only [bind, Option.bind_some, List.foldlM_cons, modifyAt?, hsettings, Option.map_eq_bind]
  rfl

/-- The document that is built of a configuration.

**Proof sketch.** The first resource opens an array of tables and the others are added to it; if
there is none, an empty list has been stated instead. -/
lemma Config.exists_build? (config : Config) :
    ∃ fields, build? (splitSections config.statements).1 (splitSections config.statements).2 =
      some (.table fields) ∧ config.Document fields := by
  rw [config.build?_eq]
  cases hresources : config.resources with
  | nil =>
    refine ⟨fieldsToNodes config.opened, rfl, ?_, ?_, fun name hne _ => ?_⟩
    · rw [get?_fieldsToNodes, get?_settings_opened]
      rfl
    · rw [get?_fieldsToNodes, get?_opened _ (by decide), hresources]
      unfold Config.fields optionalFields
      rw [hresources]
      cases config.origin <;> rfl
    · rw [get?_fieldsToNodes, get?_opened _ hne, Option.map_map]
      cases Fields.get? name config.fields <;> rfl
  | cons entry rest =>
    have hnew : Fields.get? "resources" config.opened = none := by
      rw [get?_opened _ (by decide)]
      unfold Config.fields optionalFields
      rw [hresources]
      cases config.origin <;> rfl
    have hfirst := openTable?_new hnew entry.nodup_fields true
    obtain ⟨root, hroot, hget, hother⟩ := foldlM_openTable?_tables
      (rest.map ResourceEntry.fields)
      (List.forall_mem_map.2 fun other _ => other.nodup_fields)
      (Fields.get?_insert_self "resources" (Item.tables [itemsOf entry.fields]) config.opened)
    refine ⟨fieldsToNodes root, ?_, ?_, ?_, fun name hne hne' => ?_⟩
    · rw [List.map_cons, List.map_cons, List.foldlM_cons, modifyAt?, hfirst]
      exact congrArg (Option.map _) hroot
    · rw [get?_fieldsToNodes, hother _ (by decide), Fields.get?_insert_of_ne (by decide),
        get?_settings_opened]
      rfl
    · rw [get?_fieldsToNodes, hget, hresources]
      simp [Item.toNode, tablesToNodes_eq_map, List.map_reverse, Function.comp_def]
    · rw [get?_fieldsToNodes, hother _ (Ne.symm hne'), Fields.get?_insert_of_ne (Ne.symm hne'),
        get?_opened _ hne, Option.map_map]
      cases Fields.get? name config.fields <;> rfl

/-- **The text of a configuration is read as the configuration**, whatever texts are in it.

**Proof sketch.** The text makes the statements that it was written from, one line a statement.  The
tables that these open have the fields of the configuration, from which it is read. -/
theorem Config.ofText?_toText (config : Config) : Config.ofText? config.toText = some config := by
  have hmark : config.toText.toList.head? ≠ some '\uFEFF' := by
    simp [Config.toText, writeLine]
  obtain ⟨fields, hbuild, hdocument⟩ := config.exists_build?
  rw [Config.ofText?, config.states_toText.parse?_eq hmark, hbuild]
  exact hdocument.ofNode?

end RequestRouting
