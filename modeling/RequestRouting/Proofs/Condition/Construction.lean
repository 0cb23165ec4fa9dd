import RequestRouting.Proofs.Condition.Registered
import RequestRouting.Proofs.Condition.Spelling
import RequestRouting.Proofs.Steps

/-!
# How tables spell conditions

A table spells a condition if its type is one of the five tags and its other fields are options
that spell a condition of that kind.  The parts of a Boolean condition are tables again, which are
nested at most eight levels deep.  The registry of the library builds a condition of exactly those
tables that spell one, although it counts the levels beforehand, by a recursion of its own.

## Main definitions

* `Condition.Spelt` — a table spells a condition with a number of levels.

## Main results

* `Condition.Spelt.boolDepth_le` — the levels that are counted beforehand are those that are built.
* `ConditionRegistry.constructTable_eq_ok` — a condition is built of a table that spells it within
  eight levels, and of no other.
-/

set_option autoImplicit false

namespace RequestRouting

open OptionM Options

/-- Options spell a Boolean condition: they name its operator, unless it is `and`, and list at least
one table. -/
structure BoolOperator.SpeltBy (operator : BoolOperator) (tables : List Table)
    (fields : List (String × Json)) : Prop where
  known : Known ["operator", "conditions"] fields
  name : Reads (fun text operator => text = operator.name) .and (Fields.get? "operator" fields)
    operator
  parts : Fields.get? "conditions" fields = some (.array (tables.map .object))
  some : tables ≠ []

/-- A table spells a condition with at most the given number of levels of Boolean conditions. -/
inductive Condition.Spelt : Nat → Table → Condition → Prop where
  | urlPath {levels : Nat} {table : Table} {condition : UrlPathCondition}
      (type : Fields.get? "type" table = some (.string "url_path"))
      (options : condition.SpeltBy (Fields.erase "type" table)) :
    Spelt levels table (.urlPath condition)
  | urlParams {levels : Nat} {table : Table} {condition : UrlParamsCondition}
      (type : Fields.get? "type" table = some (.string "url_params"))
      (options : condition.SpeltBy (Fields.erase "type" table)) :
    Spelt levels table (.urlParams condition)
  | authentication {levels : Nat} {table : Table} {condition : AuthenticationCondition}
      (type : Fields.get? "type" table = some (.string "authentication"))
      (options : condition.SpeltBy (Fields.erase "type" table)) :
    Spelt levels table (.authentication condition)
  | request {levels : Nat} {table : Table} {condition : RequestCondition}
      (type : Fields.get? "type" table = some (.string "request"))
      (options : condition.SpeltBy (Fields.erase "type" table)) :
    Spelt levels table (.request condition)
  | bool {levels : Nat} {table : Table} {operator : BoolOperator} {tables : List Table}
      {conditions : List Condition}
      (type : Fields.get? "type" table = some (.string "bool"))
      (options : operator.SpeltBy tables (Fields.erase "type" table))
      (length : tables.length = conditions.length)
      (parts : ∀ part ∈ tables.zip conditions, Spelt levels part.1 part.2) :
    Spelt (levels + 1) table (.bool operator conditions)

/-! ## Related lists -/

/-- What is known of the first items of all pairs is known of the first list. -/
lemma forall_mem_of_zip {α β : Type} {items : List α} {others : List β} {property : α → Prop}
    (hlength : items.length = others.length)
    (h : ∀ pair ∈ items.zip others, property pair.1) : ∀ item ∈ items, property item := by
  rw [← List.map_fst_zip (Nat.le_of_eq hlength)]
  exact List.forall_mem_map.2 h

/-- What is known of the second items of all pairs is known of the second list. -/
lemma forall_mem_of_zip_right {α β : Type} {items : List α} {others : List β}
    {property : β → Prop} (hlength : items.length = others.length)
    (h : ∀ pair ∈ items.zip others, property pair.2) : ∀ other ∈ others, property other := by
  rw [← List.map_snd_zip (Nat.le_of_eq hlength.symm)]
  exact List.forall_mem_map.2 h

/-! ## The options of Boolean conditions -/

/-- Operators are read by their names. -/
lemma understands_readBoolOperator :
    Understands readBoolOperator (fun text operator => text = operator.name) .and := by
  refine .of_texts rfl fun text => ?_
  simp only [readBoolOperator]
  split_ifs with hand hor hnot
  · exact .inl ⟨.and, rfl, fun other => by cases other <;> simp [hand, BoolOperator.name]⟩
  · exact .inl ⟨.or, rfl, fun other => by cases other <;> simp [hor, BoolOperator.name]⟩
  · exact .inl ⟨.not, rfl, fun other => by cases other <;> simp [hnot, BoolOperator.name]⟩
  · exact .inr ⟨⟨_, rfl⟩, fun other => by cases other <;> assumption⟩

variable {options later : Options}

/-- The parts are listed by an array that is not empty. -/
lemma gives_readParts {found : Option Json} {items : List Json} :
    (readParts found).Gives options items later ↔
      (found = some (.array items) ∧ items ≠ []) ∧ options = later := by
  constructor
  · intro h
    unfold readParts at h
    split at h
    · exact absurd h gives_invalid
    · exact absurd h gives_invalid
    · next listed hempty =>
      obtain ⟨rfl, rfl⟩ := gives_pure.1 h
      exact ⟨⟨rfl, hempty⟩, rfl⟩
    · exact absurd h gives_invalid
  · rintro ⟨⟨rfl, hsome⟩, rfl⟩
    cases items with
    | nil => exact absurd rfl hsome
    | cons item rest => exact gives_pure.2 ⟨rfl, rfl⟩

/-- The parts are built one after another, of tables. -/
lemma gives_buildParts {construct : Table → Except RuleError Condition} {items : List Json}
    {conditions : List Condition} :
    (buildParts construct items).Gives options conditions later ↔
      (∃ tables, items = tables.map .object ∧
        List.Forall₂ (fun table condition => construct table = .ok condition) tables conditions) ∧
      options = later := by
  fun_induction buildParts construct items generalizing options later conditions with
  | case1 =>
    rw [gives_pure]
    constructor
    · rintro ⟨rfl, rfl⟩
      exact ⟨⟨[], rfl, .nil⟩, rfl⟩
    · rintro ⟨⟨tables, htables, hbuilt⟩, rfl⟩
      obtain rfl := List.map_eq_nil_iff.1 htables.symm
      cases hbuilt
      exact ⟨rfl, rfl⟩
  | case2 table rest e hfirst =>
    constructor
    · intro h
      exact absurd h gives_throw
    · rintro ⟨⟨tables, htables, hbuilt⟩, -⟩
      obtain ⟨_, _, rfl, ⟨⟩, -⟩ := List.map_eq_cons_iff.1 htables.symm
      obtain _ | ⟨hother, -⟩ := hbuilt
      rw [hfirst] at hother
      cases hother
  | case3 table rest first hfirst ih =>
    simp only [gives_bind, ih, gives_pure]
    constructor
    · rintro ⟨others, _, ⟨⟨tables, rfl, hbuilt⟩, rfl⟩, rfl, rfl⟩
      exact ⟨⟨table :: tables, rfl, .cons hfirst hbuilt⟩, rfl⟩
    · rintro ⟨⟨tables, htables, hbuilt⟩, rfl⟩
      obtain ⟨_, tables, rfl, ⟨⟩, rfl⟩ := List.map_eq_cons_iff.1 htables.symm
      obtain _ | ⟨hother, hbuilt⟩ := hbuilt
      obtain rfl := Except.ok.inj (hfirst.symm.trans hother)
      exact ⟨_, _, ⟨⟨tables, rfl, hbuilt⟩, rfl⟩, rfl, rfl⟩
  | case4 other rest hother =>
    constructor
    · intro h
      exact absurd h gives_invalid
    · rintro ⟨⟨tables, htables, -⟩, -⟩
      obtain ⟨table, _, -, rfl, -⟩ := List.map_eq_cons_iff.1 htables.symm
      exact absurd rfl (hother table)

/-- A Boolean condition is built of the options that spell it, if its parts are, and if the levels
that have been counted are not too many. -/
theorem boolFactory_eq_ok {construct : Table → Except RuleError Condition} {fields : Table}
    {condition : Condition} :
    boolFactory construct fields = .ok condition ↔
      nestingDepth fields ≤ maxConditionDepth ∧
        ∃ operator tables conditions, operator.SpeltBy tables fields ∧
          List.Forall₂ (fun table condition => construct table = .ok condition) tables conditions ∧
          Condition.bool operator conditions = condition := by
  change (boolBuilder construct (nestingDepth fields)).Makes ⟨Condition.boolKind, fields⟩
    condition ↔ _
  unfold boolBuilder
  simp only [makes_unless, makes_read understands_readBoolOperator, makes_bind (take _),
    gives_take, makes_bind (readParts _), gives_readParts,
    makes_bind (buildParts _ _), gives_buildParts, makes_finish, gt_iff_lt, not_lt]
  refine and_congr_right fun _ => ?_
  constructor
  · rintro ⟨operator, hname, _, _, ⟨rfl, rfl⟩, _, _, ⟨⟨hparts, hsome⟩, rfl⟩, conditions, _,
      ⟨⟨tables, rfl, hbuilt⟩, rfl⟩, hknown, hcondition⟩
    simp only [known_without, get?_without, ne_eq, String.reduceEq, not_false_eq_true]
      at hknown hparts
    exact ⟨operator, tables, conditions, ⟨hknown, hname, hparts, by simpa using hsome⟩, hbuilt,
      hcondition⟩
  · rintro ⟨operator, tables, conditions, ⟨hknown, hname, hparts, hsome⟩, hbuilt, hcondition⟩
    exact ⟨operator, hname, _, _, ⟨rfl, rfl⟩, _, _,
      ⟨⟨by simpa using hparts, by simpa using hsome⟩, rfl⟩, conditions, _,
      ⟨⟨tables, rfl, hbuilt⟩, rfl⟩, by simpa [known_without] using hknown, hcondition⟩

/-! ## Levels -/

/-- The levels of the parts are those of the option that lists them. -/
lemma partsDepth_eq (fields : Table) :
    partsDepth fields = ((Fields.get? "conditions" fields).map listedDepth).getD 0 := by
  induction fields with
  | nil => rfl
  | cons field rest ih =>
    obtain ⟨key, value⟩ := field
    by_cases h : key = "conditions" <;> simp [partsDepth, Fields.get?, h, ih]

/-- Tables are nested as deep as the deepest one of them. -/
lemma greatestDepth_le {tables : List Table} {levels : Nat} :
    greatestDepth (tables.map .object) ≤ levels ↔
      ∀ table ∈ tables, boolDepth (.object table) ≤ levels := by
  induction tables with
  | nil => simp [greatestDepth]
  | cons table rest ih =>
    rw [List.map_cons, greatestDepth, Nat.max_le, ih, List.forall_mem_cons]

/-- A Boolean condition has one level more than its parts. -/
lemma boolDepth_eq {table : Table} {tables : List Table}
    (htype : Fields.get? "type" table = some (.string "bool"))
    (hparts : Fields.get? "conditions" table = some (.array (tables.map .object))) :
    boolDepth (.object table) = greatestDepth (tables.map .object) + 1 := by
  have hbool : isBoolTable table = true := by simp [isBoolTable, htype, Condition.boolKind]
  rw [boolDepth, if_pos hbool, partsDepth_eq, hparts, Nat.add_comm]
  rfl

/-- The levels of a Boolean condition are those that its constructor counts. -/
lemma nestingDepth_erase {table : Table}
    (htype : Fields.get? "type" table = some (.string "bool")) :
    nestingDepth (Fields.erase "type" table) = boolDepth (.object table) := by
  have hbool : isBoolTable table = true := by simp [isBoolTable, htype, Condition.boolKind]
  rw [boolDepth, if_pos hbool, nestingDepth, partsDepth_eq, partsDepth_eq table,
    Fields.get?_erase_of_ne (by decide)]

/-- What is not the table of a Boolean condition has no levels. -/
lemma boolDepth_eq_zero {table : Table} {tag : String}
    (htype : Fields.get? "type" table = some (.string tag)) (htag : tag ≠ "bool") :
    boolDepth (.object table) = 0 := by
  have hbool : isBoolTable table = false := by simp [isBoolTable, htype, Condition.boolKind, htag]
  rw [boolDepth, hbool]
  rfl

/-- The levels that are counted beforehand are not more than those of the condition. -/
theorem Condition.Spelt.boolDepth_le {levels : Nat} {table : Table} {condition : Condition}
    (h : Spelt levels table condition) : boolDepth (.object table) ≤ levels := by
  induction h with
  | urlPath type => simp [boolDepth_eq_zero type (by decide)]
  | urlParams type => simp [boolDepth_eq_zero type (by decide)]
  | authentication type => simp [boolDepth_eq_zero type (by decide)]
  | request type => simp [boolDepth_eq_zero type (by decide)]
  | @bool _ table _ tables _ type options length _ ih =>
    have hparts : Fields.get? "conditions" table = some (.array (tables.map .object)) := by
      simpa using options.parts
    rw [boolDepth_eq type hparts]
    exact Nat.succ_le_succ (greatestDepth_le.2 (forall_mem_of_zip length ih))

namespace ConditionRegistry

/-- A table has a tag if its type is a string. -/
lemma tagOf_eq_ok {table : Table} {tag : String} :
    tagOf table = .ok tag ↔ Fields.get? "type" table = some (.string tag) := by
  unfold tagOf
  split <;> simp_all

/-- A table is built by the constructor of its tag, if there is fuel. -/
lemma constructLevels_eq_ok {registry : ConditionRegistry} {fuel : Nat} {table : Table}
    {condition : Condition} :
    registry.constructLevels (fuel + 1) table = .ok condition ↔
      ∃ tag, Fields.get? "type" table = some (.string tag) ∧
        registry.constructWith (registry.constructLevels fuel) tag (Fields.erase "type" table) =
          .ok condition := by
  simp only [← tagOf_eq_ok, constructLevels]
  cases tagOf table with
  | error e => simp [bind, Except.bind]
  | ok tag => simp [bind, Except.bind]

/-- Nothing is built without fuel. -/
lemma constructLevels_zero {registry : ConditionRegistry} {table : Table} {condition : Condition} :
    registry.constructLevels 0 table ≠ .ok condition := by
  unfold constructLevels
  cases tagOf table <;> simp [bind, Except.bind]

/-- A constructor of leaves builds a leaf. -/
lemma exists_of_map_eq_ok {α : Type} {built : Except RuleError α} {leaf : α → Condition}
    {condition : Condition} (h : built.map leaf = .ok condition) :
    ∃ options, built = .ok options ∧ leaf options = condition := by
  cases built with
  | error e => cases h
  | ok options => exact ⟨options, rfl, Except.ok.inj h⟩

/-- What is built of a table is spelt by it, with as many levels as have been counted.

**Proof sketch.** Induction on the fuel.  The level that is counted for a Boolean condition is the
one that its parts need not have. -/
lemma spelt_of_constructLevels {fuel levels : Nat} {table : Table} {condition : Condition}
    (h : builtins.constructLevels fuel table = .ok condition)
    (hlevels : boolDepth (.object table) ≤ levels) : Condition.Spelt levels table condition := by
  induction fuel generalizing levels table condition with
  | zero => exact absurd h constructLevels_zero
  | succ fuel ih =>
    obtain ⟨tag, htype, h⟩ := constructLevels_eq_ok.1 h
    unfold constructWith at h
    split at h
    · next factory hfactory =>
      have hmem := Dict.mem_of_get?_ofList hfactory
      simp only [List.mem_cons, Prod.mk.injEq, List.not_mem_nil, or_false] at hmem
      obtain ⟨rfl, rfl⟩ | ⟨rfl, rfl⟩ | ⟨rfl, rfl⟩ | ⟨rfl, rfl⟩ | ⟨rfl, rfl⟩ := hmem
      · obtain ⟨leaf, hleaf, rfl⟩ := exists_of_map_eq_ok h
        exact .urlPath htype (UrlPathCondition.ofOptions_eq_ok.1 hleaf)
      · obtain ⟨leaf, hleaf, rfl⟩ := exists_of_map_eq_ok h
        exact .urlParams htype (UrlParamsCondition.ofOptions_eq_ok.1 hleaf)
      · obtain ⟨leaf, hleaf, rfl⟩ := exists_of_map_eq_ok h
        exact .authentication htype (AuthenticationCondition.ofOptions_eq_ok.1 hleaf)
      · obtain ⟨-, operator, tables, conditions, hspelt, hbuilt, rfl⟩ := boolFactory_eq_ok.1 h
        have hparts : Fields.get? "conditions" table = some (.array (tables.map .object)) := by
          simpa using hspelt.parts
        rw [boolDepth_eq htype hparts] at hlevels
        obtain ⟨below, rfl⟩ : ∃ below, levels = below + 1 := ⟨levels - 1, by omega⟩
        have hbelow := greatestDepth_le.1 (Nat.le_of_succ_le_succ hlevels)
        obtain ⟨hlength, hbuilt⟩ := List.forall₂_iff_zip.1 hbuilt
        refine .bool htype hspelt hlength fun part hpart => ?_
        exact ih (hbuilt hpart) (hbelow _ (List.of_mem_zip hpart).1)
      · obtain ⟨leaf, hleaf, rfl⟩ := exists_of_map_eq_ok h
        exact .request htype (RequestCondition.ofOptions_eq_ok.1 hleaf)
    · cases h

/-! ### Fuel -/

/-- A field has no more levels than the fields together. -/
lemma jsonDepth_le_fieldsDepth {name : String} {value : Json} {fields : Table}
    (h : Fields.get? name fields = some value) : jsonDepth value ≤ fieldsDepth fields := by
  induction fields with
  | nil => cases h
  | cons field rest ih =>
    obtain ⟨key, first⟩ := field
    rw [fieldsDepth]
    simp only [Fields.get?] at h
    split at h
    · cases h
      exact Nat.le_max_left ..
    · exact (ih h).trans (Nat.le_max_right ..)

/-- An item has no more levels than the items together. -/
lemma jsonDepth_le_itemsDepth {item : Json} {items : List Json} (h : item ∈ items) :
    jsonDepth item ≤ itemsDepth items := by
  induction items with
  | nil => cases h
  | cons first rest ih =>
    rw [itemsDepth]
    rcases List.mem_cons.1 h with rfl | h
    · exact Nat.le_max_left ..
    · exact (ih h).trans (Nat.le_max_right ..)

/-- A part has two levels less than the table that lists it. -/
lemma fieldsDepth_part {table part : Table} {tables : List Table}
    (hparts : Fields.get? "conditions" table = some (.array (tables.map .object)))
    (hpart : part ∈ tables) : fieldsDepth part + 2 ≤ fieldsDepth table := by
  have htable := jsonDepth_le_fieldsDepth hparts
  have hitems := jsonDepth_le_itemsDepth (List.mem_map_of_mem (f := Json.object) hpart)
  simp only [jsonDepth] at htable hitems
  omega

/-! ### The constructors of the library -/

variable {inner : Table → Except RuleError Condition} {fields : Table}

lemma constructWith_urlPath : builtins.constructWith inner "url_path" fields =
    (UrlPathCondition.ofOptions fields).map .urlPath := rfl

lemma constructWith_urlParams : builtins.constructWith inner "url_params" fields =
    (UrlParamsCondition.ofOptions fields).map .urlParams := rfl

lemma constructWith_authentication : builtins.constructWith inner "authentication" fields =
    (AuthenticationCondition.ofOptions fields).map .authentication := rfl

lemma constructWith_request : builtins.constructWith inner "request" fields =
    (RequestCondition.ofOptions fields).map .request := rfl

lemma constructWith_bool : builtins.constructWith inner "bool" fields = boolFactory inner fields :=
  rfl

/-- A table that spells a condition is built, if there is as much fuel as it has levels. -/
lemma constructLevels_of_spelt {fuel levels : Nat} {table : Table} {condition : Condition}
    (h : Condition.Spelt levels table condition) (hlevels : levels ≤ maxConditionDepth)
    (hfuel : fieldsDepth table < fuel) :
    builtins.constructLevels fuel table = .ok condition := by
  obtain ⟨fuel, rfl⟩ : ∃ below, fuel = below + 1 := ⟨fuel - 1, by omega⟩
  induction h generalizing fuel with
  | urlPath type options =>
    refine constructLevels_eq_ok.2 ⟨_, type, ?_⟩
    rw [constructWith_urlPath, UrlPathCondition.ofOptions_eq_ok.2 options]
    rfl
  | urlParams type options =>
    refine constructLevels_eq_ok.2 ⟨_, type, ?_⟩
    rw [constructWith_urlParams, UrlParamsCondition.ofOptions_eq_ok.2 options]
    rfl
  | authentication type options =>
    refine constructLevels_eq_ok.2 ⟨_, type, ?_⟩
    rw [constructWith_authentication, AuthenticationCondition.ofOptions_eq_ok.2 options]
    rfl
  | request type options =>
    refine constructLevels_eq_ok.2 ⟨_, type, ?_⟩
    rw [constructWith_request, RequestCondition.ofOptions_eq_ok.2 options]
    rfl
  | @bool levels table operator tables conditions type options length parts ih =>
    have hparts : Fields.get? "conditions" table = some (.array (tables.map .object)) := by
      simpa using options.parts
    have hdepth : nestingDepth (Fields.erase "type" table) ≤ maxConditionDepth := by
      rw [nestingDepth_erase type]
      exact (Condition.Spelt.bool type options length parts).boolDepth_le.trans hlevels
    refine constructLevels_eq_ok.2 ⟨_, type, ?_⟩
    rw [constructWith_bool]
    refine boolFactory_eq_ok.2 ⟨hdepth, _, _, _, options, ?_, rfl⟩
    refine List.forall₂_iff_zip.2 ⟨length, fun {part condition} hpart => ?_⟩
    have hpartDepth := fieldsDepth_part hparts (List.of_mem_zip hpart).1
    obtain ⟨fuel, rfl⟩ : ∃ below, fuel = below + 1 := ⟨fuel - 1, by omega⟩
    exact ih _ hpart (by omega) fuel (show fieldsDepth part < fuel + 1 by omega)

/-- The levels of a table of which something is built are not too many. -/
lemma boolDepth_le_of_constructLevels {fuel : Nat} {table : Table} {condition : Condition}
    (h : builtins.constructLevels fuel table = .ok condition) :
    boolDepth (.object table) ≤ maxConditionDepth := by
  cases fuel with
  | zero => exact absurd h constructLevels_zero
  | succ fuel =>
    obtain ⟨tag, htype, h⟩ := constructLevels_eq_ok.1 h
    by_cases htag : tag = "bool"
    · subst htag
      rw [← nestingDepth_erase htype]
      exact (boolFactory_eq_ok.1 h).1
    · rw [boolDepth_eq_zero htype htag]
      exact Nat.zero_le _

/-- **A condition is built of a table that spells it within eight levels, and of no other.** -/
theorem constructTable_eq_ok {table : Table} {condition : Condition} :
    builtins.constructTable table = .ok condition ↔ Condition.Spelt 8 table condition := by
  constructor
  · intro h
    exact spelt_of_constructLevels h (boolDepth_le_of_constructLevels h)
  · intro h
    exact constructLevels_of_spelt h (Nat.le_refl _) (Nat.lt_succ_self _)

end ConditionRegistry

end RequestRouting
