import Mathlib.Data.List.Induction
import Mathlib.Tactic.Lemma
import RequestRouting.Fields

/-!
# Lookups determine sorted fields

Sorted fields are determined by what is under every name.  So two ways of writing over a map can be
compared name by name.

## Main results

* `Dict.ext_get?` — two maps with the same lookups are equal.
* `Dict.get?_overlay` — what is under a name once a list of fields has been written over a map.
* `Dict.overlay_entries_overlay` — writing a map over another is writing, one after another, the
  fields of which it was made.
* `Fields.ofList_perm`, `Fields.get?_ofList` — fields whose names differ, put in order.
-/

set_option autoImplicit false

namespace RequestRouting

namespace Fields

variable {α : Type}

/-- Nothing is under a name if no field has it. -/
lemma get?_eq_none {name : String} {fields : List (String × α)} :
    get? name fields = none ↔ ∀ field ∈ fields, field.1 ≠ name := by
  induction fields with
  | nil => simp
  | cons field rest ih =>
    rw [List.forall_mem_cons, ← ih]
    by_cases h : field.1 = name <;> simp [get?, h]

/-- A value that is found under a name is one of the fields. -/
lemma mem_of_get? {name : String} {value : α} {fields : List (String × α)}
    (h : get? name fields = some value) : (name, value) ∈ fields := by
  induction fields with
  | nil => cases h
  | cons field rest ih =>
    obtain ⟨key, other⟩ := field
    unfold get? at h
    split at h
    · next hkey =>
      cases h
      exact hkey ▸ List.mem_cons_self
    · exact List.mem_cons_of_mem _ (ih h)

/-- If no name comes twice, the value of a field is found under its name. -/
lemma get?_of_mem {name : String} {value : α} {fields : List (String × α)}
    (hdistinct : (fields.map Prod.fst).Nodup) (h : (name, value) ∈ fields) :
    get? name fields = some value := by
  induction fields with
  | nil => cases h
  | cons field rest ih =>
    obtain ⟨hfirst, hrest⟩ := List.nodup_cons.1 hdistinct
    rcases List.mem_cons.1 h with rfl | hmem
    · exact if_pos rfl
    · have hne : field.1 ≠ name := fun heq => hfirst (List.mem_map.2 ⟨_, hmem, heq.symm⟩)
      rw [get?, if_neg hne, ih hrest hmem]

/-- A name that is below all others has no value among them. -/
lemma get?_eq_none_of_lt {name : String} {fields : List (String × α)}
    (h : ∀ field ∈ fields, name < field.1) : get? name fields = none :=
  get?_eq_none.2 fun field hfield e => String.lt_irrefl name (e ▸ h field hfield)

/-- The least of some sorted fields is read back from under its name. -/
lemma get?_cons_self (name : String) (value : α) (rest : List (String × α)) :
    get? name ((name, value) :: rest) = some value := by simp [get?]

/-- Sorted fields with the same lookups are equal.

**Proof sketch.** Induction on the first list.  Of two least names the smaller one would have a
value in its own list only, so both lists begin with the same name, and then with the same value.
Below that name neither rest has anything, so the rests have the same lookups too. -/
lemma Sorted.eq_of_get? {a b : List (String × α)} (ha : Sorted a) (hb : Sorted b)
    (h : ∀ name, get? name a = get? name b) : a = b := by
  induction a generalizing b with
  | nil =>
    cases b with
    | nil => rfl
    | cons field rest => simpa [get?] using h field.1
  | cons first rest ih =>
    obtain ⟨key, value⟩ := first
    cases b with
    | nil => simpa [get?] using h key
    | cons other rest' =>
      obtain ⟨key', value'⟩ := other
      obtain ⟨hfirst, hrest⟩ := List.pairwise_cons.1 ha
      obtain ⟨hfirst', hrest'⟩ := List.pairwise_cons.1 hb
      have hle : ¬ key < key' := by
        intro hlt
        have hnone : get? key ((key', value') :: rest') = none := by
          refine get?_eq_none_of_lt fun field hfield => ?_
          rcases List.mem_cons.1 hfield with rfl | hfield
          · exact hlt
          · exact String.lt_trans hlt (hfirst' field hfield)
        simpa [get?_cons_self, hnone] using h key
      have hge : ¬ key' < key := by
        intro hlt
        have hnone : get? key' ((key, value) :: rest) = none := by
          refine get?_eq_none_of_lt fun field hfield => ?_
          rcases List.mem_cons.1 hfield with rfl | hfield
          · exact hlt
          · exact String.lt_trans hlt (hfirst field hfield)
        simpa [get?_cons_self, hnone] using h key'
      obtain rfl : key = key' := String.le_antisymm (String.not_lt.1 hge) (String.not_lt.1 hle)
      have hvalue : value = value' := by simpa [get?_cons_self] using h key
      have hlookup : ∀ name, get? name rest = get? name rest' := by
        intro name
        by_cases hname : key = name
        · subst hname
          rw [get?_eq_none_of_lt hfirst, get?_eq_none_of_lt hfirst']
        · simpa [get?, hname] using h name
      rw [hvalue, ih hrest hrest' hlookup]

/-- Inserting no fields. -/
@[simp] lemma insertAll_nil (fields : List (String × α)) : insertAll fields [] = fields := rfl

/-- The first of some fields is inserted before the others. -/
@[simp] lemma insertAll_cons (fields : List (String × α)) (new : String × α)
    (news : List (String × α)) :
    insertAll fields (new :: news) = insertAll (insert new.1 new.2 fields) news := rfl

/-- The later of some fields are inserted after the others. -/
lemma insertAll_append (fields news later : List (String × α)) :
    insertAll fields (news ++ later) = insertAll (insertAll fields news) later :=
  List.foldl_append

/-- Reading back after an insertion, under any name. -/
lemma get?_insert (name key : String) (value : α) (fields : List (String × α)) :
    get? name (insert key value fields) = if key = name then some value else get? name fields := by
  split
  · next h => rw [h, get?_insert_self]
  · next h => exact get?_insert_of_ne h value fields

/-- What was inserted is found before what was there. -/
lemma get?_insertAll (name : String) (fields news : List (String × α)) :
    get? name (insertAll fields news) = (get? name (insertAll [] news)).or (get? name fields) := by
  induction news using List.reverseRecOn with
  | nil => simp
  | append_singleton news new ih =>
    rw [insertAll_append, insertAll_append]
    simp only [insertAll_cons, insertAll_nil, get?_insert, ih]
    split <;> rfl

/-- What is found among inserted fields is one of them. -/
lemma mem_of_get?_insertAll_nil {name : String} {value : α} {news : List (String × α)}
    (h : get? name (insertAll [] news) = some value) : (name, value) ∈ news := by
  induction news using List.reverseRecOn with
  | nil => cases h
  | append_singleton news new ih =>
    rw [insertAll_append, insertAll_cons, insertAll_nil, get?_insert] at h
    split at h
    · next hname =>
      cases h
      exact List.mem_append_right _ (by simp [← hname])
    · exact List.mem_append_left _ (ih h)

/-- If no name comes twice, each of some fields is found after they have been inserted. -/
lemma get?_insertAll_of_nodup {news : List (String × α)} (h : (news.map Prod.fst).Nodup)
    (name : String) (fields : List (String × α)) :
    get? name (insertAll fields news) = (get? name news).or (get? name fields) := by
  induction news generalizing fields with
  | nil => simp
  | cons new rest ih =>
    obtain ⟨key, value⟩ := new
    obtain ⟨hfirst, hrest⟩ := List.nodup_cons.1 h
    rw [insertAll_cons, ih hrest, get?_insert]
    by_cases hname : key = name
    · subst hname
      have hnone : get? key rest = none := get?_eq_none.2 fun field hfield e =>
        hfirst (List.mem_map.2 ⟨field, hfield, e⟩)
      simp [get?, hnone]
    · simp [get?, hname]

/-- In sorted fields no name comes twice. -/
lemma Sorted.nodup_names {fields : List (String × α)} (h : Sorted fields) :
    (fields.map Prod.fst).Nodup := by
  refine List.pairwise_map.2 (h.imp ?_)
  intro a b hlt e
  exact String.lt_irrefl b.1 (e ▸ hlt)

/-- Of sorted fields each is found, since no name comes twice. -/
lemma Sorted.get?_insertAll {news : List (String × α)} (h : Sorted news) (name : String)
    (fields : List (String × α)) :
    get? name (Fields.insertAll fields news) = (get? name news).or (get? name fields) :=
  get?_insertAll_of_nodup h.nodup_names name fields

/-! ## Removal -/

/-- What is left after a removal. -/
@[simp] lemma mem_erase {name : String} {field : String × α} {fields : List (String × α)} :
    field ∈ erase name fields ↔ field ∈ fields ∧ field.1 ≠ name := by
  simp [erase]

/-- Nothing is under a name that has been removed. -/
@[simp] lemma get?_erase_self (name : String) (fields : List (String × α)) :
    get? name (erase name fields) = none := by
  induction fields with
  | nil => rfl
  | cons field rest ih =>
    by_cases h : field.1 = name <;> simp_all [erase, get?]

/-- Removing one name changes no other. -/
@[simp] lemma get?_erase_of_ne {name other : String} (h : name ≠ other)
    (fields : List (String × α)) :
    get? other (erase name fields) = get? other fields := by
  induction fields with
  | nil => rfl
  | cons field rest ih =>
    by_cases hname : field.1 = name <;> simp_all [erase, get?]

/-- Removal and selection in either order. -/
lemma filter_erase (name : String) (test : String × α → Bool) (fields : List (String × α)) :
    (erase name fields).filter test = erase name (fields.filter test) := by
  simp only [erase, List.filter_filter, Bool.and_comm]

/-- Removing a name that does not pass a test changes nothing of what passes it. -/
lemma filter_erase_of_not {name : String} {test : String → Bool} (h : test name = false)
    (fields : List (String × α)) :
    (erase name fields).filter (fun field => test field.1) =
      fields.filter fun field => test field.1 := by
  rw [erase, List.filter_filter]
  refine List.filter_congr fun field _ => ?_
  by_cases hname : field.1 = name <;> simp [hname, h]

/-! ## Fields in any order -/

/-- A field with a new name is one field more. -/
lemma insert_perm {name : String} {fields : List (String × α)}
    (h : ∀ field ∈ fields, field.1 ≠ name) (value : α) :
    (insert name value fields).Perm ((name, value) :: fields) := by
  fun_induction insert name value fields with
  | case1 | case2 => exact .rfl
  | case3 => exact absurd rfl (h _ List.mem_cons_self)
  | case4 key old rest _ _ ih =>
    exact ((ih fun field hfield => h field (List.mem_cons_of_mem _ hfield)).cons _).trans
      (.swap ..)

/-- If no name comes twice, the sorted fields are the listed ones. -/
lemma ofList_perm {news : List (String × α)} (h : (news.map Prod.fst).Nodup) :
    (ofList news).Perm news := by
  induction news using List.reverseRecOn with
  | nil => exact .rfl
  | append_singleton news new ih =>
    rw [List.map_append, List.nodup_append] at h
    obtain ⟨hnews, -, hnew⟩ := h
    rw [ofList, insertAll_append, insertAll_cons, insertAll_nil]
    have hother : ∀ field ∈ ofList news, field.1 ≠ new.1 := fun field hfield =>
      hnew _ (List.mem_map_of_mem ((ih hnews).mem_iff.1 hfield)) _ (by simp)
    exact (insert_perm hother new.2).trans
      (((ih hnews).cons new).trans (List.perm_append_singleton new news).symm)

/-- If no name comes twice, the sorted fields have the values of the listed ones. -/
lemma get?_ofList {news : List (String × α)} (h : (news.map Prod.fst).Nodup) (name : String) :
    get? name (ofList news) = get? name news := by
  rw [ofList, get?_insertAll_of_nodup h, get?_nil, Option.or_none]

end Fields

namespace Dict

variable {α : Type}

/-- Two maps with the same lookups are equal. -/
theorem ext_get? {a b : Dict α} (h : ∀ name, a.get? name = b.get? name) : a = b :=
  Dict.ext (a.sorted.eq_of_get? b.sorted h)

/-- Nothing is under any name of the empty map. -/
@[simp] lemma get?_empty (name : String) : (empty : Dict α).get? name = none := rfl

/-- Writing nothing over a map. -/
@[simp] lemma overlay_nil (dict : Dict α) : dict.overlay [] = dict := rfl

/-- Writing one field, then others, over a map. -/
@[simp] lemma overlay_cons (dict : Dict α) (field : String × α) (news : List (String × α)) :
    dict.overlay (field :: news) = (dict.insert field.1 field.2).overlay news := rfl

/-- Writing some fields, then others, over a map. -/
lemma overlay_append (dict : Dict α) (news later : List (String × α)) :
    dict.overlay (news ++ later) = (dict.overlay news).overlay later :=
  Dict.ext (Fields.insertAll_append _ _ _)

/-- If no name comes twice, a map has the values of the listed fields. -/
lemma get?_ofList {news : List (String × α)} (h : (news.map Prod.fst).Nodup) (name : String) :
    (ofList news).get? name = Fields.get? name news := Fields.get?_ofList h name

/-- A field that has been put in with others is one of those that were listed. -/
lemma mem_of_get?_ofList {name : String} {value : α} {news : List (String × α)}
    (h : (ofList news).get? name = some value) : (name, value) ∈ news :=
  Fields.mem_of_get?_insertAll_nil h

/-- What has been written over a map is found before what was there. -/
theorem get?_overlay (dict : Dict α) (news : List (String × α)) (name : String) :
    (dict.overlay news).get? name = ((ofList news).get? name).or (dict.get? name) :=
  Fields.get?_insertAll name dict.entries news

/-- Nothing is under a name if no field has it of which the map was made. -/
lemma get?_ofList_eq_none {name : String} {news : List (String × α)} :
    (ofList news).get? name = none ↔ ∀ field ∈ news, field.1 ≠ name := by
  induction news with
  | nil => simp [ofList]
  | cons field rest ih =>
    rw [ofList, overlay_cons, get?_overlay, Option.or_eq_none_iff, ih, List.forall_mem_cons,
      and_comm]
    refine and_congr_left fun _ => ?_
    by_cases h : field.1 = name
    · simp [← h]
    · simp [get?_insert_of_ne _ h, h]

/-- Fields that do not have a name leave what is under it. -/
lemma get?_overlay_of_notMem (dict : Dict α) {name : String} {news : List (String × α)}
    (h : ∀ field ∈ news, field.1 ≠ name) : (dict.overlay news).get? name = dict.get? name := by
  rw [get?_overlay, get?_ofList_eq_none.2 h, Option.none_or]

/-- A value is found under a name if some field has it there, and no field has another one. -/
lemma get?_overlay_of_mem (dict : Dict α) {name : String} {value : α} {news : List (String × α)}
    (hmem : (name, value) ∈ news) (h : ∀ field ∈ news, field.1 = name → field.2 = value) :
    (dict.overlay news).get? name = some value := by
  cases hfound : (ofList news).get? name with
  | none => exact absurd rfl (get?_ofList_eq_none.1 hfound _ hmem)
  | some found =>
    obtain rfl : found = value := h _ (mem_of_get?_ofList hfound) rfl
    rw [get?_overlay, hfound, Option.some_or]

/-- Writing a whole map over another. -/
theorem get?_overlay_entries (dict later : Dict α) (name : String) :
    (dict.overlay later.entries).get? name = (later.get? name).or (dict.get? name) :=
  later.sorted.get?_insertAll name dict.entries

/-- Writing a map over another is writing the fields of which it was made, one after another. -/
theorem overlay_entries_overlay (dict later : Dict α) (news : List (String × α)) :
    dict.overlay (later.overlay news).entries = (dict.overlay later.entries).overlay news := by
  refine ext_get? fun name => ?_
  rw [get?_overlay_entries, get?_overlay, get?_overlay (dict.overlay later.entries),
    get?_overlay_entries, Option.or_assoc]

end Dict

end RequestRouting
