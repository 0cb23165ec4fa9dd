/-!
# Named fields in key order

Association lists from names to values, kept in strictly increasing order of the names.  The order
on names is that of their characters, which is also the order of their UTF-8 bytes, so one set of
fields has one representation and one printed form.

## Main definitions

* `Fields.insert`, `Fields.get?`, `Fields.erase` — the operations on plain lists of fields.
* `Fields.Sorted` — strictly increasing names.
* `Dict` — a list of fields with a proof that it is sorted.

## Main results

* `Fields.get?_insert_self`, `Fields.get?_insert_of_ne` — reading back an insertion; neither needs
  the fields to be sorted.
* `Fields.Sorted.insert`, `Fields.Sorted.erase` — the operations keep the order.
-/

set_option autoImplicit false

namespace RequestRouting

namespace Fields

variable {α : Type}

/-- The value under a name. -/
def get? (name : String) : List (String × α) → Option α
  | [] => none
  | (key, value) :: rest => if key = name then some value else get? name rest

/-- Whether a name has a value. -/
def has (name : String) (fields : List (String × α)) : Bool := (get? name fields).isSome

/-- Puts a value under a name, replacing what was there. -/
def insert (name : String) (value : α) : List (String × α) → List (String × α)
  | [] => [(name, value)]
  | (key, old) :: rest =>
    if name < key then (name, value) :: (key, old) :: rest
    else if name = key then (name, value) :: rest
    else (key, old) :: insert name value rest

/-- Removes a name. -/
def erase (name : String) (fields : List (String × α)) : List (String × α) :=
  fields.filter fun field => field.1 ≠ name

/-- Inserts fields one after another, so that the last value of a repeated name stays. -/
def insertAll (fields : List (String × α)) (news : List (String × α)) : List (String × α) :=
  news.foldl (fun acc field => insert field.1 field.2 acc) fields

/-- Sorted fields from a list in any order; the last value of a repeated name stays. -/
def ofList (news : List (String × α)) : List (String × α) := insertAll [] news

/-- Names in strictly increasing order. -/
def Sorted (fields : List (String × α)) : Prop := fields.Pairwise fun a b => a.1 < b.1

/-! ## Reading back -/

@[simp] theorem get?_nil (name : String) : get? name ([] : List (String × α)) = none := rfl

/-- An inserted value is read back. -/
@[simp] theorem get?_insert_self (name : String) (value : α) (fields : List (String × α)) :
    get? name (insert name value fields) = some value := by
  induction fields with
  | nil => simp [insert, get?]
  | cons field rest ih =>
    obtain ⟨key, old⟩ := field
    simp only [insert]
    split
    · simp [get?]
    · split
      · simp [get?]
      · rename_i h
        have hkey : key ≠ name := Ne.symm h
        simp [get?, ih, hkey]

/-- Inserting under one name changes no other. -/
theorem get?_insert_of_ne {name other : String} (h : name ≠ other) (value : α)
    (fields : List (String × α)) : get? other (insert name value fields) = get? other fields := by
  induction fields with
  | nil => simp [insert, get?, h]
  | cons field rest ih =>
    obtain ⟨key, old⟩ := field
    simp only [insert]
    split
    · simp [get?, h]
    · split
      · rename_i _ e
        subst e
        simp [get?, h]
      · by_cases hk : key = other <;> simp [get?, hk, ih]

/-! ## Order -/

/-- What an insertion may contain. -/
theorem mem_insert {name : String} {value : α} {field : String × α} {fields : List (String × α)}
    (h : field ∈ insert name value fields) : field = (name, value) ∨ field ∈ fields := by
  induction fields with
  | nil => simpa [insert] using h
  | cons first rest ih =>
    obtain ⟨key, old⟩ := first
    simp only [insert] at h
    split at h
    · simpa using h
    · split at h
      · rcases List.mem_cons.1 h with h | h
        · exact .inl h
        · exact .inr (List.mem_cons_of_mem _ h)
      · rcases List.mem_cons.1 h with h | h
        · exact .inr (h ▸ List.mem_cons_self ..)
        · exact (ih h).imp id (List.mem_cons_of_mem _)

/-- No fields are sorted. -/
theorem sorted_nil : Sorted ([] : List (String × α)) := List.Pairwise.nil

/-- Insertion keeps the order. -/
theorem Sorted.insert {fields : List (String × α)} (h : Sorted fields) (name : String) (value : α) :
    Sorted (Fields.insert name value fields) := by
  induction fields with
  | nil => simp [Fields.insert, Sorted]
  | cons first rest ih =>
    obtain ⟨key, old⟩ := first
    obtain ⟨hfirst, hrest⟩ := List.pairwise_cons.1 h
    simp only [Fields.insert]
    split
    · rename_i hlt
      refine List.pairwise_cons.2 ⟨fun field hfield => ?_, h⟩
      rcases List.mem_cons.1 hfield with rfl | hfield
      · exact hlt
      · exact String.lt_trans hlt (hfirst field hfield)
    · split
      · rename_i _ e
        subst e
        exact List.pairwise_cons.2 ⟨hfirst, hrest⟩
      · rename_i hle hne
        refine List.pairwise_cons.2 ⟨fun field hfield => ?_, ih hrest⟩
        rcases mem_insert hfield with rfl | hfield
        · exact Decidable.byContradiction fun hnot =>
            hne (String.le_antisymm (String.not_lt.1 hnot) (String.not_lt.1 hle))
        · exact hfirst field hfield

/-- Removal keeps the order. -/
theorem Sorted.erase {fields : List (String × α)} (h : Sorted fields) (name : String) :
    Sorted (Fields.erase name fields) := List.Pairwise.filter _ h

/-- Repeated insertion keeps the order. -/
theorem Sorted.insertAll {fields : List (String × α)} (h : Sorted fields)
    (news : List (String × α)) : Sorted (Fields.insertAll fields news) := by
  induction news generalizing fields with
  | nil => exact h
  | cons new rest ih => exact ih (h.insert new.1 new.2)

end Fields

/-- A finite map from names to values, in its one sorted representation. -/
structure Dict (α : Type) where
  /-- The fields, in increasing order of their names. -/
  entries : List (String × α)
  /-- The names increase strictly. -/
  sorted : Fields.Sorted entries

namespace Dict

variable {α : Type}

/-- Two maps with the same entries are equal. -/
@[ext] theorem ext {a b : Dict α} (h : a.entries = b.entries) : a = b := by
  cases a; cases b; cases h; rfl

/-- The map without entries. -/
def empty : Dict α := ⟨[], Fields.sorted_nil⟩

instance : Inhabited (Dict α) := ⟨empty⟩

/-- The value under a name. -/
def get? (dict : Dict α) (name : String) : Option α := Fields.get? name dict.entries

/-- Whether a name has a value. -/
def has (dict : Dict α) (name : String) : Bool := (dict.get? name).isSome

/-- Puts a value under a name, replacing what was there. -/
def insert (dict : Dict α) (name : String) (value : α) : Dict α :=
  ⟨Fields.insert name value dict.entries, dict.sorted.insert name value⟩

/-- Removes a name. -/
def erase (dict : Dict α) (name : String) : Dict α :=
  ⟨Fields.erase name dict.entries, dict.sorted.erase name⟩

/-- Writes every entry of a second map over the first. -/
def overlay (dict : Dict α) (news : List (String × α)) : Dict α :=
  ⟨Fields.insertAll dict.entries news, dict.sorted.insertAll news⟩

/-- The map of a list of fields; the last value of a repeated name stays. -/
def ofList (fields : List (String × α)) : Dict α := empty.overlay fields

/-- The names, in increasing order. -/
def names (dict : Dict α) : List String := dict.entries.map Prod.fst

@[simp] theorem get?_insert_self (dict : Dict α) (name : String) (value : α) :
    (dict.insert name value).get? name = some value := Fields.get?_insert_self name value _

theorem get?_insert_of_ne (dict : Dict α) {name other : String} (h : name ≠ other) (value : α) :
    (dict.insert name value).get? other = dict.get? other := Fields.get?_insert_of_ne h value _

end Dict

end RequestRouting
