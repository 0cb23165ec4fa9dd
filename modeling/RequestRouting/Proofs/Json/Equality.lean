import Mathlib.Data.List.Forall2
import RequestRouting.Json.Basic
import RequestRouting.Proofs.Fields

/-!
# Structural equality of values

Two values are the same structure if they are built alike of equal parts: arrays item by item,
objects name by name.  Equality of values is apart from this only at the two zeros, so it becomes
equality as such once the sign of every zero in the two values has been dropped.

## Main definitions

* `Json.normal` — a value without the signs of its zeros.
* `Json.Equal` — structural equality of two values.

## Main results

* `Json.same_iff` — the comparison of two values decides their structural equality.
* `Json.equal_array_iff` — structural equality of arrays, item by item.
* `Json.equal_object_iff` — structural equality of objects, name by name.
-/

set_option autoImplicit false

namespace RequestRouting

/-! ## Numbers -/

/-- A binary64 number without the sign of a zero. -/
def Binary64.normal (x : Binary64) : Binary64 := if x.magnitude = 0 then .zero false else x

/-- Two binary64 numbers denote the same number if only the sign of a zero can tell them apart. -/
lemma Binary64.sameValue_iff_normal {x y : Binary64} :
    x.sameValue y = true ↔ x.normal = y.normal := by
  obtain ⟨s, m, hm⟩ := x
  obtain ⟨t, n, hn⟩ := y
  simp only [sameValue, normal, Bool.and_eq_true, Bool.or_eq_true, beq_iff_eq]
  by_cases h : m = 0 <;> by_cases h' : n = 0 <;> simp [h, h', zero, eq_comm, and_comm]

/-- A number without the sign of a zero. -/
def Number.normal : Number → Number
  | .int n => .int n
  | .float x => .float x.normal

/-- The comparison of numbers decides equality but for the sign of a zero. -/
lemma Number.same_iff {a b : Number} : a.same b = true ↔ a.normal = b.normal := by
  cases a <;> cases b <;> simp [same, normal, Binary64.sameValue_iff_normal]

namespace Json

/-! ## Values -/

mutual

/-- A value without the signs of its zeros. -/
def normal : Json → Json
  | .number n => .number n.normal
  | .array items => .array (normalItems items)
  | .object fields => .object (normalFields fields)
  | value => value

/-- Items without the signs of their zeros. -/
def normalItems : List Json → List Json
  | [] => []
  | item :: rest => item.normal :: normalItems rest

/-- Fields without the signs of the zeros in their values. -/
def normalFields : List (String × Json) → List (String × Json)
  | [] => []
  | (name, value) :: rest => (name, value.normal) :: normalFields rest

end

/-- Two values are the same structure.  The two zeros are equal; an integer and a floating point
number never are. -/
def Equal (a b : Json) : Prop := a.normal = b.normal

/-- The signs are dropped in every item. -/
lemma normalItems_eq_map (items : List Json) : normalItems items = items.map normal := by
  induction items with
  | nil => rfl
  | cons item rest ih => rw [normalItems, ih, List.map_cons]

/-- The signs are dropped in the value of every field. -/
lemma normalFields_eq_map (fields : List (String × Json)) :
    normalFields fields = fields.map fun field => (field.1, field.2.normal) := by
  induction fields with
  | nil => rfl
  | cons field rest ih => rw [normalFields, ih, List.map_cons]

mutual

/-- **The comparison of two values decides their structural equality.** -/
theorem same_iff : ∀ a b : Json, a.same b = true ↔ a.Equal b
  | .null, b => by cases b <;> simp [same, Equal, normal]
  | .bool _, b => by cases b <;> simp [same, Equal, normal]
  | .number _, b => by cases b <;> simp [same, Equal, normal, Number.same_iff]
  | .string _, b => by cases b <;> simp [same, Equal, normal]
  | .array items, b => by cases b <;> simp [same, Equal, normal, sameItems_iff items]
  | .object fields, b => by cases b <;> simp [same, Equal, normal, sameFields_iff fields]

/-- The comparison of two lists of items decides whether they are equal one by one. -/
theorem sameItems_iff : ∀ as bs : List Json,
    sameItems as bs = true ↔ normalItems as = normalItems bs
  | [], bs => by cases bs <;> simp [sameItems, normalItems]
  | a :: as, bs => by
    cases bs with
    | nil => simp [sameItems, normalItems]
    | cons b bs =>
      have ha := same_iff a b
      have has := sameItems_iff as bs
      simp [sameItems, normalItems, ha, has, Equal]

/-- The comparison of two lists of fields decides whether they are equal one by one. -/
theorem sameFields_iff : ∀ as bs : List (String × Json),
    sameFields as bs = true ↔ normalFields as = normalFields bs
  | [], bs => by cases bs <;> simp [sameFields, normalFields]
  | (name, a) :: as, bs => by
    cases bs with
    | nil => simp [sameFields, normalFields]
    | cons field bs =>
      have ha := same_iff a field.2
      have has := sameFields_iff as bs
      simp [sameFields, normalFields, ha, has, Equal, and_assoc]

end

/-! ## Containers -/

/-- **Two arrays are equal if they have as many items, and these are equal one by one.** -/
theorem equal_array_iff {as bs : List Json} :
    (Json.array as).Equal (.array bs) ↔ List.Forall₂ Equal as bs := by
  simp only [Equal, normal, Json.array.injEq, normalItems_eq_map]
  rw [← List.forall₂_eq_eq_eq, List.forall₂_map_left_iff, List.forall₂_map_right_iff]
  rfl

/-- What is under a name of some fields whose signs have been dropped. -/
lemma get?_normalFields (name : String) (fields : List (String × Json)) :
    Fields.get? name (normalFields fields) = (Fields.get? name fields).map normal := by
  induction fields with
  | nil => rfl
  | cons field rest ih =>
    simp only [normalFields, Fields.get?, ih]
    split_ifs <;> rfl

/-- Dropping the signs leaves the names, and so their order. -/
lemma sorted_normalFields {fields : List (String × Json)} (h : Fields.Sorted fields) :
    Fields.Sorted (normalFields fields) := by
  rw [normalFields_eq_map]
  exact List.pairwise_map.2 h

/-- **Two objects are equal if under every name they have equal values, or none both.** -/
theorem equal_object_iff {as bs : List (String × Json)} (ha : Fields.Sorted as)
    (hb : Fields.Sorted bs) : (Json.object as).Equal (.object bs) ↔
      ∀ name, Option.Rel Equal (Fields.get? name as) (Fields.get? name bs) := by
  have hlookup (name : String) :
      Option.Rel Equal (Fields.get? name as) (Fields.get? name bs) ↔
        Fields.get? name (normalFields as) = Fields.get? name (normalFields bs) := by
    rw [get?_normalFields, get?_normalFields]
    cases Fields.get? name as <;> cases Fields.get? name bs <;> simp [Equal]
  simp only [hlookup]
  simp only [Equal, normal, Json.object.injEq]
  constructor
  · intro h name
    rw [h]
  · exact (sorted_normalFields ha).eq_of_get? (sorted_normalFields hb)

end Json

end RequestRouting
