import RequestRouting.Proofs.Json.Equality
import RequestRouting.Proofs.Number.Numeral

/-!
# Loose equality

Loose equality tries four readings of its two sides, one after another: exact integers, binary64
numbers, texts, and structures.  It takes the first reading that both sides have, so the two sides
can be swapped.

Integers are compared exactly as long as both fit into 128 bits.  Beyond that two integers are
equal as soon as they are rounded to the same number, and beyond the finite range they are as equal
as their texts.

## Main definitions

* `Json.isContainer` — a value is an array or an object.
* `Json.Reads` — a value has a text, and is or spells an integer.

## Main results

* `looseEq_comm_self_structural` — loose equality is symmetric, fails for null only to be
  reflexive, and is structural equality on containers, which no other value is equal to.
* `looseEq_integers_iff` — what loose equality says of two integers.
-/

set_option autoImplicit false

namespace RequestRouting

/-! ## The four readings -/

section Readings

variable {left right : Json}

/-- Two values that have an exact reading are compared by it. -/
lemma looseEq_of_integer? {a b : Int} (hleft : left.integer? = some a)
    (hright : right.integer? = some b) : looseEq left right = (a == b) := by
  have hnull : (left.isNull || right.isNull) = false := by
    cases left <;> cases right <;> simp_all [Json.integer?, Json.isNull]
  simp [looseEq, hnull, hleft, hright]

/-- Two values that have a rounded reading, but not both an exact one, are compared by it. -/
lemma looseEq_of_number? {x y : Binary64} (hexact : left.integer? = none ∨ right.integer? = none)
    (hleft : left.number? = some x) (hright : right.number? = some y) :
    looseEq left right = x.sameValue y := by
  have hnull : (left.isNull || right.isNull) = false := by
    cases left <;> cases right <;> simp_all [Json.number?, Json.isNull]
  rcases hexact with h | h <;> simp [looseEq, hnull, h, hleft, hright]

/-- Two scalars that have no reading as numbers in common are compared by their texts. -/
lemma looseEq_of_display? {s t : String} (hexact : left.integer? = none ∨ right.integer? = none)
    (hnumber : left.number? = none ∨ right.number? = none) (hleft : left.display? = some s)
    (hright : right.display? = some t) : looseEq left right = (s == t) := by
  have hnull : (left.isNull || right.isNull) = false := by
    cases left <;> cases right <;> simp_all [Json.display?, Json.isNull]
  rcases hexact with h | h <;> rcases hnumber with h' | h' <;>
    simp [looseEq, hnull, h, h', hleft, hright]

end Readings

/-! ## Symmetry and structure -/

namespace Json

/-- Whether a value is an array or an object. -/
def isContainer : Json → Bool
  | .array _ | .object _ => true
  | _ => false

variable {value : Json}

/-- A container has none of the readings of a scalar. -/
lemma readings_of_isContainer (h : value.isContainer = true) :
    value.integer? = none ∧ value.number? = none ∧ value.display? = none := by
  cases value <;> simp_all [isContainer, integer?, number?, display?]

/-- Every other value has a text, null apart. -/
lemma exists_display? (h : value.isContainer = false) (hnull : value ≠ .null) :
    ∃ text, value.display? = some text := by
  cases value <;> simp_all [isContainer, display?]

/-- A structure equals itself, and the order of the two sides does not matter. -/
lemma same_comm (a b : Json) : a.same b = b.same a := by
  rw [Bool.eq_iff_iff, same_iff, same_iff]
  exact eq_comm

end Json

/-- Null equals nothing. -/
lemma looseEq_null {left right : Json} (h : left = .null ∨ right = .null) :
    looseEq left right = false := by
  rcases h with rfl | rfl <;> simp [looseEq, Json.isNull]

/-- The order of the two sides does not matter: it is the same reading that both of them have. -/
lemma looseEq_comm (left right : Json) : looseEq left right = looseEq right left := by
  unfold looseEq
  rw [Bool.or_comm]
  split
  · rfl
  cases left.integer? <;> cases right.integer? <;>
    cases left.number? <;> cases right.number? <;>
    cases left.display? <;> cases right.display? <;>
    simp [Bool.beq_comm, Binary64.sameValue_comm, Json.same_comm]

/-- Two containers are compared as structures. -/
lemma looseEq_containers {left right : Json} (hleft : left.isContainer = true)
    (hright : right.isContainer = true) : looseEq left right = left.same right := by
  obtain ⟨hl, hl', hl''⟩ := Json.readings_of_isContainer hleft
  obtain ⟨hr, hr', hr''⟩ := Json.readings_of_isContainer hright
  have hnull : (left.isNull || right.isNull) = false := by
    cases left <;> cases right <;> simp_all [Json.isContainer, Json.isNull]
  simp [looseEq, hnull, hl, hl', hl'', hr'']

/-- A container and a value that is none are not equal. -/
lemma looseEq_container_scalar {left right : Json} (hleft : left.isContainer = true)
    (hright : right.isContainer = false) : looseEq left right = false := by
  by_cases hnull : right = .null
  · exact looseEq_null (.inr hnull)
  · obtain ⟨hl, hl', hl''⟩ := Json.readings_of_isContainer hleft
    obtain ⟨text, htext⟩ := Json.exists_display? hright hnull
    simp [looseEq, hl, hl', hl'', htext]

/-- Every value but null is equal to itself. -/
lemma looseEq_self_iff (value : Json) : looseEq value value = true ↔ value ≠ .null := by
  by_cases hcontainer : value.isContainer = true
  · have hne : value ≠ .null := by
      rintro rfl
      cases hcontainer
    simp [looseEq_containers hcontainer hcontainer, Json.same_iff, Json.Equal, hne]
  · by_cases hnull : value = .null
    · rw [looseEq_null (.inl hnull)]
      simp [hnull]
    · obtain ⟨text, htext⟩ := Json.exists_display? (Bool.eq_false_iff.2 hcontainer) hnull
      simp only [hnull, ne_eq, not_false_eq_true, iff_true]
      cases hinteger : value.integer? with
      | some n => simp [looseEq_of_integer? hinteger hinteger]
      | none =>
        cases hnumber : value.number? with
        | some x => simp [looseEq_of_number? (.inl hinteger) hnumber hnumber]
        | none => simp [looseEq_of_display? (.inl hinteger) (.inl hnumber) htext htext]

/-- **Loose equality is symmetric.  It holds of a value with itself if and only if the value is not
null.  Null equals nothing, and no array or object equals a value that is neither.  On arrays and
objects it is structural equality: arrays are equal item by item, objects name by name.** -/
theorem looseEq_comm_self_structural (left right : Json) :
    looseEq left right = looseEq right left ∧
    (looseEq left left = true ↔ left ≠ .null) ∧
    (left = .null ∨ right = .null → looseEq left right = false) ∧
    (left.isContainer ≠ right.isContainer → looseEq left right = false) ∧
    (left.isContainer = true → right.isContainer = true →
      (looseEq left right = true ↔ left.Equal right)) ∧
    (∀ as bs, left = .array as → right = .array bs →
      (looseEq left right = true ↔ List.Forall₂ Json.Equal as bs)) ∧
    (∀ as bs, left = .object as → right = .object bs → Fields.Sorted as → Fields.Sorted bs →
      (looseEq left right = true ↔
        ∀ name, Option.Rel Json.Equal (Fields.get? name as) (Fields.get? name bs))) := by
  have hstructural {l r : Json} (hl : l.isContainer = true) (hr : r.isContainer = true) :
      looseEq l r = true ↔ l.Equal r := by
    rw [looseEq_containers hl hr, Json.same_iff]
  refine ⟨looseEq_comm _ _, looseEq_self_iff _, looseEq_null, ?_, hstructural, ?_, ?_⟩
  · intro hne
    cases hleft : left.isContainer <;> cases hright : right.isContainer
    · exact absurd (hleft.trans hright.symm) hne
    · rw [looseEq_comm, looseEq_container_scalar hright hleft]
    · exact looseEq_container_scalar hleft hright
    · exact absurd (hleft.trans hright.symm) hne
  · rintro as bs rfl rfl
    rw [hstructural rfl rfl, Json.equal_array_iff]
  · rintro as bs rfl rfl ha hb
    rw [hstructural rfl rfl, Json.equal_object_iff ha hb]

/-- Objects and arrays that differ in the sign of a zero are equal, an empty array does not equal
its text, and null does not equal the text of its name. -/
theorem looseEq_comm_self_structural_zeros :
    looseEq (.object [("a", .number (.float (.zero true))), ("b", .null)])
      (.object [("a", .number (.float (.zero false))), ("b", .null)]) = true ∧
    looseEq (.array [.number (.float (.zero true))])
      (.array [.number (.float (.zero false))]) = true ∧
    looseEq (.array []) (.string "[]") = false ∧ looseEq (.string "null") .null = false := by
  refine ⟨?_, ?_, ?_, ?_⟩
  · obtain ⟨-, -, -, -, -, -, hobject⟩ := looseEq_comm_self_structural
      (.object [("a", .number (.float (.zero true))), ("b", .null)])
      (.object [("a", .number (.float (.zero false))), ("b", .null)])
    have hsorted (x y : Json) : Fields.Sorted [("a", x), ("b", y)] :=
      List.pairwise_pair.2 (show "a" < "b" by decide)
    refine (hobject _ _ rfl rfl (hsorted _ _) (hsorted _ _)).2 fun name => ?_
    simp only [Fields.get?]
    split_ifs
    · exact .some rfl
    · exact .some rfl
    · exact .none
  · exact ((looseEq_comm_self_structural _ _).2.2.2.2.1 rfl rfl).2 rfl
  · exact (looseEq_comm_self_structural _ _).2.2.2.1 (by decide)
  · exact (looseEq_comm_self_structural _ _).2.2.1 (.inr rfl)

/-! ## Integers -/

namespace Json

/-- A value has a text, and is or spells an integer: exactly, if that fits into 128 bits, and
rounded, as long as it lies below the limit. -/
structure Reads (value : Json) (text : String) (n : Int) : Prop where
  integer : value.integer? = if Exact n then some n else none
  number : n.natAbs < Binary64.limit → ∃ x, value.number? = some x ∧ x.RoundsFrom n
  number_eq_none : Binary64.limit ≤ n.natAbs → value.number? = none
  display : value.display? = some text

/-- A text that spells an integer reads as that integer. -/
lemma reads_string {text : String} {n : Int} (h : Spells text n) :
    (Json.string text).Reads text n :=
  ⟨h.integer?_eq, h.exists_number?, h.number?_eq_none, rfl⟩

/-- An integer of 64 bits reads as itself, and its text spells it. -/
lemma reads_int {n : Int} (hmin : -2 ^ 63 ≤ n) (hmax : n < 2 ^ 64) :
    (Json.int n).Reads (toString n) n := by
  have hexact : Exact n := by
    unfold Exact integerMin integerMax
    omega
  have hlimit : n.natAbs < Binary64.limit := by
    have hgreat : 2 ^ 64 < Binary64.limit := by decide +kernel
    omega
  refine ⟨(if_pos hexact).symm, fun _ => ?_, fun h => absurd hlimit (Nat.not_lt.2 h), rfl⟩
  exact ⟨_, (Binary64.ofRatio_one _ _).1 hlimit, rfl, fun _ => rfl⟩

/-- **What loose equality says of two integers.** -/
lemma Reads.looseEq_iff {left right : Json} {s t : String} {a b : Int} (hleft : left.Reads s a)
    (hright : right.Reads t b) : looseEq left right = true ↔
      if Exact a ∧ Exact b then a = b
      else if a.natAbs < Binary64.limit ∧ b.natAbs < Binary64.limit then
        Binary64.rounded a = Binary64.rounded b
      else s = t := by
  split_ifs with hexact hfinite
  · have ha := hleft.integer.trans (if_pos hexact.1)
    have hb := hright.integer.trans (if_pos hexact.2)
    rw [looseEq_of_integer? ha hb, beq_iff_eq]
  all_goals
    have hnone : left.integer? = none ∨ right.integer? = none :=
      (not_and_or.1 hexact).imp (fun h => hleft.integer.trans (if_neg h))
        fun h => hright.integer.trans (if_neg h)
  · obtain ⟨x, hx, hxa⟩ := hleft.number hfinite.1
    obtain ⟨y, hy, hyb⟩ := hright.number hfinite.2
    rw [looseEq_of_number? hnone hx hy, hxa.sameValue_iff hyb]
  · have hnumber : left.number? = none ∨ right.number? = none := by
      rw [not_and_or, Nat.not_lt, Nat.not_lt] at hfinite
      exact hfinite.imp hleft.number_eq_none hright.number_eq_none
    rw [looseEq_of_display? hnone hnumber hleft.display hright.display, beq_iff_eq]

end Json

/-- An integer of 64 bits and one that does not fit into 128 bits are rounded to different
numbers. -/
lemma Binary64.rounded_ne_of_not_exact {a b : Int} (hmin : -2 ^ 63 ≤ a) (hmax : a < 2 ^ 64)
    (hb : ¬ Json.Exact b) : rounded a ≠ rounded b := by
  have hgreat : 2 ^ 127 ≤ b.natAbs := by
    unfold Json.Exact Json.integerMin Json.integerMax at hb
    omega
  have hhigh : 2 ^ 127 ≤ nearest b.natAbs := by
    have hne : b.natAbs ≠ 0 := by omega
    have hlog : 127 ≤ b.natAbs.log2 := (Nat.le_log2 hne).2 hgreat
    exact (Nat.pow_le_pow_right (by decide) hlog).trans (nearest_bounds hne).1
  have hlow : nearest a.natAbs ≤ 2 ^ 65 := by
    by_cases hne : a.natAbs = 0
    · simp [hne]
    · have hlog : a.natAbs.log2 + 1 ≤ 65 := by
        have hlt : a.natAbs.log2 < 65 := (Nat.log2_lt hne).2 (by omega)
        omega
      exact (nearest_bounds hne).2.trans (Nat.pow_le_pow_right (by decide) hlog)
  unfold rounded
  split_ifs <;> omega

/-- **Loose equality of two texts that spell integers compares the integers as long as both fit into
128 bits; beyond that it compares what they are rounded to, and beyond the finite range the texts.
An integer of 64 bits equals a text that spells an integer if and only if it spells that one.** -/
theorem looseEq_integers_iff {s t : String} {a b : Int} (hs : Spells s a) (ht : Spells t b) :
    (looseEq (.string s) (.string t) = true ↔
      if Json.Exact a ∧ Json.Exact b then a = b
      else if a.natAbs < Binary64.limit ∧ b.natAbs < Binary64.limit then
        Binary64.rounded a = Binary64.rounded b
      else s = t) ∧
    ∀ n : Int, -2 ^ 63 ≤ n → n < 2 ^ 64 →
      (looseEq (.int n) (.string t) = true ↔ n = b) := by
  refine ⟨(Json.reads_string hs).looseEq_iff (Json.reads_string ht), fun n hmin hmax => ?_⟩
  rw [(Json.reads_int hmin hmax).looseEq_iff (Json.reads_string ht)]
  have hexact : Json.Exact n := by
    unfold Json.Exact Json.integerMin Json.integerMax
    omega
  split_ifs with hboth hfinite
  · rfl
  all_goals
    have hb : ¬ Json.Exact b := fun hb => hboth ⟨hexact, hb⟩
    have hne : n ≠ b := fun h => hb (h ▸ hexact)
  · simp [hne, Binary64.rounded_ne_of_not_exact hmin hmax hb]
  · simp only [hne, iff_false]
    intro htext
    exact hne ((spells_toString n).unique (htext ▸ ht))

/-- A text of digits spells what the digits read as. -/
lemma spells_of_isDigit {text : String} (hsome : text ≠ "")
    (hdigits : text.toList.all Char.isDigit = true) : Spells text (ofDigits text.toList) := by
  have hspells := Spells.unsigned text.toList (by simpa using hsome) (List.all_eq_true.1 hdigits)
  rwa [String.ofList_toList] at hspells

/-- The greatest integer of 64 bits equals its digits, with zeros in front of them, and does not
equal the next integer, from which it cannot be told apart once both are rounded. -/
theorem looseEq_integers_iff_maximum :
    Spells "18446744073709551616" 18446744073709551616 ∧
    Spells "0018446744073709551615" 18446744073709551615 ∧
    looseEq (.string "18446744073709551616") (.string "0018446744073709551615") = false ∧
    looseEq (.int 18446744073709551615) (.string "0018446744073709551615") = true := by
  have hnext : Spells "18446744073709551616" 18446744073709551616 :=
    spells_of_isDigit (by decide) (by decide)
  have hmaximum : Spells "0018446744073709551615" 18446744073709551615 :=
    spells_of_isDigit (by decide) (by decide)
  obtain ⟨htexts, hinteger⟩ := looseEq_integers_iff hnext hmaximum
  refine ⟨hnext, hmaximum, ?_, (hinteger _ (by decide) (by decide)).2 rfl⟩
  rw [Bool.eq_false_iff, Ne, htexts, if_pos (by decide)]
  decide

/-- Loose equality does not tell apart all texts that spell different integers: the greatest integer
of 128 bits and the next one are rounded to the same number. -/
theorem not_looseEq_iff_eq : ¬ ∀ s t a b, Spells s a → Spells t b →
    (looseEq (.string s) (.string t) = true ↔ a = b) := by
  intro h
  have hlast : Spells "170141183460469231731687303715884105727"
      170141183460469231731687303715884105727 := spells_of_isDigit (by decide) (by decide)
  have hnext : Spells "170141183460469231731687303715884105728"
      170141183460469231731687303715884105728 := spells_of_isDigit (by decide) (by decide)
  have hequal : looseEq (.string "170141183460469231731687303715884105727")
      (.string "170141183460469231731687303715884105728") = true := by decide +kernel
  exact absurd ((h _ _ _ _ hlast hnext).1 hequal) (by decide)

end RequestRouting
