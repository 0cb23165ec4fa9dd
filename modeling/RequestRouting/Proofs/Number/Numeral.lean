import Mathlib.Data.List.TakeWhile
import Mathlib.Data.Nat.Digits.Defs
import Mathlib.Tactic.Ring
import RequestRouting.Proofs.Number.Decimal
import RequestRouting.Proofs.Number.Rounding
import RequestRouting.Scalar

/-!
# Decimal integers

An integer is spelt by an optional sign and one or more decimal digits, of any number and with any
number of zeros in front.  As a value such a text is read in two ways: as an exact integer, if that
fits into 128 bits, and as the nearest binary64 number, if there is a finite one.

## Main definitions

* `Spells` — a text spells an integer.
* `Json.Exact` — an integer fits into 128 bits.

## Main results

* `Spells.unique`, `spells_toString` — a text spells one integer at most, and the printed form of
  an integer spells it.
* `Spells.integer?_eq` — the exact reading of a text.
* `Spells.exists_number?`, `Spells.number?_eq_none` — the rounded reading of a text.
-/

set_option autoImplicit false

namespace RequestRouting

/-- A text spells an integer: it is one or more decimal digits, behind a sign or none. -/
inductive Spells : String → Int → Prop where
  | unsigned (digits : List Char) (hsome : digits ≠ []) (hdigits : ∀ c ∈ digits, c.isDigit) :
    Spells (String.ofList digits) (ofDigits digits)
  | plus (digits : List Char) (hsome : digits ≠ []) (hdigits : ∀ c ∈ digits, c.isDigit) :
    Spells (String.ofList ('+' :: digits)) (ofDigits digits)
  | minus (digits : List Char) (hsome : digits ≠ []) (hdigits : ∀ c ∈ digits, c.isDigit) :
    Spells (String.ofList ('-' :: digits)) (-(ofDigits digits : Int))

/-- The integers that an exact reading covers. -/
def Json.Exact (n : Int) : Prop := Json.integerMin ≤ n ∧ n ≤ Json.integerMax

instance (n : Int) : Decidable (Json.Exact n) := inferInstanceAs (Decidable (_ ∧ _))

/-! ## Characters -/

/-- A digit is not white space. -/
lemma isBlank_of_isDigit {c : Char} (h : c.isDigit) : isBlank c = false := by
  have hrange : 48 ≤ c.toNat ∧ c.toNat ≤ 57 := by
    simpa [Char.isDigit, UInt32.le_iff_toNat_le] using h
  simp only [isBlank, Bool.or_eq_false_iff, Bool.and_eq_false_iff, decide_eq_false_iff_not,
    beq_eq_false_iff_ne]
  omega

namespace Spells

variable {text : String} {n m : Int}

/-- A sign is taken off in front of the digits, if there is one. -/
lemma takeSign_eq (h : Spells text n) : ∃ negative digits,
    takeSign text.toList = (negative, digits) ∧ digits ≠ [] ∧ (∀ c ∈ digits, c.isDigit) ∧
      n = if negative then -(ofDigits digits : Int) else ofDigits digits := by
  cases h with
  | unsigned digits hsome hdigits =>
    refine ⟨false, digits, ?_, hsome, hdigits, rfl⟩
    rw [String.toList_ofList]
    exact takeSign_of_isDigit hdigits
  | plus digits hsome hdigits =>
    exact ⟨false, digits, by rw [String.toList_ofList]; rfl, hsome, hdigits, rfl⟩
  | minus digits hsome hdigits =>
    exact ⟨true, digits, by rw [String.toList_ofList]; rfl, hsome, hdigits, rfl⟩

/-- There is no white space in it. -/
lemma isBlank_eq_false (h : Spells text n) : ∀ c ∈ text.toList, isBlank c = false := by
  have hblank (digits : List Char) (hdigits : ∀ c ∈ digits, c.isDigit) :
      ∀ c ∈ digits, isBlank c = false := fun c hc => isBlank_of_isDigit (hdigits c hc)
  cases h with
  | unsigned digits _ hdigits =>
    rw [String.toList_ofList]
    exact hblank digits hdigits
  | plus digits _ hdigits | minus digits _ hdigits =>
    rw [String.toList_ofList]
    exact List.forall_mem_cons.2 ⟨by decide, hblank digits hdigits⟩

/-- So there is none at its ends. -/
lemma isTrimmed (h : Spells text n) : isTrimmed text.toList = true := by
  have hblank := h.isBlank_eq_false
  have hfirst : text.toList.head?.any isBlank = false := by
    rw [Option.any_eq_false]
    exact fun c hc => by simp [hblank c (List.mem_of_head? hc)]
  have hlast : text.toList.getLast?.any isBlank = false := by
    rw [Option.any_eq_false]
    exact fun c hc => by simp [hblank c (List.mem_of_getLast? hc)]
  simp [RequestRouting.isTrimmed, hfirst, hlast]

/-! ## The exact reading -/

/-- The reader of integers reads it. -/
lemma readInteger?_eq (h : Spells text n) : readInteger? text.toList = some n := by
  obtain ⟨negative, digits, hsign, hsome, hdigits, rfl⟩ := h.takeSign_eq
  exact readInteger?_of_takeSign hsign hsome hdigits

/-- **A text spells one integer at most.** -/
theorem unique (h : Spells text n) (h' : Spells text m) : n = m :=
  Option.some.inj (h.readInteger?_eq.symm.trans h'.readInteger?_eq)

/-- **The exact reading of a text** is the integer that it spells, if that fits into 128 bits. -/
theorem integer?_eq (h : Spells text n) :
    (Json.string text).integer? = if Json.Exact n then some n else none := by
  simp only [Json.integer?, h.readInteger?_eq]
  by_cases hexact : Json.Exact n
  · rw [if_pos hexact, Option.filter_some_pos (by simpa [Json.Exact] using hexact)]
  · rw [if_neg hexact, Option.filter_some_neg (by simpa [Json.Exact] using hexact)]

/-! ## The rounded reading -/

/-- The reader of decimals reads it, as an integer without exponent. -/
lemma read?_eq (h : Spells text n) : ∃ negative coefficient,
    Decimal.read? text.toList = some ⟨negative, coefficient, 0⟩ ∧
      n = if negative then -(coefficient : Int) else coefficient := by
  obtain ⟨negative, digits, hsign, hsome, hdigits, rfl⟩ := h.takeSign_eq
  have hwhole : digits.takeWhile Char.isDigit = digits :=
    List.takeWhile_eq_self_iff.2 hdigits
  have hrest : digits.dropWhile Char.isDigit = [] := List.dropWhile_eq_nil_iff.2 hdigits
  refine ⟨negative, ofDigits digits, ?_, rfl⟩
  simp [Decimal.read?, hsign, hwhole, hrest, hsome, Decimal.readExponent?]

end Spells

/-- A number of many digits is great. -/
lemma Decimal.le_of_lt_digitCount {n k bound : Nat} (hk : 0 < k) (hbound : bound ≤ Nat.pow 10 k)
    (h : k < digitCount n) : bound ≤ n := by
  by_contra hlt
  have hshort : digitCount n ≤ k :=
    (Nat.length_toDigits_le_iff (by decide) hk).2 (Nat.lt_of_lt_of_le (Nat.not_le.1 hlt) hbound)
  omega

/-- An integer without exponent is rounded as it is: what is cut off for its size lies beyond the
limit. -/
lemma Decimal.toBinary64?_eq (negative : Bool) {coefficient : Nat} (hne : coefficient ≠ 0) :
    toBinary64? ⟨negative, coefficient, 0⟩ = Binary64.ofRatio negative coefficient 1 := by
  have hpower : Nat.pow 10 (0 : Int).toNat = 1 := rfl
  unfold toBinary64?
  dsimp only
  rw [if_neg hne, Int.neg_zero, hpower, Nat.mul_one, Int.add_zero]
  split_ifs with hgreat hsmall
  · have hdigits : 310 < digitCount coefficient := by omega
    have hlong : Binary64.limit ≤ coefficient :=
      le_of_lt_digitCount (by decide) (by decide +kernel) hdigits
    exact ((Binary64.ofRatio_one negative coefficient).2 hlong).symm
  · omega
  · rfl

namespace Spells

variable {text : String} {n : Int}

/-- Below the limit a text is read as the number that its integer is rounded to. -/
theorem exists_number? (h : Spells text n) (hlimit : n.natAbs < Binary64.limit) :
    ∃ x, (Json.string text).number? = some x ∧ x.RoundsFrom n := by
  obtain ⟨negative, coefficient, hread, rfl⟩ := h.read?_eq
  have hnumber : (Json.string text).number? =
      Decimal.toBinary64? ⟨negative, coefficient, 0⟩ := by
    simp [Json.number?, h.isTrimmed, hread]
  have habs : (if negative then -(coefficient : Int) else coefficient).natAbs = coefficient := by
    split_ifs <;> omega
  rw [habs] at hlimit
  rw [hnumber]
  obtain rfl | hpos := Nat.eq_zero_or_pos coefficient
  · refine ⟨.zero negative, rfl, ⟨?_, fun hne => absurd ?_ hne⟩⟩
    · rw [habs, Binary64.magnitudeOf_zero]
      rfl
    · simp
  · rw [Decimal.toBinary64?_eq negative hpos.ne']
    refine ⟨_, (Binary64.ofRatio_one negative coefficient).1 hlimit, ⟨?_, fun _ => ?_⟩⟩
    · rw [habs]
    · cases negative <;> simp [hpos]

/-- From the limit on a text is not read as a number. -/
theorem number?_eq_none (h : Spells text n) (hlimit : Binary64.limit ≤ n.natAbs) :
    (Json.string text).number? = none := by
  obtain ⟨negative, coefficient, hread, rfl⟩ := h.read?_eq
  have habs : (if negative then -(coefficient : Int) else coefficient).natAbs = coefficient := by
    split_ifs <;> omega
  rw [habs] at hlimit
  have hpos : 0 < Binary64.limit := by decide +kernel
  have hne : coefficient ≠ 0 := by omega
  simp only [Json.number?, h.isTrimmed, ↓reduceIte, hread, Option.bind_some,
    Decimal.toBinary64?_eq negative hne]
  exact (Binary64.ofRatio_one negative coefficient).2 hlimit

end Spells

/-! ## Printed integers -/

/-- **The printed form of an integer spells it.** -/
theorem spells_toString (n : Int) : Spells (toString n) n := by
  have hdigits (k : Nat) : ∀ c ∈ Nat.toDigits 10 k, c.isDigit := fun c hc =>
    isDigit_of_mem_toDigits hc
  cases n with
  | ofNat k =>
    have hspells := Spells.unsigned _ (Nat.toDigits_ne_nil (n := k) (b := 10)) (hdigits k)
    rw [ofDigits_toDigits] at hspells
    simpa [Int.toString_eq_repr, Int.repr, Nat.repr_eq_ofList_toDigits] using hspells
  | negSucc k =>
    have hspells := Spells.minus _ (Nat.toDigits_ne_nil (n := k + 1) (b := 10)) (hdigits (k + 1))
    have hvalue : (-((k + 1 : Nat) : Int)) = .negSucc k := rfl
    rw [ofDigits_toDigits, hvalue] at hspells
    simpa [Int.toString_eq_repr, Int.repr, Nat.repr_eq_ofList_toDigits] using hspells

end RequestRouting
