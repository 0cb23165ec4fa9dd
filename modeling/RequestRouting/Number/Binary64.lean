/-!
# Finite binary64 numbers

A finite number of the IEEE 754 binary64 format, held as its sign and the 63 magnitude bits read
as a natural number.  Keeping the bits instead of an opaque machine float makes comparison and
rounding plain arithmetic on naturals.

## Main definitions

* `Binary64` — sign and magnitude of a finite number; `Binary64.bits` is the 64-bit word.
* `Binary64.significand`, `Binary64.unit` — the magnitude as `significand · 2 ^ unit · 2 ^ (-1074)`.
* `Binary64.sameValue` — equality of the numbers denoted, so that the two zeros are equal.
* `Binary64.ofRatio` — the number nearest to a ratio of naturals, ties to the even significand.
-/

set_option autoImplicit false

namespace RequestRouting

/-- A finite binary64 number: its sign and its magnitude bits. -/
structure Binary64 where
  /-- The sign bit. -/
  negative : Bool
  /-- The exponent field above the 52 fraction bits, as one number. -/
  magnitude : Nat
  /-- The exponent field is not the one that marks infinities and NaNs. -/
  finite : magnitude < 0x7FF0000000000000
  deriving DecidableEq

namespace Binary64

/-- The two zeros. -/
def zero (negative : Bool) : Binary64 := ⟨negative, 0, by decide⟩

instance : Inhabited Binary64 := ⟨zero false⟩

/-- The leading one of a normal significand, `2 ^ 52`. -/
def leadingBit : Nat := 0x10000000000000

/-- The sign bit of the word, `2 ^ 63`. -/
def signBit : Nat := 0x8000000000000000

/-- The number one in units of the least positive number, `2 ^ 1074`. -/
def oneInUnits : Nat := Nat.pow 2 1074

/-- The exponent field. -/
def field (x : Binary64) : Nat := x.magnitude / leadingBit

/-- The significand, with its leading one where the number is normal. -/
def significand (x : Binary64) : Nat :=
  if x.field = 0 then x.magnitude else leadingBit + x.magnitude % leadingBit

/-- The power of two that scales the significand, counted from the least one, `2 ^ (-1074)`. -/
def unit (x : Binary64) : Nat := x.field - 1

/-- The 64-bit word of a number. -/
def bits (x : Binary64) : Nat := (if x.negative then signBit else 0) + x.magnitude

/-- Whether two numbers denote the same real number.  The two zeros do. -/
def sameValue (x y : Binary64) : Bool :=
  x.magnitude == y.magnitude && (x.negative == y.negative || x.magnitude == 0)

/-- A number denotes the same real as itself. -/
@[simp] theorem sameValue_self (x : Binary64) : x.sameValue x = true := by
  simp [sameValue]

/-- The order of the two sides does not matter. -/
theorem sameValue_comm (x y : Binary64) : x.sameValue y = y.sameValue x := by
  rw [Bool.eq_iff_iff]
  simp only [sameValue, Bool.and_eq_true, Bool.or_eq_true, beq_iff_eq]
  constructor <;> rintro ⟨hm, hs⟩ <;> exact ⟨hm.symm, hs.imp Eq.symm fun h => by omega⟩

/-! ## Rounding -/

/-- The quotient rounded to the nearest natural number, a half to the even neighbour. -/
def roundHalfEven (num den : Nat) : Nat :=
  let q := num / den
  let r := num % den
  if 2 * r < den then q
  else if den < 2 * r then q + 1
  else if q % 2 = 0 then q else q + 1

/-- The magnitude bits of the number nearest to `num / den`, which may lie beyond the finite
range.  With the ratio measured in units of `2 ^ (-1074)`, the unit is the least power of two that
leaves a significand of at most 53 bits; a significand that rounds up to `2 ^ 53` carries into the
exponent field by itself. -/
def magnitudeOfRatio (num den : Nat) : Nat :=
  let scaled := num * oneInUnits
  let unit := (scaled / den).log2 - 52
  unit * leadingBit + roundHalfEven scaled (den * Nat.pow 2 unit)

/-- The number nearest to `num / den`, or `none` when that is beyond the finite range. -/
def ofRatio (negative : Bool) (num den : Nat) : Option Binary64 :=
  let magnitude := magnitudeOfRatio num den
  if h : magnitude < 0x7FF0000000000000 then some ⟨negative, magnitude, h⟩ else none

/-- The number nearest to an integer, or `none` when that is beyond the finite range. -/
def ofInt? (n : Int) : Option Binary64 := ofRatio (n < 0) n.natAbs 1

/-- The magnitude as a ratio of naturals. -/
def ratio (x : Binary64) : Nat × Nat := (x.significand * Nat.pow 2 x.unit, oneInUnits)

/-- The word in sixteen hexadecimal digits. -/
def hex (x : Binary64) : String :=
  let digits := Nat.toDigits 16 x.bits
  String.ofList (List.replicate (16 - digits.length) '0' ++ digits)

end Binary64

end RequestRouting
