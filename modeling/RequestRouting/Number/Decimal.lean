import RequestRouting.Number.Binary64

/-!
# Decimal numerals

Decimal numerals in text: an optional sign, digits with at most one point among them, and an
optional exponent.  A numeral is read into an exact coefficient and exponent first, and rounded
once afterwards.

## Main definitions

* `Decimal` — `± coefficient · 10 ^ exponent`, exact.
* `Decimal.read?` — the numeral that a text spells, if it spells one.
* `Decimal.toBinary64?` — the nearest finite binary64 number, `none` on overflow.
* `readInteger?` — the integer that a text of an optional sign and digits spells.
-/

set_option autoImplicit false

namespace RequestRouting

/-- The value of a decimal digit. -/
def digitValue (c : Char) : Nat := c.toNat - '0'.toNat

/-- The value of a hexadecimal digit. -/
def hexDigitValue? (c : Char) : Option Nat :=
  if '0' ≤ c && c ≤ '9' then some (c.toNat - '0'.toNat)
  else if 'a' ≤ c && c ≤ 'f' then some (c.toNat - 'a'.toNat + 10)
  else if 'A' ≤ c && c ≤ 'F' then some (c.toNat - 'A'.toNat + 10)
  else none

/-- The number that a list of decimal digits spells, most significant first. -/
def ofDigits (digits : List Char) : Nat :=
  digits.foldl (fun n c => n * 10 + digitValue c) 0

/-- Removes a leading sign; the first component tells whether it was a minus. -/
def takeSign : List Char → Bool × List Char
  | '-' :: rest => (true, rest)
  | '+' :: rest => (false, rest)
  | rest => (false, rest)

/-- The integer spelled by an optional sign and one or more decimal digits. -/
def readInteger? (text : List Char) : Option Int :=
  let (negative, digits) := takeSign text
  if digits.isEmpty || !digits.all Char.isDigit then none
  else some (if negative then -(ofDigits digits : Int) else ofDigits digits)

/-- An exact decimal number, `± coefficient · 10 ^ exponent`. -/
structure Decimal where
  /-- Whether the numeral carries a minus. -/
  negative : Bool
  /-- The digits, without the point. -/
  coefficient : Nat
  /-- The power of ten that scales the coefficient. -/
  exponent : Int
  deriving DecidableEq

namespace Decimal

/-- The exponent after the digits: nothing at all, or a mark, an optional sign and digits. -/
def readExponent? : List Char → Option Int
  | [] => some 0
  | c :: rest => if c = 'e' || c = 'E' then readInteger? rest else none

/-- The numeral spelled by a text.  A point needs a digit on one of its sides, and nothing may
surround the numeral. -/
def read? (text : List Char) : Option Decimal :=
  let (negative, body) := takeSign text
  let whole := body.takeWhile Char.isDigit
  let afterWhole := body.dropWhile Char.isDigit
  let (fraction, afterFraction) := match afterWhole with
    | '.' :: rest => (rest.takeWhile Char.isDigit, rest.dropWhile Char.isDigit)
    | rest => ([], rest)
  if whole.isEmpty && fraction.isEmpty then none
  else do
    let exponent ← readExponent? afterFraction
    some ⟨negative, ofDigits (whole ++ fraction), exponent - fraction.length⟩

/-- The number of decimal digits of a natural number. -/
def digitCount (n : Nat) : Nat := (Nat.toDigits 10 n).length

/-- The nearest finite binary64 number.  Numbers of magnitude `10 ^ 310` and above overflow and
those below `10 ^ (-330)` round to zero whatever their digits, so the powers of ten stay small. -/
def toBinary64? (d : Decimal) : Option Binary64 :=
  let size := (digitCount d.coefficient : Int) + d.exponent
  if d.coefficient = 0 then some (.zero d.negative)
  else if size > 310 then none
  else if size < -330 then some (.zero d.negative)
  else Binary64.ofRatio d.negative (d.coefficient * Nat.pow 10 d.exponent.toNat)
    (Nat.pow 10 (-d.exponent).toNat)

end Decimal

end RequestRouting
