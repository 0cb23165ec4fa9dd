import RequestRouting.Number.Decimal

/-!
# Shortest decimal text of a binary64 number

The text of a number uses the fewest digits that read back as the number, and of the candidates
with that many digits the one nearest to it.  The search is exact: each grid of decimal numbers
with `1, 2, …, 17` digits is tried in turn, and on a grid only the two neighbours of the number
can lie in the interval of reals that round to it.

## Main definitions

* `Binary64.shortest` — the digits and the exponent of the last digit.
* `Binary64.text` — the printed form: positional while the decimal exponent is between `-5` and
  `15`, scientific otherwise, always recognisable as a fractional number.
-/

set_option autoImplicit false

namespace RequestRouting

namespace Binary64

/-- The interval of reals that round to a positive number, in units of `2 ^ (-1076)`: its lower
end, the number itself and its upper end.  The step below a power of two is half the step above. -/
def roundingInterval (x : Binary64) : Nat × Nat × Nat :=
  let step := Nat.pow 2 x.unit
  let value := 4 * x.significand * step
  let below := if x.significand = leadingBit && x.unit ≠ 0 then step else 2 * step
  (value - below, value, value + 2 * step)

/-- The least `j ≤ fuel + start` with `value · 10 ^ j ≥ one`, counting from `start`. -/
def leadingZeros (one : Nat) : Nat → Nat → Nat → Nat
  | 0, start, _ => start
  | fuel + 1, start, value =>
    if one ≤ value then start else leadingZeros one fuel (start + 1) (value * 10)

/-- The exponent of the leading decimal digit of a positive number. -/
def decimalExponent (x : Binary64) : Int :=
  let (_, value, _) := x.roundingInterval
  let one := 4 * oneInUnits
  if one ≤ value then (Decimal.digitCount (value / one) : Int) - 1
  else -(leadingZeros one 400 0 value : Int)

/-- The number of the grid of multiples of `10 ^ exponent` that is nearest to `x` among those that
round to `x`, if there is one; a tie goes to the even one. -/
def onGrid? (x : Binary64) (exponent : Int) : Option Nat :=
  let (low, value, high) := x.roundingInterval
  let up := Nat.pow 10 (-exponent).toNat
  let one := 4 * oneInUnits * Nat.pow 10 exponent.toNat
  let inside (d : Nat) : Bool :=
    if x.significand % 2 = 0 then low * up ≤ d * one && d * one ≤ high * up
    else low * up < d * one && d * one < high * up
  let d := value * up / one
  let r := value * up % one
  match inside d, inside (d + 1) with
  | true, true =>
    if 2 * r < one || (2 * r = one && d % 2 = 0) then some d else some (d + 1)
  | true, false => some d
  | false, true => some (d + 1)
  | false, false => none

/-- The first grid with a hit, trying `digits`, `digits + 1`, … significant digits. -/
def searchGrids (x : Binary64) (leading : Int) : Nat → Nat → Nat × Int
  | 0, _ => (0, 0)
  | fuel + 1, digits =>
    let exponent := leading - digits + 1
    match x.onGrid? exponent with
    | some d => (d, exponent)
    | none => searchGrids x leading fuel (digits + 1)

/-- The fewest digits that read back as a positive number, and the exponent of the last of them. -/
def shortest (x : Binary64) : Nat × Int := searchGrids x x.decimalExponent 17 1

/-- Drops trailing zeros from a digit list, at least one digit is kept. -/
def trimZeros (digits : List Char) : List Char :=
  match (digits.reverse.dropWhile (· == '0')).reverse with
  | [] => ['0']
  | kept => kept

/-- Lays out digits whose first one has the given decimal exponent. -/
def layout (digits : List Char) (exponent : Int) : List Char :=
  if -5 ≤ exponent && exponent ≤ 15 then
    if exponent < 0 then
      '0' :: '.' :: (List.replicate (-exponent - 1).toNat '0' ++ digits)
    else
      let whole := exponent.toNat + 1
      if digits.length ≤ whole then
        digits ++ List.replicate (whole - digits.length) '0' ++ ['.', '0']
      else digits.take whole ++ '.' :: digits.drop whole
  else
    let mantissa := match digits with
      | first :: second :: rest => first :: '.' :: second :: rest
      | short => short
    let sign := if exponent < 0 then '-' else '+'
    mantissa ++ 'e' :: sign :: Nat.toDigits 10 exponent.natAbs

/-- The printed form of a number. -/
def text (x : Binary64) : String :=
  let body :=
    if x.magnitude = 0 then ['0', '.', '0']
    else
      let (d, exponent) := x.shortest
      let digits := Nat.toDigits 10 d
      layout (trimZeros digits) (exponent + digits.length - 1)
  String.ofList (if x.negative then '-' :: body else body)

end Binary64

end RequestRouting
