import RequestRouting.Json.Basic
import RequestRouting.Text.Blank

/-!
# Scalar readings of dynamic values

Facts, parameters and captures are dynamic values, and conditions compare them by what they mean
and not by how they are spelled: `"042"` and `42` are the same number.

## Main definitions

* `Json.display?` — the text of a scalar.
* `Json.number?`, `Json.integer?` — the number that a value is or spells.
* `looseEq` — loose equality.
-/

set_option autoImplicit false

namespace RequestRouting

namespace Json

/-- The text of a scalar: a string as it is, a number in its printed form, a truth value as its
name.  Null and containers have none. -/
def display? : Json → Option String
  | .string s => some s
  | .number n => some n.text
  | .bool b => some (if b then "true" else "false")
  | .null | .array _ | .object _ => none

/-- The finite number that a value is or spells.  White space around a numeral spoils it. -/
def number? : Json → Option Binary64
  | .number n => n.toBinary64?
  | .string s => if isTrimmed s.toList then (Decimal.read? s.toList).bind Decimal.toBinary64? else none
  | _ => none

/-- The least integer that an exact reading covers. -/
def integerMin : Int := -170141183460469231731687303715884105728

/-- The greatest integer that an exact reading covers. -/
def integerMax : Int := 170141183460469231731687303715884105727

/-- The integer that a value is or spells, as far as it fits in 128 bits. -/
def integer? : Json → Option Int
  | .number (.int value) => some value
  | .string s =>
    (readInteger? s.toList).filter fun value => integerMin ≤ value && value ≤ integerMax
  | _ => none

/-- Whether a value is or spells a finite number. -/
def isNumeric (value : Json) : Bool := value.number?.isSome

end Json

/-- Loose equality.  Null equals nothing.  Two integers compare exactly, two numbers as binary64
numbers, two other scalars by their texts, and two containers part by part. -/
def looseEq (left right : Json) : Bool :=
  if left.isNull || right.isNull then false
  else match left.integer?, right.integer? with
    | some a, some b => a == b
    | _, _ => match left.number?, right.number? with
      | some a, some b => a.sameValue b
      | _, _ => match left.display?, right.display? with
        | some a, some b => a == b
        | none, none => left.same right
        | _, _ => false

end RequestRouting
