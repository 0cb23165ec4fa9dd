import RequestRouting.Fields
import RequestRouting.Number.Shortest

/-!
# JSON values

The dynamic values that travel through a dispatch: facts, results, backreferences, parameters and
option tables.

## Main definitions

* `Number` — an integer, or a finite binary64 number; the two are never equal.
* `Json` — a value; an object is a list of fields, sorted wherever this library builds one.
* `Json.same` — equality of values, with floating point numbers compared by what they denote.
* `Json.Canonical` — every object of the value has its fields in order.
-/

set_option autoImplicit false

namespace RequestRouting

/-- A JSON number. -/
inductive Number where
  /-- A number written without point and exponent, in the range of 64-bit integers. -/
  | int (value : Int)
  /-- Any other number. -/
  | float (value : Binary64)
  deriving DecidableEq

namespace Number

/-- Equality of numbers; an integer never equals a floating point number. -/
def same : Number → Number → Bool
  | .int a, .int b => a == b
  | .float a, .float b => a.sameValue b
  | _, _ => false

/-- The printed form of a number. -/
def text : Number → String
  | .int value => toString value
  | .float value => value.text

/-- The nearest binary64 number. -/
def toBinary64? : Number → Option Binary64
  | .int value => Binary64.ofInt? value
  | .float value => some value

end Number

/-- A JSON value. -/
inductive Json where
  | null
  | bool (value : Bool)
  | number (value : Number)
  | string (value : String)
  | array (items : List Json)
  | object (fields : List (String × Json))

namespace Json

instance : Inhabited Json := ⟨.null⟩

/-- An integer as a value. -/
def int (value : Int) : Json := .number (.int value)

/-- An object whose fields are given in any order. -/
def ofFields (fields : List (String × Json)) : Json := .object (Fields.ofList fields)

/-- The entries of a map as an object. -/
def ofDict (dict : Dict Json) : Json := .object dict.entries

/-- A list of texts as an array. -/
def ofStrings (items : List String) : Json := .array (items.map .string)

/-- A value that may be absent; absence is null. -/
def ofOption : Option Json → Json
  | some value => value
  | none => .null

/-- Whether a value is null. -/
def isNull : Json → Bool
  | .null => true
  | _ => false

/-- The text of a string value. -/
def string? : Json → Option String
  | .string value => some value
  | _ => none

/-- The fields of an object. -/
def fields? : Json → Option (List (String × Json))
  | .object fields => some fields
  | _ => none

/-- The items of an array. -/
def items? : Json → Option (List Json)
  | .array items => some items
  | _ => none

/-- The value of a field of an object. -/
def get? (name : String) : Json → Option Json
  | .object fields => Fields.get? name fields
  | _ => none

mutual

/-- Equality of values.  Floating point numbers are compared by what they denote, so that the two
zeros are equal; everything else is compared part by part. -/
def same : Json → Json → Bool
  | .null, .null => true
  | .bool a, .bool b => a == b
  | .number a, .number b => a.same b
  | .string a, .string b => a == b
  | .array a, .array b => sameItems a b
  | .object a, .object b => sameFields a b
  | _, _ => false

/-- Equality of the items of two arrays. -/
def sameItems : List Json → List Json → Bool
  | [], [] => true
  | a :: as, b :: bs => same a b && sameItems as bs
  | _, _ => false

/-- Equality of the fields of two objects. -/
def sameFields : List (String × Json) → List (String × Json) → Bool
  | [], [] => true
  | (m, a) :: as, (n, b) :: bs => m == n && same a b && sameFields as bs
  | _, _ => false

end

mutual

/-- Whether the fields of every object in a value are in order. -/
def Canonical : Json → Prop
  | .array items => CanonicalItems items
  | .object fields => Fields.Sorted fields ∧ CanonicalFields fields
  | _ => True

/-- Whether every item is canonical. -/
def CanonicalItems : List Json → Prop
  | [] => True
  | item :: rest => Canonical item ∧ CanonicalItems rest

/-- Whether the value of every field is canonical. -/
def CanonicalFields : List (String × Json) → Prop
  | [] => True
  | (_, value) :: rest => Canonical value ∧ CanonicalFields rest

end

end Json

end RequestRouting
