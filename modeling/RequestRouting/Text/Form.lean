import RequestRouting.Text.Percent
import RequestRouting.Text.Split

/-!
# Form-encoded query strings

Query strings in the `application/x-www-form-urlencoded` format: pairs joined by `&`, each a name
and a value joined by `=`, with `+` for a blank and percent escapes for the rest.

## Main definitions

* `Form.pairs` — the decoded pairs, in order.  Empty pieces are skipped, and a piece without `=`
  has an empty value.
-/

set_option autoImplicit false

namespace RequestRouting

namespace Form

/-- Decodes a name or a value. -/
def decode (text : List Char) : String :=
  String.ofList (Percent.decodeChars (text.map fun c => if c = '+' then ' ' else c))

/-- The pair that a piece stands for. -/
def pair (piece : List Char) : String × String :=
  match splitFirst? '=' piece with
  | some (name, value) => (decode name, decode value)
  | none => (decode piece, "")

/-- The decoded pairs of a query string. -/
def pairs (query : List Char) : List (String × String) :=
  ((splitOnChar '&' query).filter fun piece => !piece.isEmpty).map pair

end Form

end RequestRouting
