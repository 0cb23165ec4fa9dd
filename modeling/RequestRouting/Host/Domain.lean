import RequestRouting.Host.Label

/-!
# Domain names

A domain name is mapped to lower-case letters and composed, divided into labels, and written with
ASCII characters only.

## Main definitions

* `Domain.map?` — a name with every character replaced by what it stands for.
* `Domain.readLabels?` — the Unicode forms of the labels of a name.
* `Domain.toAscii?` — the ASCII form of a domain name.
-/

set_option autoImplicit false

namespace RequestRouting

namespace Domain

/-- The ASCII characters that a mapped domain name may not contain. -/
def isForbidden (c : Char) : Bool :=
  c.isUpper || c.toNat ≤ 0x20 || c.toNat = 0x7F || "%#/:<>?@[\\]^|".toList.contains c

/-- A name with every character replaced by what it stands for, and composed. -/
def map? (text : List Char) : Option (List Char) := do
  let images ← text.mapM mapChar?
  let mapped := Unicode.normalize images.flatten
  if mapped.any isForbidden then none else some mapped

/-- The Unicode forms of the labels of a name.  If one has text from right to left then all of
them have to keep to their direction. -/
def readLabels? (text : List Char) : Option (List (List Char)) := do
  let mapped ← map? text
  let labels ← (splitOnChar '.' mapped).mapM readLabel?
  if labels.any hasRightToLeft && !labels.all followsDirection then none else some labels

/-- The name that labels make. -/
def join (labels : List (List Char)) : String := ".".intercalate (labels.map String.ofList)

/-- The ASCII form of a domain name. -/
def toAscii? (text : List Char) : Option String :=
  (readLabels? text).map fun labels => join (labels.map labelToAscii)

end Domain

end RequestRouting
