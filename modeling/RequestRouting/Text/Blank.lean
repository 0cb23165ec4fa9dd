/-!
# White space

The characters with the Unicode property `White_Space`.  The set has been stable for many versions
of the standard, so it is written out here.

## Main definitions

* `isBlank` — membership in the property.
* `isTrimmed` — a text that neither begins nor ends with white space.
-/

set_option autoImplicit false

namespace RequestRouting

/-- Whether a character has the property `White_Space`. -/
def isBlank (c : Char) : Bool :=
  let n := c.toNat
  (9 ≤ n && n ≤ 13) || n == 0x20 || n == 0x85 || n == 0xA0 || n == 0x1680 ||
    (0x2000 ≤ n && n ≤ 0x200A) || n == 0x2028 || n == 0x2029 || n == 0x202F || n == 0x205F ||
    n == 0x3000

/-- Whether a text neither begins nor ends with white space. -/
def isTrimmed (text : List Char) : Bool :=
  !(text.head?.any isBlank) && !(text.getLast?.any isBlank)

/-- A text without the white space at its two ends. -/
def trimBlank (text : List Char) : List Char :=
  ((text.dropWhile isBlank).reverse.dropWhile isBlank).reverse

end RequestRouting
