import RequestRouting.Json.Basic

/-!
# Tokens of JSON text

The lexical level of JSON: punctuation, strings with their escapes resolved, numbers and the three
literal names.  One pass over the characters, with the unfinished token as its state.

## Main definitions

* `Json.Token` — a lexical unit.
* `Json.readNumber?` — the number that a word spells.
* `Json.tokens?` — the tokens of a text, `none` where it is no sequence of tokens.

## Implementation notes

The leading digits of a numeral that fit in 64 bits are kept; the number they spell is rounded to
binary64 and scaled once by the nearest binary64 power of ten.  For numerals of up to fifteen
digits and small exponents this is the nearest number; a longer one may differ in its last bit.
-/

set_option autoImplicit false

namespace RequestRouting

namespace Json

/-- A lexical unit of JSON text. -/
inductive Token where
  | openArray
  | closeArray
  | openObject
  | closeObject
  | comma
  | colon
  | string (value : String)
  | scalar (value : Json)

/-! ## Numbers -/

/-- The exclusive upper bound of a significand. -/
def significandBound : Nat := 0x10000000000000000

/-- Reads integer digits into a significand; digits that no longer fit are counted instead. -/
def scanWhole : List Char → Nat → Nat → Nat × Nat
  | [], significand, dropped => (significand, dropped)
  | c :: rest, significand, dropped =>
    let next := significand * 10 + digitValue c
    if dropped = 0 && next < significandBound then scanWhole rest next 0
    else scanWhole rest significand (dropped + 1)

/-- Reads fraction digits into a significand and counts those that fit; the rest is ignored. -/
def scanFraction : List Char → Nat → Nat → Nat × Nat
  | [], significand, used => (significand, used)
  | c :: rest, significand, used =>
    let next := significand * 10 + digitValue c
    if next < significandBound then scanFraction rest next (used + 1) else (significand, used)

/-- The product of a number with a power of ten, or the quotient by one, as a ratio. -/
def scaleOnce (x : Binary64) (exponent : Int) : Option Binary64 := do
  let power ← Binary64.ofRatio false (Nat.pow 10 exponent.natAbs) 1
  let (xn, xd) := x.ratio
  let (pn, pd) := power.ratio
  if 0 ≤ exponent then Binary64.ofRatio false (xn * pn) (xd * pd)
  else Binary64.ofRatio false (xn * pd) (xd * pn)

/-- Scales a non-negative number by a power of ten; `none` on overflow.  A step covers at most
`10 ^ 308`, the largest power of ten in range. -/
def scaleByPower : Nat → Binary64 → Int → Option Binary64
  | 0, x, _ => some x
  | fuel + 1, x, exponent =>
    if exponent.natAbs ≤ 308 then scaleOnce x exponent
    else if x.magnitude = 0 then some x
    else if 0 ≤ exponent then none
    else do scaleByPower fuel (← scaleOnce x (-308)) (exponent + 308)

/-- The floating point number of a sign, a significand and a power of ten. -/
def scaledNumber? (negative : Bool) (significand : Nat) (exponent : Int) : Option Number := do
  let x ← Binary64.ofRatio false significand 1
  let x ← scaleByPower 4 x exponent
  some (.float { x with negative := negative })

/-- The integer of a sign and a significand; minus zero and integers below the range of signed
64-bit integers are floating point numbers. -/
def wholeNumber? (negative : Bool) (significand : Nat) : Option Number :=
  if !negative then some (.int significand)
  else if significand = 0 || Binary64.signBit < significand then scaledNumber? true significand 0
  else some (.int (-significand))

/-- Splits a digit list off the front. -/
def spanDigits (text : List Char) : List Char × List Char :=
  (text.takeWhile Char.isDigit, text.dropWhile Char.isDigit)

/-- The fraction after a number's integer digits: none, or a point and at least one digit. -/
def readFraction? : List Char → Option (List Char × List Char)
  | '.' :: rest =>
    let (digits, rest) := spanDigits rest
    if digits.isEmpty then none else some (digits, rest)
  | rest => some ([], rest)

/-- The number that a word spells.  No leading zeros, and digits on both sides of a point. -/
def readNumber? (word : List Char) : Option Number := do
  let (negative, body) := match word with
    | '-' :: rest => (true, rest)
    | rest => (false, rest)
  let (whole, rest) := spanDigits body
  if whole.isEmpty || (whole.head? == some '0' && whole.length ≠ 1) then none
  let (fraction, rest) ← readFraction? rest
  let (significand, dropped) := scanWhole whole 0 0
  if fraction.isEmpty && rest.isEmpty && dropped = 0 then wholeNumber? negative significand
  else
    let exponent ← Decimal.readExponent? rest
    let (significand, used) := scanFraction fraction significand 0
    scaledNumber? negative significand (dropped - used + exponent)

/-! ## Words and strings -/

/-- The value that a word spells: a literal name or a number. -/
def readWord? (word : List Char) : Option Json :=
  if word = ['n', 'u', 'l', 'l'] then some .null
  else if word = ['t', 'r', 'u', 'e'] then some (.bool true)
  else if word = ['f', 'a', 'l', 's', 'e'] then some (.bool false)
  else (readNumber? word).map .number

/-- The punctuation token of a character. -/
def punctuation? (c : Char) : Option Token :=
  if c = '[' then some .openArray
  else if c = ']' then some .closeArray
  else if c = '\x7b' then some .openObject
  else if c = '\x7d' then some .closeObject
  else if c = ',' then some .comma
  else if c = ':' then some .colon
  else none

/-- The white space between tokens. -/
def isSpace (c : Char) : Bool := c == ' ' || c == '\n' || c == '\r' || c == '\t'

/-- The character of a short escape. -/
def shortEscape? (c : Char) : Option Char :=
  if c = '"' || c = '\\' || c = '/' then some c
  else if c = 'b' then some '\x08'
  else if c = 'f' then some '\x0c'
  else if c = 'n' then some '\n'
  else if c = 'r' then some '\r'
  else if c = 't' then some '\t'
  else none

/-- The unfinished token between two characters.  Collected characters are in reverse. -/
inductive Pending where
  /-- Between tokens. -/
  | idle
  /-- Inside a word. -/
  | word (chars : List Char)
  /-- Inside a string. -/
  | text (chars : List Char)
  /-- Inside a string, after a backslash. -/
  | escape (chars : List Char)
  /-- Inside a string and a numeric escape: the digits still missing, the value so far, and the
  leading surrogate that an earlier escape left open. -/
  | unit (chars : List Char) (missing value : Nat) (lead : Option Nat)
  /-- After a leading surrogate, where a backslash has to follow. -/
  | surrogate (chars : List Char) (lead : Nat)
  /-- After a leading surrogate and a backslash, where a `u` has to follow. -/
  | surrogateEscape (chars : List Char) (lead : Nat)

/-- Closes a word. -/
def closeWord? (chars : List Char) : Option Token := (readWord? chars.reverse).map .scalar

/-- The state after the last digit of a numeric escape.  Surrogates have to come in pairs. -/
def closeUnit? (chars : List Char) (value : Nat) : Option Nat → Option Pending
  | none =>
    if 0xDC00 ≤ value && value ≤ 0xDFFF then none
    else if 0xD800 ≤ value && value ≤ 0xDBFF then some (.surrogate chars value)
    else some (.text (Char.ofNat value :: chars))
  | some lead =>
    if 0xDC00 ≤ value && value ≤ 0xDFFF then
      some (.text (Char.ofNat (0x10000 + (lead - 0xD800) * 0x400 + (value - 0xDC00)) :: chars))
    else none

/-- The tokens of the remaining characters, given the unfinished token in front of them. -/
def tokensFrom : Pending → List Char → Option (List Token)
  | .idle, [] => some []
  | .word chars, [] => do some [← closeWord? chars]
  | _, [] => none
  | .idle, c :: rest =>
    if isSpace c then tokensFrom .idle rest
    else if c = '"' then tokensFrom (.text []) rest
    else match punctuation? c with
      | some token => do some (token :: (← tokensFrom .idle rest))
      | none => tokensFrom (.word [c]) rest
  | .word chars, c :: rest =>
    if isSpace c then do some ((← closeWord? chars) :: (← tokensFrom .idle rest))
    else if c = '"' then none
    else match punctuation? c with
      | some token => do some ((← closeWord? chars) :: token :: (← tokensFrom .idle rest))
      | none => tokensFrom (.word (c :: chars)) rest
  | .text chars, c :: rest =>
    if c = '"' then do some (.string (String.ofList chars.reverse) :: (← tokensFrom .idle rest))
    else if c = '\\' then tokensFrom (.escape chars) rest
    else if c.toNat < 0x20 then none
    else tokensFrom (.text (c :: chars)) rest
  | .escape chars, c :: rest =>
    if c = 'u' then tokensFrom (.unit chars 4 0 none) rest
    else match shortEscape? c with
      | some plain => tokensFrom (.text (plain :: chars)) rest
      | none => none
  | .unit chars missing value lead, c :: rest =>
    match hexDigitValue? c with
    | none => none
    | some digit =>
      let value := value * 16 + digit
      if missing = 1 then
        match closeUnit? chars value lead with
        | some pending => tokensFrom pending rest
        | none => none
      else tokensFrom (.unit chars (missing - 1) value lead) rest
  | .surrogate chars lead, c :: rest =>
    if c = '\\' then tokensFrom (.surrogateEscape chars lead) rest else none
  | .surrogateEscape chars lead, c :: rest =>
    if c = 'u' then tokensFrom (.unit chars 4 0 (some lead)) rest else none

/-- The tokens of a text. -/
def tokens? (text : String) : Option (List Token) := tokensFrom .idle text.toList

end Json

end RequestRouting
