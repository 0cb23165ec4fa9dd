import RequestRouting.Text.Split

/-!
# Punycode

The encoding of text with the letters, digits and the hyphen alone.  The ASCII characters come
first; then every other character, in increasing order of the numbers, is coded as the distance to
it: a number whose digits have base thirty-six and thresholds that adapt to the distances so far.

## Main definitions

* `Punycode.encode` — the coded form of a text.
* `Punycode.decode?` — the text of a coded form.
-/

set_option autoImplicit false

namespace RequestRouting

namespace Punycode

/-! ## Digits -/

/-- The character of a digit: letters for the first twenty-six, then figures. -/
def digitChar (digit : Nat) : Char :=
  if digit < 26 then Char.ofNat ('a'.toNat + digit) else Char.ofNat ('0'.toNat + (digit - 26))

/-- The value of a digit. -/
def digitValue? (c : Char) : Option Nat :=
  if c.isDigit then some (c.toNat - '0'.toNat + 26)
  else if c.isLower then some (c.toNat - 'a'.toNat)
  else if c.isUpper then some (c.toNat - 'A'.toNat)
  else none

/-- The threshold of a digit at a position that is a multiple of the base. -/
def threshold (position bias : Nat) : Nat := min 26 (max 1 (position - bias))

/-- Divides a distance until it is small, and counts the digits that this takes. -/
def settle (delta steps : Nat) : Nat × Nat :=
  if 455 < delta then settle (delta / 35) (steps + 36) else (delta, steps)
termination_by delta
decreasing_by exact Nat.div_lt_self (by omega) (by omega)

/-- The bias after a distance, given how many characters have been coded. -/
def adapt (delta count : Nat) (first : Bool) : Nat :=
  let delta := if first then delta / 700 else delta / 2
  let (delta, steps) := settle (delta + delta / count) 0
  steps + 36 * delta / (delta + 38)

/-- The bias before the first distance. -/
def initialBias : Nat := 72

/-- The digits of a distance. -/
def digits (bias position distance : Nat) : List Char :=
  let t := threshold position bias
  if distance < t then [digitChar distance]
  else digitChar (t + (distance - t) % (36 - t)) ::
    digits bias (position + 36) ((distance - t) / (36 - t))
termination_by distance
decreasing_by
  have ht : 1 ≤ threshold position bias := by simp only [threshold]; omega
  exact Nat.lt_of_le_of_lt (Nat.div_le_self _ _) (by omega)

/-! ## Encoding -/

/-- The state between two distances. -/
structure Coder where
  /-- The distance so far. -/
  delta : Nat
  bias : Nat
  /-- The number of characters that have been coded. -/
  count : Nat
  first : Bool
  /-- The digits so far, in reverse order of the distances. -/
  output : List (List Char)

/-- Passes one character of the text while those with the number `n` are being coded. -/
def Coder.pass (n : Nat) (coder : Coder) (c : Char) : Coder :=
  if c.toNat < n then { coder with delta := coder.delta + 1 }
  else if c.toNat = n then
    { delta := 0
      bias := adapt coder.delta (coder.count + 1) coder.first
      count := coder.count + 1
      first := false
      output := digits coder.bias 36 coder.delta :: coder.output }
  else coder

/-- Codes the characters with a number. -/
def Coder.level (text : List Char) (state : Coder × Nat) (n : Nat) : Coder × Nat :=
  let (coder, last) := state
  let coder := { coder with delta := coder.delta + (n - last) * (coder.count + 1) }
  let coder := text.foldl (pass n) coder
  ({ coder with delta := coder.delta + 1 }, n + 1)

/-- Puts a number into an increasing list, unless it is there. -/
def insertOnce (n : Nat) : List Nat → List Nat
  | [] => [n]
  | m :: rest => if n < m then n :: m :: rest else if n = m then m :: rest
    else m :: insertOnce n rest

/-- Whether a character is an ASCII character. -/
def isAscii (c : Char) : Bool := c.toNat < 0x80

/-- The coded form of a text. -/
def encode (text : List Char) : List Char :=
  let basic := text.filter isAscii
  let levels := ((text.filter (!isAscii ·)).map Char.toNat).foldr insertOnce []
  let start : Coder := ⟨0, initialBias, basic.length, true, []⟩
  let (coder, _) := levels.foldl (Coder.level text) (start, 0x80)
  (if basic.isEmpty then [] else basic ++ ['-']) ++ coder.output.reverse.flatten

/-! ## Decoding -/

/-- The distance at the front of a coded form, and what follows it. -/
def readDistance? (bias : Nat) : Nat → Nat → Nat → List Char → Option (Nat × List Char)
  | _, _, _, [] => none
  | position, weight, value, c :: rest => do
    let digit ← digitValue? c
    let value := value + digit * weight
    if value ≥ 0x100000000 then none
    let t := threshold position bias
    if digit < t then some (value, rest)
    else readDistance? bias (position + 36) (weight * (36 - t)) value rest

/-- What is left after a distance is shorter. -/
theorem length_of_readDistance? {bias position weight value : Nat} {text rest : List Char}
    {distance : Nat}
    (h : readDistance? bias position weight value text = some (distance, rest)) :
    rest.length < text.length := by
  induction text generalizing position weight value with
  | nil => simp [readDistance?] at h
  | cons c text ih =>
    rw [readDistance?] at h
    cases hd : digitValue? c with
    | none => simp [hd] at h
    | some digit =>
      simp only [hd, Option.bind_eq_bind, Option.bind_some] at h
      split at h
      · simp at h
      · split at h
        · simp only [Option.some.injEq, Prod.mk.injEq] at h
          simp [← h.2]
        · have := ih h
          simp only [List.length_cons]
          omega

/-- Puts a character at a position. -/
def insertAt (position : Nat) (c : Char) (text : List Char) : List Char :=
  text.take position ++ c :: text.drop position

/-- Decodes distances: `index` and `n` are the position and the number that the next one counts
from. -/
def decodeFrom? (bias index n : Nat) (first : Bool) (text : List Char) (coded : List Char) :
    Option (List Char) :=
  match coded with
  | [] => some text
  | c :: rest =>
    match _h : readDistance? bias 36 1 0 (c :: rest) with
    | none => none
    | some (distance, after) =>
      let count := text.length + 1
      let total := index + distance
      let number := n + total / count
      if number.isValidChar then
        decodeFrom? (adapt distance count first) (total % count + 1) number false
          (insertAt (total % count) (Char.ofNat number) text) after
      else none
termination_by coded.length
decreasing_by exact length_of_readDistance? _h

/-- Splits a coded form at its last hyphen, unless nothing is in front of that. -/
def splitLast (coded : List Char) : List Char × List Char :=
  match splitFirst? '-' coded.reverse with
  | some (after, c :: before) => ((c :: before).reverse, after.reverse)
  | _ => ([], coded)

/-- The text of a coded form. -/
def decode? (coded : List Char) : Option (List Char) :=
  let (basic, rest) := splitLast coded
  if basic.all isAscii then decodeFrom? initialBias 0 0x80 true basic rest else none

end Punycode

end RequestRouting
