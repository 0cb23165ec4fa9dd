import RequestRouting.Number.Decimal
import RequestRouting.Text.Split

/-!
# IPv6 addresses

Eight numbers of sixteen bits.  In text two colons stand for zeros that are left out, and the last
two numbers may be written as four octets.

## Main definitions

* `Ipv6` — an address.
* `Ipv6.parse?` — the address that a text spells.
* `Ipv6.text` — the canonical text, with the longest run of zeros left out.
-/

set_option autoImplicit false

namespace RequestRouting

/-- An IPv6 address. -/
structure Ipv6 where
  /-- Its eight numbers. -/
  pieces : List Nat
  deriving DecidableEq

namespace Ipv6

/-- The number of pieces. -/
def count : Nat := 8

/-! ## Reading -/

/-- The number of a piece of one to four hexadecimal digits. -/
def readPiece? (digits : List Char) : Option Nat :=
  if digits.isEmpty || 4 < digits.length then none
  else digits.foldlM (fun n c => (hexDigitValue? c).map fun digit => n * 16 + digit) 0

/-- The value of an octet in base ten, without leading zeros. -/
def readOctet? (digits : List Char) : Option Nat :=
  if digits.isEmpty || !digits.all Char.isDigit then none
  else if digits.head? = some '0' && digits.length ≠ 1 then none
  else if ofDigits digits < 256 then some (ofDigits digits)
  else none

/-- The two pieces that four octets make. -/
def readOctets? (text : List Char) : Option (List Nat) := do
  match ← (splitOnChar '.' text).mapM readOctet? with
  | [a, b, c, d] => some [a * 256 + b, c * 256 + d]
  | _ => none

/-- The pieces of groups between colons; the last group may be four octets if `tail` is set. -/
def readGroups? (tail : Bool) : List (List Char) → Option (List Nat)
  | [] => some []
  | [group] =>
    if tail && group.contains '.' then readOctets? group
    else (readPiece? group).map fun piece => [piece]
  | group :: rest => do
    let piece ← readPiece? group
    some (piece :: (← readGroups? tail rest))

/-- The pieces of a text between the ends of an address and its two colons. -/
def readSide? (tail : Bool) (text : List Char) : Option (List Nat) :=
  if text.isEmpty then some [] else readGroups? tail (splitOnChar ':' text)

/-- Splits a text at its first two colons in a row. -/
def splitGap? : List Char → Option (List Char × List Char)
  | ':' :: ':' :: rest => some ([], rest)
  | c :: rest => (splitGap? rest).map fun (before, after) => (c :: before, after)
  | [] => none

/-- The address that a text spells.  Two colons stand for at least one piece. -/
def parse? (text : List Char) : Option Ipv6 :=
  match splitGap? text with
  | none => do
    let pieces ← readGroups? true (splitOnChar ':' text)
    if pieces.length = count then some ⟨pieces⟩ else none
  | some (left, right) => do
    let left ← readSide? false left
    let right ← readSide? true right
    let given := left.length + right.length
    if given < count then some ⟨left ++ List.replicate (count - given) 0 ++ right⟩ else none

/-! ## Writing -/

/-- The number of zeros at the front of a list. -/
def zeroRun (pieces : List Nat) : Nat := (pieces.takeWhile (· = 0)).length

/-- The position and the length of the longest run of zeros, the first of those of the same
length.  The second argument is the position of the list. -/
def longestRun : List Nat → Nat → Nat × Nat
  | [], position => (position, 0)
  | piece :: rest, position =>
    let here := zeroRun (piece :: rest)
    let later := longestRun rest (position + 1)
    if later.2 ≤ here then (position, here) else later

/-- A piece in base sixteen. -/
def pieceText (piece : Nat) : String := String.ofList (Nat.toDigits 16 piece)

/-- Pieces between colons. -/
def piecesText (pieces : List Nat) : String := ":".intercalate (pieces.map pieceText)

/-- The canonical text of an address.  The longest run of at least two zeros is left out. -/
def text (address : Ipv6) : String :=
  let (position, length) := longestRun address.pieces 0
  if length < 2 then piecesText address.pieces
  else piecesText (address.pieces.take position) ++ "::" ++
    piecesText (address.pieces.drop (position + length))

end Ipv6

end RequestRouting
