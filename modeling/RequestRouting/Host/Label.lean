import RequestRouting.Host.Mapping
import RequestRouting.Host.Punycode
import RequestRouting.Unicode.Category
import RequestRouting.Unicode.Direction
import RequestRouting.Unicode.Joining
import RequestRouting.Unicode.Normalization

/-!
# Labels of domain names

The parts of a domain name between its dots.  A label has a Unicode form and an ASCII form; the
latter of a label with characters beyond ASCII is its Punycode after the prefix `xn--`.

## Main definitions

* `Domain.isSound` — the labels beyond ASCII that may occur.
* `Domain.followsDirection` — the rule for labels in names with text from right to left.
* `Domain.readLabel?` — the Unicode form of a label.
* `Domain.labelToAscii` — the ASCII form of a label.

Punycode takes time that is quadratic in the length, so long labels are refused: the limits differ
for the text of a label and for its code.
-/

set_option autoImplicit false

namespace RequestRouting

namespace Domain

open Unicode (Direction direction)

/-- Whether all characters of a label are ASCII characters. -/
def isAsciiLabel (label : List Char) : Bool := label.all Punycode.isAscii

/-! ## Marks and joiners -/

/-- Whether a character is a mark. -/
def isMark (c : Char) : Bool :=
  Unicode.nonspacingMark.contains c.toNat || Unicode.spacingMark.contains c.toNat ||
    Unicode.enclosingMark.contains c.toNat

/-- The combining class of the marks that silence the vowel of a letter. -/
def silencingClass : Nat := 9

/-- Whether a character may stand between two others that would not join without it: the first
argument has the characters before it, from the last to the first. -/
def isJoinerAllowed (before : List Char) (c : Char) (after : List Char) : Bool :=
  let silenced := before.head?.any fun b => Unicode.combiningClass b.toNat == silencingClass
  if c == '\u200C' then
    silenced ||
      ((before.dropWhile Unicode.isTransparent).head?.any Unicode.joinsAfter &&
        (after.dropWhile Unicode.isTransparent).head?.any Unicode.joinsBefore)
  else if c == '\u200D' then silenced
  else true

/-- Whether the joiners of a label are where they may be, after some characters in reverse. -/
def joinersAllowed (before : List Char) : List Char → Bool
  | [] => true
  | c :: rest => isJoinerAllowed before c rest && joinersAllowed (c :: before) rest

/-- The number of characters that a label beyond ASCII may have. -/
def maxLength : Nat := 1000

/-- Whether a label beyond ASCII may occur: it is not too long, it is composed, its characters stand
for themselves, it does not begin with a mark and its joiners are where they may be. -/
def isSound (label : List Char) : Bool :=
  label.length ≤ maxLength && label.all isPlain && Unicode.normalize label == label &&
    !(label.head?.any isMark) && joinersAllowed [] label

/-! ## Writing directions -/

/-- Whether a label has characters that run from right to left. -/
def hasRightToLeft (label : List Char) : Bool :=
  label.any fun c => direction c ∈ [Direction.right, .arabic, .arabicNumber]

/-- The classes of a label without the marks at its end. -/
def trimmedDirections (label : List Char) : List Direction :=
  ((label.map direction).reverse.dropWhile (· == .mark)).reverse

/-- The classes that go with both directions. -/
def sharedDirections : List Direction :=
  [.europeanNumber, .numberSeparator, .commonSeparator, .numberTerminator, .neutral, .boundary,
    .mark]

/-- Whether a label keeps to the direction that it begins with. -/
def followsDirection (label : List Char) : Bool :=
  let classes := trimmedDirections label
  match classes.head?, classes.getLast? with
  | some .left, some last =>
    classes.all (· ∈ Direction.left :: sharedDirections) &&
      last ∈ [Direction.left, .europeanNumber]
  | some first, some last =>
    first ∈ [Direction.right, .arabic] &&
      classes.all (· ∈ [Direction.right, .arabic, .arabicNumber] ++ sharedDirections) &&
      last ∈ [Direction.right, .arabic, .europeanNumber, .arabicNumber] &&
      !(classes.contains .europeanNumber && classes.contains .arabicNumber)
  | _, _ => label.isEmpty

/-! ## Forms -/

/-- The prefix of labels in Punycode. -/
def codePrefix : List Char := ['x', 'n', '-', '-']

/-- The number of characters that a code may have to be read. -/
def maxCodeLength : Nat := 2000

/-- The Unicode form of a code.  What a label in Punycode stands for must need the code and not look
like code itself. -/
def readCode? (coded : List Char) : Option (List Char) :=
  if maxCodeLength < coded.length then none
  else (Punycode.decode? coded).filter fun decoded =>
    !isAsciiLabel decoded && (stripStart? codePrefix decoded).isNone && isSound decoded

/-- The Unicode form of a label. -/
def readLabel? (label : List Char) : Option (List Char) :=
  match stripStart? codePrefix label with
  | some coded => readCode? coded
  | none => if isAsciiLabel label || isSound label then some label else none

/-- The ASCII form of a label. -/
def labelToAscii (label : List Char) : List Char :=
  if isAsciiLabel label then label else codePrefix ++ Punycode.encode label

end Domain

end RequestRouting
