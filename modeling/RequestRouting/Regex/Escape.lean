import RequestRouting.Number.Decimal
import RequestRouting.Regex.Expr
import RequestRouting.Text.Blank

/-!
# Escapes in regular expressions

What may follow a backslash: characters by number or by name, sets of characters, and conditions on
the surroundings.

## Main definitions

* `Regex.Flags` — the switches that patterns turn on and off.
* `Regex.Escape` — what an escape stands for.
* `Regex.escape` — a pattern that spells a text.
* `Regex.readEscape` — reads what follows a backslash.
-/

set_option autoImplicit false

namespace RequestRouting

namespace Regex

/-- The switches that are in force at a place of a pattern. -/
structure Flags where
  /-- Case does not matter. -/
  ignoreCase : Bool
  /-- `^` and `$` match at line ends. -/
  multiLine : Bool
  /-- `.` matches line feeds. -/
  dotAll : Bool
  /-- Repetitions are lazy unless marked. -/
  swapGreed : Bool
  /-- Classes and boundaries are those of Unicode. -/
  unicode : Bool
  /-- A carriage return ends a line too. -/
  crlf : Bool
  /-- White space and comments are ignored. -/
  verbose : Bool
  deriving DecidableEq

namespace Flags

/-- The switches at the beginning of a pattern. -/
def start : Flags := ⟨false, false, false, false, true, false, false⟩

/-- Adds to a set the characters that the switches make equivalent to it. -/
def fold (flags : Flags) (set : CharSet) : CharSet :=
  if !flags.ignoreCase then set else if flags.unicode then set.foldCase else set.foldAscii

/-- The characters that are not in a set.  Without Unicode the complement contains octets that are
no characters, and only a set without them can be used. -/
def negate? (flags : Flags) (negated : Bool) (set : CharSet) : Option CharSet :=
  if flags.unicode then some (if negated then set.complement CharSet.maxChar else set)
  else
    let set := if negated then set.complement 255 else set
    if set.isWithin 127 then some set else none

/-- Skips a comment, up to the end of its line. -/
def skipComment : List Char → List Char
  | [] => []
  | '\n' :: rest => rest
  | _ :: rest => skipComment rest

/-- A comment is not longer than the text. -/
theorem length_skipComment (text : List Char) : (skipComment text).length ≤ text.length := by
  induction text with
  | nil => simp [skipComment]
  | cons c rest ih =>
    unfold skipComment
    split
    · simp_all
    · rename_i h
      simp only [List.cons.injEq] at h
      obtain ⟨_, rfl⟩ := h
      simp
    · rename_i h
      simp only [List.cons.injEq] at h
      obtain ⟨_, rfl⟩ := h
      simp only [List.length_cons]
      omega

/-- Skips white space and comments. -/
def skipAll (text : List Char) : List Char :=
  match text with
  | [] => []
  | c :: rest =>
    if isBlank c then skipAll rest
    else if c = '#' then skipAll (skipComment rest)
    else c :: rest
  termination_by text.length
  decreasing_by
  · simp
  · have := length_skipComment rest
    simp only [List.length_cons]
    omega

/-- Skips what the switches tell to ignore. -/
def skip (flags : Flags) (text : List Char) : List Char :=
  if flags.verbose then skipAll text else text

end Flags

/-- What an escape stands for. -/
inductive Escape where
  /-- A character; `octet` marks those written as two hexadecimal digits. -/
  | literal (c : Char) (octet : Bool)
  /-- A set of characters. -/
  | chars (set : CharSet)
  /-- A condition on the surroundings. -/
  | look (condition : Look)

/-- The character with a number, if there is one. -/
def charOf? (n : Nat) : Option Char := if n.isValidChar then some (Char.ofNat n) else none

/-- Reads a fixed number of hexadecimal digits. -/
def readHexDigits (flags : Flags) : Nat → Nat → List Char → Option (Nat × List Char)
  | 0, value, rest => some (value, rest)
  | count + 1, value, c :: rest => do
    readHexDigits flags count (value * 16 + (← hexDigitValue? c)) (flags.skip rest)
  | _ + 1, _, [] => none

/-- Reads up to a closing brace, ignoring what the switches tell to ignore. -/
def readBraced (flags : Flags) : Nat → List Char → List Char → Option (List Char × List Char)
  | 0, _, _ => none
  | fuel + 1, acc, text =>
    match flags.skip text with
    | [] => none
    | c :: rest =>
      if c = '\x7d' then some (acc.reverse, rest) else readBraced flags fuel (c :: acc) rest

/-- Reads a character by its number. -/
def readHex (flags : Flags) (width : Nat) (text : List Char) : Option (Escape × List Char) :=
  match flags.skip text with
  | '\x7b' :: rest => do
    let (digits, rest) ← readBraced flags (rest.length + 1) [] rest
    if digits.isEmpty then none
    let value ← digits.foldlM (fun n c => (hexDigitValue? c).map fun d => n * 16 + d) 0
    some (.literal (← charOf? value) false, flags.skip rest)
  | text => do
    let (value, rest) ← readHexDigits flags width 0 text
    some (.literal (← charOf? value) (width = 2), rest)

/-- Splits a text at the first match of a piece. -/
def splitAtPiece? (piece : List Char) : List Char → List Char → Option (List Char × List Char)
  | _, [] => none
  | before, c :: rest =>
    if piece.isPrefixOf (c :: rest) then some (before.reverse, (c :: rest).drop piece.length)
    else splitAtPiece? piece (c :: before) rest

/-- The set of the text between the braces of a property escape, and whether it is negated. -/
def propertySet? (content : List Char) : Option (CharSet × Bool) :=
  match splitAtPiece? ['!', '='] [] content with
  | some (name, value) => (CharSet.ofPropertyValue? name value).map (·, true)
  | none =>
    match splitAtPiece? [':'] [] content with
    | some (name, value) => (CharSet.ofPropertyValue? name value).map (·, false)
    | none =>
      match splitAtPiece? ['='] [] content with
      | some (name, value) => (CharSet.ofPropertyValue? name value).map (·, false)
      | none => (CharSet.ofProperty? content).map (·, false)

/-- Reads a Unicode property. -/
def readProperty (flags : Flags) (negated : Bool) (text : List Char) :
    Option (Escape × List Char) := do
  if !flags.unicode then none
  let (content, rest) ← match flags.skip text with
    | '\x7b' :: rest => readBraced flags (rest.length + 1) [] rest
    | '\\' :: _ => none
    | c :: rest => some ([c], flags.skip rest)
    | [] => none
  let (set, flipped) ← propertySet? content
  let set ← flags.negate? (negated != flipped) (flags.fold set)
  some (.chars set, rest)

/-- The set of one of the short class escapes. -/
def readShortClass (flags : Flags) (c : Char) : Option CharSet :=
  let set := match c.toLower with
    | 'd' => if flags.unicode then CharSet.digits else CharSet.asciiDigits
    | 's' => if flags.unicode then CharSet.blanks else CharSet.asciiBlanks
    | _ => if flags.unicode then CharSet.wordChars else CharSet.asciiWordChars
  flags.negate? c.isUpper set

/-- The special boundary with a name. -/
def namedBoundary? (ascii : Bool) (name : List Char) : Option Look :=
  match String.ofList name with
  | "start" => some (.wordStart ascii)
  | "end" => some (.wordEnd ascii)
  | "start-half" => some (.wordStartHalf ascii)
  | "end-half" => some (.wordEndHalf ascii)
  | _ => none

/-- Whether a character may occur in the name of a special boundary. -/
def isBoundaryChar (c : Char) : Bool := c.isAlpha || c == '-'

/-- Reads what may follow a word boundary: the name of a special one in braces.  Braces that begin
with something else are a counted repetition. -/
def readBoundary (flags : Flags) (text : List Char) : Option (Look × List Char) :=
  let plain : Look := .wordBoundary !flags.unicode
  match text with
  | '\x7b' :: rest =>
    match flags.skip rest with
    | [] => none
    | c :: _ =>
      if isBoundaryChar c then do
        let (name, after) ← readBraced flags (rest.length + 1) [] rest
        if !name.all isBoundaryChar then none
        some (← namedBoundary? (!flags.unicode) name, after)
      else some (plain, text)
  | _ => some (plain, text)

/-- Whether a character has a meaning of its own in patterns. -/
def isMeta (c : Char) : Bool :=
  ['\\', '.', '+', '*', '?', '(', ')', '|', '[', ']', '\x7b', '\x7d', '^', '$', '#', '&', '-',
    '~'].contains c

/-- A pattern that spells a text: a backslash stands before every character that has a meaning of
its own. -/
def escape (text : List Char) : List Char :=
  text.flatMap fun c => if isMeta c then ['\\', c] else [c]

/-- Whether a backslash may stand before a character without changing its meaning. -/
def isEscapable (c : Char) : Bool :=
  isMeta c || (c.toNat < 128 && !c.isAlphanum && c ≠ '<' && c ≠ '>')

/-- Reads what follows a backslash. -/
def readEscape (flags : Flags) : List Char → Option (Escape × List Char)
  | [] => none
  | c :: rest =>
    let ascii := !flags.unicode
    if c = 'x' then readHex flags 2 rest
    else if c = 'u' then readHex flags 4 rest
    else if c = 'U' then readHex flags 8 rest
    else if c = 'p' || c = 'P' then readProperty flags (c = 'P') rest
    else if ['d', 's', 'w', 'D', 'S', 'W'].contains c then
      (readShortClass flags c).map fun set => (.chars set, rest)
    else if isEscapable c then some (.literal c false, rest)
    else if c = 'a' then some (.literal '\x07' false, rest)
    else if c = 'f' then some (.literal '\x0c' false, rest)
    else if c = 't' then some (.literal '\t' false, rest)
    else if c = 'n' then some (.literal '\n' false, rest)
    else if c = 'r' then some (.literal '\r' false, rest)
    else if c = 'v' then some (.literal '\x0b' false, rest)
    else if c = 'A' then some (.look .textStart, rest)
    else if c = 'z' then some (.look .textEnd, rest)
    else if c = 'b' then (readBoundary flags rest).map fun (look, rest) => (.look look, rest)
    else if c = 'B' then some (.look (.notWordBoundary ascii), rest)
    else if c = '<' then some (.look (.wordStart ascii), rest)
    else if c = '>' then some (.look (.wordEnd ascii), rest)
    else none

end Regex

end RequestRouting
