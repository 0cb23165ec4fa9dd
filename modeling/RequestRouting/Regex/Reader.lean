import RequestRouting.Regex.Class

/-!
# Reading regular expressions

The grammar of patterns: alternatives, groups, repetitions, classes, escapes and inline switches.
There is no look-around and there are no references to groups.

## Main definitions

* `Regex.Reader` — the state between two steps; the open groups are a list of frames.
* `Regex.read?` — the expression that a pattern spells.
-/

set_option autoImplicit false

namespace RequestRouting

namespace Regex

/-- A part of a pattern with the nesting depth of its description. -/
structure Part where
  expr : Expr
  depth : Nat
  /-- Whether a repetition may follow. -/
  repeatable : Bool

/-- A group that is still open: what came before it, and what its end restores. -/
structure OpenGroup where
  /-- The parts before the group, in reverse. -/
  parts : List Part
  /-- The finished alternatives before the group, in reverse. -/
  branches : List Part
  /-- The switches in force before the group. -/
  flags : Flags
  /-- The index of the group, if it captures. -/
  capture : Option Nat

/-- The state between two steps of the reader. -/
structure Reader where
  /-- What is still to be read. -/
  text : List Char
  /-- The switches in force. -/
  flags : Flags
  /-- The parts of the current alternative, in reverse. -/
  parts : List Part
  /-- The finished alternatives of the current group, in reverse. -/
  branches : List Part
  /-- The open groups, innermost first. -/
  frames : List OpenGroup
  /-- The number of capture groups so far. -/
  captures : Nat
  /-- The names of capture groups so far. -/
  names : List String

namespace Reader

/-- The greatest nesting depth of a description. -/
def maxDepth : Nat := 250

/-- One part after another. -/
def sequence : List Part → Part
  | [] => ⟨.empty, 0, false⟩
  | [part] => part
  | part :: rest =>
    ⟨rest.foldl (fun acc part => .cat part.expr acc) part.expr,
      1 + (part :: rest).foldl (fun depth part => max depth part.depth) 0, true⟩

/-- The alternatives of a group, given the current one. -/
def alternatives (reader : Reader) : Part :=
  let last := sequence reader.parts
  match reader.branches with
  | [] => last
  | branches =>
    ⟨branches.foldl (fun acc part => .alt part.expr acc) last.expr,
      1 + (last :: branches).foldl (fun depth part => max depth part.depth) 0, true⟩

/-- Adds a part. -/
def add (reader : Reader) (part : Part) (text : List Char) : Reader :=
  { reader with parts := part :: reader.parts, text := text }

/-- The expression of a single character. -/
def charExpr? (flags : Flags) (c : Char) (octet : Bool) : Option Expr :=
  if !flags.unicode && c.toNat > 127 && (octet || flags.ignoreCase) then none
  else some (.chars (flags.fold (.single c)))

/-- The expression of a point. -/
def dotExpr? (flags : Flags) : Option Expr :=
  if !flags.unicode then none
  else
    let excluded : CharSet := if flags.dotAll then .empty
      else if flags.crlf then CharSet.ofRanges [(10, 10), (13, 13)]
      else .range 10 10
    some (.chars (excluded.complement CharSet.maxChar))

/-- Whether a character may occur in the name of a group. -/
def isNameChar (first : Bool) (c : Char) : Bool :=
  let n := c.toNat
  c == '_' || Unicode.alphabetic.contains n ||
    (!first && (c == '.' || c == '[' || c == ']' || Unicode.decimalNumber.contains n ||
      Unicode.letterNumber.contains n || Unicode.otherNumber.contains n))

/-- Reads the name of a group, up to the closing angle. -/
def readName? (text : List Char) : Option (String × List Char) :=
  let name := text.takeWhile (· ≠ '>')
  match name, text.dropWhile (· ≠ '>') with
  | first :: more, '>' :: rest =>
    if isNameChar true first && more.all (isNameChar false) then
      some (String.ofList name, rest)
    else none
  | _, _ => none

/-- The switches with one of them set, if the character names one. -/
def setFlag? (flags : Flags) (c : Char) (on : Bool) : Option Flags :=
  match c with
  | 'i' => some { flags with ignoreCase := on }
  | 'm' => some { flags with multiLine := on }
  | 's' => some { flags with dotAll := on }
  | 'U' => some { flags with swapGreed := on }
  | 'u' => some { flags with unicode := on }
  | 'R' => some { flags with crlf := on }
  | 'x' => some { flags with verbose := on }
  | _ => none

/-- Reads inline switches up to a colon or a closing parenthesis, which is returned with them and
the number of items read.  No switch may occur twice, and a dash only once and not at the end. -/
def readFlags? (flags : Flags) (seen : List Char) : List Char →
    Option (Flags × Char × Nat × List Char)
  | [] => none
  | c :: rest =>
    if c = ':' || c = ')' then
      if seen.head? = some '-' then none else some (flags, c, seen.length, rest)
    else if seen.contains c then none
    else if c = '-' then readFlags? flags (c :: seen) rest
    else
      match setFlag? flags c (!seen.contains '-') with
      | some flags => readFlags? flags (c :: seen) rest
      | none => none

/-- Opens a group. -/
def openGroup (reader : Reader) (flags : Flags) (capture : Option Nat) (text : List Char) :
    Reader :=
  { reader with
    text := text, flags := flags, parts := [], branches := []
    frames := ⟨reader.parts, reader.branches, reader.flags, capture⟩ :: reader.frames }

/-- Opens a capture group. -/
def openCapture (reader : Reader) (text : List Char) : Reader :=
  let index := reader.captures + 1
  { reader.openGroup reader.flags (some index) text with captures := index }

/-- Opens a named capture group. -/
def openNamed? (reader : Reader) (text : List Char) : Option Reader := do
  let (name, rest) ← readName? text
  if reader.names.contains name then none
  let reader := reader.openCapture rest
  some { reader with names := name :: reader.names }

/-- What follows an opening parenthesis: a group, or switches for the rest of the current one. -/
def readParenthesis? (reader : Reader) (text : List Char) : Option Reader :=
  match reader.flags.skip text with
  | '?' :: '=' :: _ | '?' :: '!' :: _ | '?' :: '<' :: '=' :: _ | '?' :: '<' :: '!' :: _ => none
  | '?' :: 'P' :: '<' :: rest | '?' :: '<' :: rest => reader.openNamed? rest
  | '?' :: rest => do
    let (flags, mark, count, rest) ← readFlags? reader.flags [] rest
    if mark = ')' then
      if count = 0 then none
      else some { reader with
        flags := flags, text := rest, parts := ⟨.empty, 0, false⟩ :: reader.parts }
    else some (reader.openGroup flags none rest)
  | rest => some (reader.openCapture rest)

/-- Closes the innermost group. -/
def closeGroup? (reader : Reader) (text : List Char) : Option Reader :=
  match reader.frames with
  | [] => none
  | frame :: frames =>
    let body := reader.alternatives
    let expr := match frame.capture with
      | some index => .group index body.expr
      | none => body.expr
    some { reader with
      text := text, flags := frame.flags
      parts := ⟨expr, body.depth + 1, true⟩ :: frame.parts
      branches := frame.branches, frames := frames }

/-- Repeats the last part. -/
def repeatLast? (reader : Reader) (least : Nat) (most : Option Nat) (text : List Char) :
    Option Reader :=
  match reader.parts with
  | [] => none
  | part :: parts =>
    if part.repeatable then
      let (lazy, text) := match text with
        | '?' :: rest => (true, rest)
        | text => (false, text)
      let expr := part.expr.repetition least most (lazy == reader.flags.swapGreed)
      some { reader with text := text, parts := ⟨expr, part.depth + 1, true⟩ :: parts }
    else none

/-- The greatest repetition count. -/
def maxCount : Nat := 4294967295

/-- Collects decimal digits, ignoring what the switches tell to ignore. -/
def spanCount (flags : Flags) : Nat → List Char → List Char → List Char × List Char
  | 0, digits, text => (digits.reverse, text)
  | fuel + 1, digits, text =>
    match text with
    | c :: rest =>
      if c.isDigit then spanCount flags fuel (c :: digits) (flags.skip rest)
      else (digits.reverse, text)
    | [] => (digits.reverse, [])

/-- Reads a repetition count between white space. -/
def readCount? (flags : Flags) (text : List Char) : Option (Nat × List Char) :=
  let text := text.dropWhile isBlank
  let (digits, rest) := spanCount flags (text.length + 1) [] text
  let rest := flags.skip (rest.dropWhile isBlank)
  let value := digits.foldl (fun n c => n * 10 + (c.toNat - '0'.toNat)) 0
  if digits.isEmpty || value > maxCount then none else some (value, rest)

/-- Reads the bounds of a counted repetition after its opening brace. -/
def readBounds? (flags : Flags) (text : List Char) : Option (Nat × Option Nat × List Char) := do
  let (least, rest) ← readCount? flags (flags.skip text)
  match rest with
  | ',' :: rest =>
    match flags.skip rest with
    | '\x7d' :: rest => some (least, none, rest)
    | rest => do
      let (most, rest) ← readCount? flags rest
      match rest with
      | '\x7d' :: rest => if least ≤ most then some (least, some most, rest) else none
      | _ => none
  | '\x7d' :: rest => some (least, some least, rest)
  | _ => none

/-- The condition of a caret or a dollar sign. -/
def anchor (flags : Flags) (atStart : Bool) : Look :=
  match flags.multiLine, flags.crlf, atStart with
  | false, _, true => .textStart
  | false, _, false => .textEnd
  | true, false, true => .lineStart
  | true, false, false => .lineEnd
  | true, true, true => .lineStartCrlf
  | true, true, false => .lineEndCrlf

/-- One step, at a character. -/
def step? (reader : Reader) (c : Char) (rest : List Char) : Option Reader :=
  let flags := reader.flags
  match c with
  | '(' => reader.readParenthesis? rest
  | ')' => reader.closeGroup? rest
  | '|' => some { reader with
      text := rest, parts := [], branches := sequence reader.parts :: reader.branches }
  | '[' => do
    let (part, rest) ← readClass flags rest
    some (reader.add ⟨.chars part.set, part.depth, true⟩ rest)
  | '?' => reader.repeatLast? 0 (some 1) rest
  | '*' => reader.repeatLast? 0 none rest
  | '+' => reader.repeatLast? 1 none rest
  | '\x7b' => do
    if !(reader.parts.head?.any Part.repeatable) then none
    let (least, most, rest) ← readBounds? flags rest
    reader.repeatLast? least most (flags.skip rest)
  | '\\' => do
    let (item, rest) ← readEscape flags rest
    let expr ← match item with
      | .literal c octet => charExpr? flags c octet
      | .chars set => some (.chars set)
      | .look condition => some (.look condition)
    some (reader.add ⟨expr, 0, true⟩ rest)
  | '.' => do some (reader.add ⟨← dotExpr? flags, 0, true⟩ rest)
  | '^' => some (reader.add ⟨.look (anchor flags true), 0, true⟩ rest)
  | '$' => some (reader.add ⟨.look (anchor flags false), 0, true⟩ rest)
  | c => do some (reader.add ⟨← charExpr? flags c false, 0, true⟩ rest)

/-- Runs the reader to the end of the pattern.  Every step uses up a character, so the length of
the pattern bounds their number. -/
def run? : Nat → Reader → Option Reader
  | 0, reader => some reader
  | fuel + 1, reader =>
    match reader.flags.skip reader.text with
    | [] => some { reader with text := [] }
    | c :: rest =>
      match reader.step? c rest with
      | some reader => run? fuel reader
      | none => none

end Reader

/-- The expression that a pattern spells. -/
def read? (pattern : List Char) : Option Expr := do
  let start : Reader := ⟨pattern, .start, [], [], [], 0, []⟩
  let reader ← start.run? (pattern.length + 1)
  let whole := reader.alternatives
  if reader.frames.isEmpty && whole.depth ≤ Reader.maxDepth then some whole.expr else none

end Regex

end RequestRouting
