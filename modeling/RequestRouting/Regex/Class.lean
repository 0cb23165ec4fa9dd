import RequestRouting.Regex.Escape

/-!
# Bracketed classes in regular expressions

Classes between brackets: characters, ranges, escapes, POSIX names and nested classes, joined by
set operations that bind to the left.

## Main definitions

* `Regex.ClassReader` — what has been read of a class.
* `Regex.readClass` — reads a class whose opening bracket has been read.
-/

set_option autoImplicit false

namespace RequestRouting

namespace Regex

/-- A binary operation on classes. -/
inductive SetOp where
  | inter
  | diff
  | symmDiff
  deriving DecidableEq

/-- The set that an operation makes of two others. -/
def SetOp.apply : SetOp → CharSet → CharSet → CharSet
  | .inter, a, b => a.inter b
  | .diff, a, b => a.diff b
  | .symmDiff, a, b => a.symmDiff b

/-- A set together with the nesting depth of its description. -/
structure ClassPart where
  set : CharSet
  depth : Nat

/-- What has been read of a class. -/
structure ClassReader where
  /-- Whether the class began with a caret. -/
  negated : Bool
  /-- The left side of a set operation that waits for its right side. -/
  left : Option (SetOp × ClassPart)
  /-- The items of the current union, in reverse. -/
  items : List ClassPart

namespace ClassReader

/-- The union of the items so far. -/
def union (reader : ClassReader) : ClassPart :=
  match reader.items with
  | [] => ⟨.empty, 0⟩
  | [item] => item
  | items => ⟨CharSet.ofRanges (items.flatMap fun item => item.set.ranges),
      1 + (items.foldl (fun depth item => max depth item.depth) 0)⟩

/-- The set so far, with the pending operation carried out. -/
def value (flags : Flags) (reader : ClassReader) : ClassPart :=
  let right := reader.union
  match reader.left with
  | none => right
  | some (op, left) =>
    ⟨op.apply (flags.fold left.set) (flags.fold right.set), 1 + max left.depth right.depth⟩

/-- Adds an item. -/
def add (reader : ClassReader) (item : ClassPart) : ClassReader :=
  { reader with items := item :: reader.items }

/-- Adds a character. -/
def addChar (reader : ClassReader) (c : Char) : ClassReader := reader.add ⟨.single c, 0⟩

/-- Begins the right side of an operation. -/
def operate (flags : Flags) (reader : ClassReader) (op : SetOp) : ClassReader :=
  { reader with left := some (op, reader.value flags), items := [] }

/-- The set of the finished class. -/
def close (flags : Flags) (reader : ClassReader) : Option ClassPart := do
  let value := reader.value flags
  some ⟨← flags.negate? reader.negated (flags.fold value.set), value.depth + 1⟩

end ClassReader

/-- Adds the dashes at the beginning of a class. -/
def readDashes (flags : Flags) : Nat → ClassReader → List Char → ClassReader × List Char
  | 0, reader, text => (reader, text)
  | fuel + 1, reader, text =>
    match text with
    | '-' :: rest => readDashes flags fuel (reader.addChar '-') (flags.skip rest)
    | _ => (reader, text)

/-- Reads the beginning of a class: a caret, dashes, and a closing bracket that is meant as a
character. -/
def readClassStart (flags : Flags) (text : List Char) : ClassReader × List Char :=
  let text := flags.skip text
  let (negated, text) := match text with
    | '^' :: rest => (true, flags.skip rest)
    | text => (false, text)
  let (reader, text) := readDashes flags (text.length + 1) ⟨negated, none, []⟩ text
  match reader.items, text with
  | [], ']' :: rest => (reader.addChar ']', flags.skip rest)
  | _, text => (reader, text)

/-- Reads a POSIX class after its opening bracket; `none` where there is none. -/
def readPosix? (flags : Flags) : List Char → Option (CharSet × List Char)
  | ':' :: rest =>
    let (negated, rest) := match rest with
      | '^' :: rest => (true, rest)
      | rest => (false, rest)
    let name := rest.takeWhile (· ≠ ':')
    match rest.dropWhile (· ≠ ':') with
    | ':' :: ']' :: after => do
      let set ← CharSet.ofPosixName? (String.ofList name)
      some (← flags.negate? negated (flags.fold set), after)
    | _ => none
  | _ => none

/-- Reads one character or escape of a class. -/
def readClassItem (flags : Flags) : List Char → Option (Escape × List Char)
  | [] => none
  | '\\' :: rest => readEscape flags rest
  | c :: rest => some (.literal c false, rest)

/-- The set of an item; conditions on the surroundings have no place in a class. -/
def itemSet? (flags : Flags) : Escape → Option CharSet
  | .literal c _ => if flags.unicode || c.toNat < 128 then some (.single c) else none
  | .chars set => some set
  | .look _ => none

/-- The character of an item that is an end of a range. -/
def itemChar? (flags : Flags) : Escape → Option Char
  | .literal c _ => if flags.unicode || c.toNat < 128 then some c else none
  | _ => none

/-- Reads an item, or a range of characters. -/
def readClassRange (flags : Flags) (text : List Char) : Option (CharSet × List Char) := do
  let (item, rest) ← readClassItem flags text
  match flags.skip rest with
  | [] => none
  | '-' :: after =>
    match flags.skip after with
    | [] => none
    | c :: _ =>
      if c = ']' || c = '-' then some (← itemSet? flags item, '-' :: after)
      else do
        let first ← itemChar? flags item
        let (item, rest) ← readClassItem flags (flags.skip after)
        let last ← itemChar? flags item
        if first.toNat ≤ last.toNat then some (.range first.toNat last.toNat, rest) else none
  | rest => some (← itemSet? flags item, rest)

/-- Reads the rest of a class.  Every step uses up a character, so the length of the text bounds
their number. -/
def readClassRest (flags : Flags) : Nat → ClassReader → List Char → Option (ClassPart × List Char)
  | 0, _, _ => none
  | fuel + 1, reader, text =>
    match flags.skip text with
    | [] => none
    | ']' :: rest => do some (← reader.close flags, rest)
    | '[' :: rest =>
      match readPosix? flags rest with
      | some (set, rest) => readClassRest flags fuel (reader.add ⟨set, 0⟩) rest
      | none => do
        let (inner, rest) := readClassStart flags rest
        let (part, rest) ← readClassRest flags fuel inner rest
        readClassRest flags fuel (reader.add part) rest
    | '&' :: '&' :: rest => readClassRest flags fuel (reader.operate flags .inter) rest
    | '-' :: '-' :: rest => readClassRest flags fuel (reader.operate flags .diff) rest
    | '~' :: '~' :: rest => readClassRest flags fuel (reader.operate flags .symmDiff) rest
    | text => do
      let (set, rest) ← readClassRange flags text
      readClassRest flags fuel (reader.add ⟨set, 0⟩) rest

/-- Reads a class whose opening bracket has been read: its set, the nesting depth of its
description, and the rest of the text. -/
def readClass (flags : Flags) (text : List Char) : Option (ClassPart × List Char) :=
  let (reader, rest) := readClassStart flags text
  readClassRest flags (text.length + 1) reader rest

end Regex

end RequestRouting
