import RequestRouting.Url.Error
import RequestRouting.Text.Split

/-!
# Templates of URL patterns

The language of URL patterns: literal text with placeholders between braces, each a path of
property names joined by points, as in `/users/{photo.owner.id}/edit`.

## Main definitions

* `PropertyPath`, `Placeholder`, `Segment`, `Template` — the parts of a compiled pattern.
* `Template.matcherSize` — the size of the regular expression that is made of a template.
* `Template.compile` — the template of a pattern text, or where and how the text is malformed; a
  template whose regular expression is too large is refused.
* `Template.source` — the pattern text that a template stands for.
-/

set_option autoImplicit false

namespace RequestRouting

/-- The names that lead from a bag of parameters to the value of a placeholder. -/
structure PropertyPath where
  names : List String
  deriving DecidableEq

/-- The names joined by points. -/
def PropertyPath.text (path : PropertyPath) : String := ".".intercalate path.names

/-- A placeholder: its number, counted from one, and its property path. -/
structure Placeholder where
  slot : Nat
  path : PropertyPath
  deriving DecidableEq

/-- A piece of a template. -/
inductive Segment where
  /-- Text that stands for itself. -/
  | literal (text : String)
  /-- The value of the placeholder with the given index, counted from zero. -/
  | slot (index : Nat)
  deriving DecidableEq

/-- A compiled pattern. -/
structure Template where
  /-- The placeholders, in the order of the text. -/
  placeholders : List Placeholder
  /-- The text, cut at the placeholders. -/
  segments : List Segment
  /-- The text as a print format: `%N$s` for the placeholder with number `N`, and every percent
  sign of the text doubled. -/
  printFormat : String
  deriving DecidableEq

namespace Template

/-- Whether a character may occur in a property name. -/
def isNameChar (c : Char) : Bool := c.isAlphanum || c == '_' || c == '-'

/-- Reads one property name. -/
def readName (text : List Char) : Except PatternFault String :=
  if text.isEmpty then .error .emptyName
  else if text.all isNameChar then .ok (String.ofList text)
  else .error .badCharacter

/-- Reads the property path between two braces. -/
def readPath (inner : List Char) : Except PatternFault PropertyPath :=
  if inner.isEmpty then .error .emptyPlaceholder
  else (PropertyPath.mk ·) <$> (splitOnChar '.' inner).mapM readName

/-- What has been read of a pattern text. -/
structure Draft where
  /-- The byte position of the next character. -/
  position : Nat
  /-- The literal text since the last placeholder, in reverse. -/
  literal : List Char
  /-- The finished segments, in reverse. -/
  segments : List Segment
  /-- The placeholders, in reverse. -/
  placeholders : List Placeholder
  /-- The print format, in reverse. -/
  format : List Char

namespace Draft

/-- Before the first character. -/
def start : Draft := ⟨0, [], [], [], []⟩

/-- Moves past a character. -/
def advance (draft : Draft) (c : Char) : Draft :=
  { draft with position := draft.position + c.utf8Size }

/-- Adds a literal character. -/
def addChar (draft : Draft) (c : Char) : Draft :=
  { draft with
    position := draft.position + c.utf8Size
    literal := c :: draft.literal
    format := if c = '%' then '%' :: '%' :: draft.format else c :: draft.format }

/-- Makes a segment of the literal text since the last placeholder, if there is any. -/
def closeLiteral (draft : Draft) : Draft :=
  if draft.literal.isEmpty then draft
  else { draft with
    literal := []
    segments := .literal (String.ofList draft.literal.reverse) :: draft.segments }

/-- Adds a placeholder. -/
def addPlaceholder (draft : Draft) (path : PropertyPath) : Draft :=
  let draft := draft.closeLiteral
  let index := draft.placeholders.length
  let directive := '%' :: (Nat.toDigits 10 (index + 1) ++ ['$', 's'])
  { draft with
    segments := .slot index :: draft.segments
    placeholders := ⟨index + 1, path⟩ :: draft.placeholders
    format := directive.reverse ++ draft.format }

/-- The template of a finished draft. -/
def finish (draft : Draft) : Template :=
  let draft := draft.closeLiteral
  ⟨draft.placeholders.reverse, draft.segments.reverse, String.ofList draft.format.reverse⟩

end Draft

/-- A fault and its byte position. -/
abbrev Located := Nat × PatternFault

/-- Reads the rest of a pattern text.  The second argument is `none` outside placeholders; inside
one it holds the position of the opening brace and the characters since then, in reverse. -/
def scan (draft : Draft) : Option (Nat × List Char) → List Char → Except Located Template
  | none, [] => .ok draft.finish
  | some (start, _), [] => .error (start, .unterminated)
  | none, c :: rest =>
    if c = '\x7b' then scan (draft.advance c) (some (draft.position, [])) rest
    else if c = '\x7d' then .error (draft.position, .unbalanced)
    else scan (draft.addChar c) none rest
  | some (start, inner), c :: rest =>
    if c = '\x7d' then
      match readPath inner.reverse with
      | .ok path => scan ((draft.advance c).addPlaceholder path) none rest
      | .error fault => .error (start, fault)
    else if c = '\x7b' then .error (draft.position, .nestedBrace)
    else scan (draft.advance c) (some (start, c :: inner)) rest

/-- The literal text of a segment. -/
def literalText : Segment → String
  | .literal text => text
  | .slot _ => ""

/-- The size in bytes of the compiled form of the regular expression that is made of a template.  An
octet of literal text takes 32 of them, and the group of a placeholder, one or more characters other
than a slash, takes 1040; the rest is there once. -/
def matcherSize (template : Template) : Nat :=
  128 + 32 * (String.join (template.segments.map literalText)).utf8ByteSize +
    max 64 (1040 * template.placeholders.length)

/-- The template of a pattern text. -/
def compile (pattern : String) : Except UrlError Template :=
  match scan .start none pattern.toList with
  | .ok template =>
    if maxMatcherSize < template.matcherSize then .error .matcherTooLarge else .ok template
  | .error (position, fault) => .error (.invalidPattern pattern position fault)

/-- The text of a segment in the pattern language. -/
def segmentSource (placeholders : List Placeholder) : Segment → String
  | .literal text => text
  | .slot index =>
    "\x7b" ++ ((placeholders[index]?).map fun p => p.path.text).getD "" ++ "\x7d"

/-- The pattern text that a template stands for. -/
def source (template : Template) : String :=
  String.join (template.segments.map (segmentSource template.placeholders))

end Template

end RequestRouting
