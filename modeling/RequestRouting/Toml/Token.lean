import RequestRouting.Number.Decimal

/-!
# Tokens of TOML text

The lexical level of TOML: punctuation, line ends, blanks, strings with their escapes resolved, and
words.  One pass over the characters, with the unfinished token as its state.  Comments leave no
token.

## Main definitions

* `Toml.Token` — a lexical unit.
* `Toml.Pending` — the unfinished token between two characters.
* `Toml.step` — the effect of one character.
* `Toml.tokens?` — the tokens of a text, `none` where it is no sequence of tokens.
-/

set_option autoImplicit false

namespace RequestRouting

namespace Toml

/-- A lexical unit of TOML text. -/
inductive Token where
  | newline
  /-- A run of spaces and tabs. -/
  | blank (run : List Char)
  | dot
  | equals
  | comma
  | openBracket
  | closeBracket
  | openBrace
  | closeBrace
  /-- A string, and whether it was written in the form that may have several lines. -/
  | text (value : String) (multiline : Bool)
  /-- A bare key, or a part of a scalar. -/
  | word (chars : List Char)
  deriving DecidableEq

/-- The unfinished token between two characters.  Collected characters are in reverse, and `q` is
the quote that delimits a string. -/
inductive Pending where
  /-- Between tokens. -/
  | idle
  /-- After a carriage return, where a line feed has to follow. -/
  | carriage
  /-- Inside a word. -/
  | word (chars : List Char)
  /-- Inside a run of blanks. -/
  | blank (chars : List Char)
  /-- Inside a comment. -/
  | comment
  /-- After one quote. -/
  | quote (q : Char)
  /-- After two quotes: an empty string, unless a third one follows. -/
  | quotes (q : Char)
  /-- Inside a string of one line. -/
  | line (q : Char) (chars : List Char)
  /-- The same, after a backslash. -/
  | lineEscape (chars : List Char)
  /-- Inside a numeric escape: the digits still missing, and the value so far. -/
  | unit (multiline : Bool) (chars : List Char) (missing value : Nat)
  /-- After three quotes, where a line end is not part of the string. -/
  | opening (q : Char)
  /-- The same, after a carriage return. -/
  | openingCarriage (q : Char)
  /-- Inside a string of several lines; `count` quotes may belong to its end. -/
  | body (q : Char) (chars : List Char) (count : Nat)
  /-- The same, after a carriage return. -/
  | bodyCarriage (q : Char) (chars : List Char)
  /-- The same, after a backslash. -/
  | bodyEscape (chars : List Char)
  /-- After a backslash and blanks; there has to be a line end before the next character. -/
  | joining (chars : List Char) (ended : Bool)
  /-- The same, after a carriage return. -/
  | joiningCarriage (chars : List Char)
  /-- After three closing quotes; up to two more belong to the string. -/
  | closing (q : Char) (chars : List Char) (extra : Nat)

/-- Blanks are spaces and tabs. -/
def isBlankChar (c : Char) : Bool := c == ' ' || c == '\t'

/-- The control characters that may not occur in comments and strings. -/
def isControl (c : Char) : Bool := (c.toNat < 0x20 && c != '\t') || c == '\x7f'

/-- The punctuation token of a character. -/
def punctuation? (c : Char) : Option Token :=
  if c = '.' then some .dot
  else if c = '=' then some .equals
  else if c = ',' then some .comma
  else if c = '[' then some .openBracket
  else if c = ']' then some .closeBracket
  else if c = '\x7b' then some .openBrace
  else if c = '\x7d' then some .closeBrace
  else none

/-- The character of a short escape. -/
def shortEscape? (c : Char) : Option Char :=
  if c = '"' || c = '\\' then some c
  else if c = 'b' then some '\x08'
  else if c = 'f' then some '\x0c'
  else if c = 'n' then some '\n'
  else if c = 'r' then some '\r'
  else if c = 't' then some '\t'
  else none

/-- The string token of collected characters. -/
def textToken (chars : List Char) (multiline : Bool) : Token :=
  .text (String.ofList chars.reverse) multiline

/-- The effect of a character between tokens. -/
def startToken (c : Char) : List Token × Pending :=
  if isBlankChar c then ([], .blank [c])
  else if c = '\n' then ([.newline], .idle)
  else if c = '\r' then ([], .carriage)
  else if c = '#' then ([], .comment)
  else if c = '"' || c = '\'' then ([], .quote c)
  else match punctuation? c with
    | some token => ([token], .idle)
    | none => ([], .word [c])

/-- Whether a character ends a word. -/
def endsWord (c : Char) : Bool :=
  isBlankChar c || c == '\n' || c == '\r' || c == '#' || c == '"' || c == '\'' ||
    (punctuation? c).isSome

/-- Finishes a token in front of a character. -/
def emitThen (token : Token) (c : Char) : Option (List Token × Pending) :=
  let (tokens, pending) := startToken c
  some (token :: tokens, pending)

/-- Goes on without finishing a token. -/
def goOn (pending : Pending) : Option (List Token × Pending) := some ([], pending)

/-- The effect of a character inside a string of one line. -/
def lineStep (q : Char) (chars : List Char) (c : Char) : Option (List Token × Pending) :=
  if c = q then some ([textToken chars false], .idle)
  else if c = '\\' && q = '"' then goOn (.lineEscape chars)
  else if isControl c then none
  else goOn (.line q (c :: chars))

/-- The effect of a character inside a string of several lines. -/
def bodyStep (q : Char) (chars : List Char) (count : Nat) (c : Char) :
    Option (List Token × Pending) :=
  if c = q then
    if count = 2 then goOn (.closing q chars 0) else goOn (.body q chars (count + 1))
  else
    let chars := List.replicate count q ++ chars
    if c = '\r' then goOn (.bodyCarriage q chars)
    else if c = '\\' && q = '"' then goOn (.bodyEscape chars)
    else if isControl c && c ≠ '\n' then none
    else goOn (.body q (c :: chars) 0)

/-- The state inside a string after an escape. -/
def afterEscape (multiline : Bool) (chars : List Char) : Pending :=
  if multiline then .body '"' chars 0 else .line '"' chars

/-- The effect of a character after a backslash. -/
def escapeStep (multiline : Bool) (chars : List Char) (c : Char) :
    Option (List Token × Pending) :=
  if c = 'u' then goOn (.unit multiline chars 4 0)
  else if c = 'U' then goOn (.unit multiline chars 8 0)
  else match shortEscape? c with
    | some plain => goOn (afterEscape multiline (plain :: chars))
    | none => none

/-- The effect of a digit of a numeric escape. -/
def unitStep (multiline : Bool) (chars : List Char) (missing value : Nat) (c : Char) :
    Option (List Token × Pending) :=
  match hexDigitValue? c with
  | none => none
  | some digit =>
    let value := value * 16 + digit
    if missing = 1 then
      if value.isValidChar then goOn (afterEscape multiline (Char.ofNat value :: chars)) else none
    else goOn (.unit multiline chars (missing - 1) value)

/-- The effect of a character after a line-ending backslash. -/
def joiningStep (chars : List Char) (ended : Bool) (c : Char) : Option (List Token × Pending) :=
  if isBlankChar c then goOn (.joining chars ended)
  else if c = '\n' then goOn (.joining chars true)
  else if c = '\r' then goOn (.joiningCarriage chars)
  else if ended then bodyStep '"' chars 0 c
  else none

/-- The effect of one character: the tokens that it finishes, and the new state. -/
def step : Pending → Char → Option (List Token × Pending)
  | .idle, c => some (startToken c)
  | .carriage, c => if c = '\n' then some ([.newline], .idle) else none
  | .word chars, c =>
    if endsWord c then emitThen (.word chars.reverse) c else goOn (.word (c :: chars))
  | .blank chars, c =>
    if isBlankChar c then goOn (.blank (c :: chars)) else emitThen (.blank chars.reverse) c
  | .comment, c =>
    if c = '\n' then some ([.newline], .idle)
    else if c = '\r' then goOn .carriage
    else if isControl c then none
    else goOn .comment
  | .quote q, c => if c = q then goOn (.quotes q) else lineStep q [] c
  | .quotes q, c => if c = q then goOn (.opening q) else emitThen (textToken [] false) c
  | .line q chars, c => lineStep q chars c
  | .lineEscape chars, c => escapeStep false chars c
  | .unit multiline chars missing value, c => unitStep multiline chars missing value c
  | .opening q, c =>
    if c = '\n' then goOn (.body q [] 0)
    else if c = '\r' then goOn (.openingCarriage q)
    else bodyStep q [] 0 c
  | .openingCarriage q, c => if c = '\n' then goOn (.body q [] 0) else none
  | .body q chars count, c => bodyStep q chars count c
  | .bodyCarriage q chars, c =>
    if c = '\n' then goOn (.body q ('\n' :: '\r' :: chars) 0) else none
  | .bodyEscape chars, c =>
    if isBlankChar c || c = '\n' || c = '\r' then joiningStep chars false c
    else escapeStep true chars c
  | .joining chars ended, c => joiningStep chars ended c
  | .joiningCarriage chars, c => if c = '\n' then goOn (.joining chars true) else none
  | .closing q chars extra, c =>
    if c = q && extra < 2 then goOn (.closing q chars (extra + 1))
    else emitThen (textToken (List.replicate extra q ++ chars) true) c

/-- The tokens that the end of the text finishes. -/
def finish? : Pending → Option (List Token)
  | .idle | .comment => some []
  | .word chars => some [.word chars.reverse]
  | .blank chars => some [.blank chars.reverse]
  | .quotes _ => some [textToken [] false]
  | .closing q chars extra => some [textToken (List.replicate extra q ++ chars) true]
  | _ => none

/-- The effect of one character on the finished tokens, in reverse, and the unfinished one. -/
def advance (state : List Token × Pending) (c : Char) : Option (List Token × Pending) :=
  (step state.2 c).map fun (tokens, pending) => (tokens.reverse ++ state.1, pending)

/-- The tokens of a list of characters. -/
def tokensOf? (chars : List Char) : Option (List Token) := do
  let (reversed, pending) ← chars.foldlM advance ([], .idle)
  some (reversed.reverse ++ (← finish? pending))

/-- The tokens of a text.  A byte order mark in front of it is left out. -/
def tokens? (text : String) : Option (List Token) :=
  match text.toList with
  | '\uFEFF' :: rest => tokensOf? rest
  | chars => tokensOf? chars

end Toml

end RequestRouting
