/-!
# Writing TOML

Texts and lists of texts as TOML values.  A text is written in the plainest of the four string
forms that can hold it; escapes are used only where no form can do without.

## Main definitions

* `Toml.StringForm` — the four forms of strings.
* `Toml.formOf` — the form that a text is written in.
* `Toml.writeText` — a text as a value.
* `Toml.writeTexts` — a list of texts as a value; two or more are written one a line.
-/

set_option autoImplicit false

namespace RequestRouting

namespace Toml

/-- The forms of strings: with escapes or literal, on one line or on several. -/
inductive StringForm where
  | basic
  | literal
  | longBasic
  | longLiteral
  deriving DecidableEq

/-- The length of the longest run of a character. -/
def longestRun (mark : Char) : List Char → Nat → Nat
  | [], run => run
  | c :: rest, run => if c = mark then longestRun mark rest (run + 1)
    else max run (longestRun mark rest 0)

/-- Whether a character can only be written as an escape. -/
def needsEscape (c : Char) : Bool :=
  (c.toNat < 0x20 && c ≠ '\t' && c ≠ '\n') || c.toNat = 0x7F

/-- The form that a text is written in. -/
def formOf (text : List Char) : StringForm :=
  let escapes := text.any needsEscape
  let backslash := text.contains '\\'
  let lines := text.contains '\n'
  let doubles := longestRun '"' text 0
  let singles := longestRun '\'' text 0
  if !escapes && !backslash && doubles = 0 && !lines then .basic
  else if !escapes && singles = 0 && !lines then .literal
  else if !escapes && !backslash && doubles ≤ 2 then .longBasic
  else if !escapes && singles ≤ 2 then .longLiteral
  else if lines then .longBasic
  else .basic

/-- Four upper-case hexadecimal digits. -/
def hexQuad (n : Nat) : List Char :=
  [n / 4096 % 16, n / 256 % 16, n / 16 % 16, n % 16].map fun digit => (Nat.digitChar digit).toUpper

/-- The form of a character other than the quote where escapes are possible. -/
def escapeChar (long : Bool) (c : Char) : List Char :=
  if c = '\x08' then ['\\', 'b']
  else if c = '\t' then ['\\', 't']
  else if c = '\n' then if long then [c] else ['\\', 'n']
  else if c = '\x0c' then ['\\', 'f']
  else if c = '\r' then ['\\', 'r']
  else if c = '\\' then ['\\', '\\']
  else if needsEscape c then '\\' :: 'u' :: hexQuad c.toNat
  else [c]

/-- A text where escapes are possible.  On several lines up to two quotes in a row stand for
themselves; `run` is their number so far. -/
def escapeText (long : Bool) : List Char → Nat → List Char
  | [], _ => []
  | c :: rest, run =>
    if c = '"' then
      if long && run < 2 then c :: escapeText long rest (run + 1)
      else '\\' :: c :: escapeText long rest 0
    else escapeChar long c ++ escapeText long rest 0

/-- The line break after the opening quotes, which is not part of the text. -/
def openingBreak (text : List Char) : List Char := if text.contains '\n' then ['\n'] else []

/-- A text as a value, in a given form. -/
def writeIn (form : StringForm) (text : List Char) : List Char :=
  match form with
  | .basic => '"' :: (escapeText false text 0 ++ ['"'])
  | .literal => '\'' :: (text ++ ['\''])
  | .longBasic =>
    ['"', '"', '"'] ++ openingBreak text ++ escapeText true text 0 ++ ['"', '"', '"']
  | .longLiteral =>
    ['\'', '\'', '\''] ++ openingBreak text ++ text ++ ['\'', '\'', '\'']

/-- A text as a value. -/
def writeText (text : String) : String :=
  String.ofList (writeIn (formOf text.toList) text.toList)

/-- A list of texts as a value. -/
def writeTexts : List String → String
  | [] => "[]"
  | [text] => "[" ++ writeText text ++ "]"
  | texts => "[\n" ++ String.join (texts.map fun text => "    " ++ writeText text ++ ",\n") ++ "]"

/-- A truth value as a value. -/
def writeBool (value : Bool) : String := if value then "true" else "false"

/-- The line that gives a value to a key. -/
def writeLine (key value : String) : String := key ++ " = " ++ value ++ "\n"

end Toml

end RequestRouting
