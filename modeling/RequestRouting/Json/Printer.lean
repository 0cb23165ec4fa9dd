import RequestRouting.Json.Basic

/-!
# JSON text

The two printed forms of a JSON value: the compact one, without any white space, and the indented
one, with two blanks a level.

## Main definitions

* `Json.quote` — a text as a JSON string literal.
* `Json.compact` — the form without white space.
* `Json.pretty` — the indented form; empty arrays and objects stay on one line.
-/

set_option autoImplicit false

namespace RequestRouting

namespace Json

/-- Two lower-case hexadecimal digits. -/
def hexPair (n : Nat) : List Char := [Nat.digitChar (n / 16 % 16), Nat.digitChar (n % 16)]

/-- The form of a character inside a string literal.  Only the quote, the backslash and the
control characters below the blank are escaped. -/
def escapeChar (c : Char) : List Char :=
  if c = '"' then ['\\', '"']
  else if c = '\\' then ['\\', '\\']
  else if c = '\n' then ['\\', 'n']
  else if c = '\r' then ['\\', 'r']
  else if c = '\t' then ['\\', 't']
  else if c.toNat = 8 then ['\\', 'b']
  else if c.toNat = 12 then ['\\', 'f']
  else if c.toNat < 0x20 then ['\\', 'u', '0', '0'] ++ hexPair c.toNat
  else [c]

/-- A text as a string literal. -/
def quote (text : String) : String :=
  String.ofList ('"' :: (text.toList.flatMap escapeChar ++ ['"']))

mutual

/-- The form without white space. -/
def compact : Json → String
  | .null => "null"
  | .bool true => "true"
  | .bool false => "false"
  | .number n => n.text
  | .string s => quote s
  | .array items => "[" ++ ",".intercalate (compactItems items) ++ "]"
  | .object fields => "\x7b" ++ ",".intercalate (compactFields fields) ++ "\x7d"

/-- The items of an array in compact form. -/
def compactItems : List Json → List String
  | [] => []
  | item :: rest => compact item :: compactItems rest

/-- The fields of an object in compact form. -/
def compactFields : List (String × Json) → List String
  | [] => []
  | (name, value) :: rest => (quote name ++ ":" ++ compact value) :: compactFields rest

end

/-- A line break followed by the indentation of a level. -/
def breakLine (level : Nat) : String := String.ofList ('\n' :: List.replicate (2 * level) ' ')

mutual

/-- The indented form of a value that stands at a level. -/
def prettyAt (level : Nat) : Json → String
  | .array [] => "[]"
  | .array (item :: rest) =>
    "[" ++ breakLine (level + 1) ++
      ("," ++ breakLine (level + 1)).intercalate
        (prettyAt (level + 1) item :: prettyItems (level + 1) rest) ++
      breakLine level ++ "]"
  | .object [] => "\x7b\x7d"
  | .object ((name, value) :: rest) =>
    "\x7b" ++ breakLine (level + 1) ++
      ("," ++ breakLine (level + 1)).intercalate
        ((quote name ++ ": " ++ prettyAt (level + 1) value) :: prettyFields (level + 1) rest) ++
      breakLine level ++ "\x7d"
  | scalar => compact scalar

/-- The items of an array in indented form. -/
def prettyItems (level : Nat) : List Json → List String
  | [] => []
  | item :: rest => prettyAt level item :: prettyItems level rest

/-- The fields of an object in indented form. -/
def prettyFields (level : Nat) : List (String × Json) → List String
  | [] => []
  | (name, value) :: rest =>
    (quote name ++ ": " ++ prettyAt level value) :: prettyFields level rest

end

/-- The indented form. -/
def pretty (value : Json) : String := prettyAt 0 value

end Json

end RequestRouting
