import RequestRouting.Unicode.Category
import RequestRouting.Unicode.Property

/-!
# Quoted texts in messages

Messages show a piece of input between quotes, with everything that would not show as itself
escaped: the quote and the backslash, line breaks and tabs, and every character that does not print
or attaches to the one before it.

## Main definitions

* `quoteText` — a text between double quotes.
* `quoteChar` — a character between single quotes.
-/

set_option autoImplicit false

namespace RequestRouting

/-- The escape of a character by its number in lower-case hexadecimal digits. -/
def numericEscape (c : Char) : List Char :=
  ['\\', 'u', '\x7b'] ++ Nat.toDigits 16 c.toNat ++ ['\x7d']

/-- The form of a character between quotes of the given kind. -/
def quotedChar (quote : Char) (c : Char) : List Char :=
  if c = quote || c = '\\' then ['\\', c]
  else if c = '\n' then ['\\', 'n']
  else if c = '\r' then ['\\', 'r']
  else if c = '\t' then ['\\', 't']
  else if c.toNat = 0 then ['\\', '0']
  else if Unicode.isPrintable c && !Unicode.isGraphemeExtend c then [c]
  else numericEscape c

/-- A text between double quotes. -/
def quoteText (text : String) : String :=
  String.ofList ('"' :: (text.toList.flatMap (quotedChar '"') ++ ['"']))

/-- A character between single quotes. -/
def quoteChar (c : Char) : String :=
  String.ofList ('\'' :: (quotedChar '\'' c ++ ['\'']))

end RequestRouting
