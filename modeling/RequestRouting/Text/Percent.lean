import RequestRouting.Text.Utf8

/-!
# Percent encoding

Percent encoding of single URL components.  Only unreserved ASCII characters stand for themselves;
every other octet of the UTF-8 form becomes a percent sign and two upper-case hexadecimal digits.

## Main definitions

* `Percent.encode` — the encoded form of a text.
* `Percent.decodeOctets`, `Percent.decode` — the octets, and the characters, that an encoded form
  stands for.  A percent sign that begins no escape stands for itself.
-/

set_option autoImplicit false

namespace RequestRouting

namespace Percent

/-- The characters that stand for themselves in an encoded component. -/
def isUnreserved (c : Char) : Bool :=
  c.isAlphanum || c == '-' || c == '.' || c == '_' || c == '~'

/-- An upper-case hexadecimal digit. -/
def hexDigit (n : Nat) : Char := (Nat.digitChar n).toUpper

/-- The escape of an octet. -/
def escapeOctet (b : UInt8) : List Char :=
  ['%', hexDigit (b.toNat / 16), hexDigit (b.toNat % 16)]

/-- The encoded form of a character. -/
def encodeChar (c : Char) : List Char :=
  if isUnreserved c then [c] else (Utf8.encodeChar c).flatMap escapeOctet

/-- The encoded form of a list of characters. -/
def encodeChars (text : List Char) : List Char := text.flatMap encodeChar

/-- The encoded form of a text. -/
def encode (text : String) : String := String.ofList (encodeChars text.toList)

/-- The value of an octet that is a hexadecimal digit. -/
def hexValue? (b : UInt8) : Option UInt8 :=
  if 48 ≤ b && b ≤ 57 then some (b - 48)
  else if 65 ≤ b && b ≤ 70 then some (b - 55)
  else if 97 ≤ b && b ≤ 102 then some (b - 87)
  else none

/-- The octets that an encoded form stands for. -/
def decodeOctets : List UInt8 → List UInt8
  | 37 :: high :: low :: rest =>
    match hexValue? high, hexValue? low with
    | some h, some l => (h * 16 + l) :: decodeOctets rest
    | _, _ => 37 :: decodeOctets (high :: low :: rest)
  | b :: rest => b :: decodeOctets rest
  | [] => []

/-- The characters that an encoded form stands for. -/
def decodeChars (text : List Char) : List Char :=
  Utf8.decodeLossy (decodeOctets (Utf8.encode text))

/-- The text that an encoded form stands for. -/
def decode (text : String) : String := String.ofList (decodeChars text.toList)

end Percent

end RequestRouting
