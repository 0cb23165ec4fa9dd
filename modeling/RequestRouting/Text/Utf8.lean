/-!
# UTF-8

Characters as octets and octets as characters.  Reading never fails: what is not UTF-8 becomes
replacement characters, one for each maximal piece that could still have begun a character.

## Main definitions

* `Utf8.encode` — the octets of a list of characters.
* `Utf8.decodeLossy` — the characters of a list of octets, with replacements.
* `Utf8.decode?` — the characters of a list of octets that is UTF-8 throughout.
-/

set_option autoImplicit false

namespace RequestRouting

namespace Utf8

/-- The octets of a character. -/
def encodeChar (c : Char) : List UInt8 := String.utf8EncodeChar c

/-- The octets of a list of characters. -/
def encode (text : List Char) : List UInt8 := text.flatMap encodeChar

/-- A character that has begun: the bits so far, the number of octets still owed, and the range in
which the next one has to lie. -/
structure Pending where
  bits : Nat
  owed : Nat
  least : Nat
  greatest : Nat
  deriving DecidableEq

/-- What a first octet may begin. -/
inductive Start where
  /-- A whole character. -/
  | whole (c : Char)
  /-- A character of several octets. -/
  | more (pending : Pending)
  /-- Nothing. -/
  | invalid

/-- What an octet between characters begins. -/
def start (b : Nat) : Start :=
  if b ≤ 0x7F then .whole (Char.ofNat b)
  else if 0xC2 ≤ b ∧ b ≤ 0xDF then .more ⟨b - 0xC0, 1, 0x80, 0xBF⟩
  else if b = 0xE0 then .more ⟨0, 2, 0xA0, 0xBF⟩
  else if b = 0xED then .more ⟨0xD, 2, 0x80, 0x9F⟩
  else if 0xE1 ≤ b ∧ b ≤ 0xEF then .more ⟨b - 0xE0, 2, 0x80, 0xBF⟩
  else if b = 0xF0 then .more ⟨0, 3, 0x90, 0xBF⟩
  else if b = 0xF4 then .more ⟨4, 3, 0x80, 0x8F⟩
  else if 0xF1 ≤ b ∧ b ≤ 0xF3 then .more ⟨b - 0xF0, 3, 0x80, 0xBF⟩
  else .invalid

/-- What an octet makes of a character that has begun; `none` where it cannot continue it. -/
def Pending.next? (pending : Pending) (b : Nat) : Option (Sum Char Pending) :=
  if pending.least ≤ b ∧ b ≤ pending.greatest then
    let bits := pending.bits * 64 + (b - 0x80)
    if pending.owed ≤ 1 then some (.inl (Char.ofNat bits))
    else some (.inr ⟨bits, pending.owed - 1, 0x80, 0xBF⟩)
  else none

/-- The character that stands for octets that are not UTF-8. -/
def replacement : Char := '\uFFFD'

/-- The characters of octets, after a character that has begun. -/
def decodeFrom : Option Pending → List UInt8 → List Char
  | none, [] => []
  | some _, [] => [replacement]
  | none, b :: rest =>
    match start b.toNat with
    | .whole c => c :: decodeFrom none rest
    | .more pending => decodeFrom (some pending) rest
    | .invalid => replacement :: decodeFrom none rest
  | some pending, b :: rest =>
    match pending.next? b.toNat with
    | some (.inl c) => c :: decodeFrom none rest
    | some (.inr pending) => decodeFrom (some pending) rest
    | none =>
      replacement :: match start b.toNat with
        | .whole c => c :: decodeFrom none rest
        | .more pending => decodeFrom (some pending) rest
        | .invalid => replacement :: decodeFrom none rest

/-- The characters of octets, with replacements for what is not UTF-8. -/
def decodeLossy (octets : List UInt8) : List Char := decodeFrom none octets

/-- The characters of octets after a character that has begun, if all of it is UTF-8. -/
def decodeFrom? : Option Pending → List UInt8 → Option (List Char)
  | none, [] => some []
  | some _, [] => none
  | none, b :: rest =>
    match start b.toNat with
    | .whole c => (decodeFrom? none rest).map (c :: ·)
    | .more pending => decodeFrom? (some pending) rest
    | .invalid => none
  | some pending, b :: rest =>
    match pending.next? b.toNat with
    | some (.inl c) => (decodeFrom? none rest).map (c :: ·)
    | some (.inr pending) => decodeFrom? (some pending) rest
    | none => none

/-- The characters of octets that are UTF-8 throughout. -/
def decode? (octets : List UInt8) : Option (List Char) := decodeFrom? none octets

/-- The number of octets of a list of characters. -/
def size (text : List Char) : Nat := text.foldl (fun size c => size + c.utf8Size) 0

end Utf8

end RequestRouting
