import RequestRouting.Number.Decimal
import RequestRouting.Text.Split

/-!
# IPv4 addresses

The IPv4 addresses of URLs: up to four numbers between points, each in base ten, eight or sixteen,
of which the last one fills the octets that are left.

## Main definitions

* `Ipv4` — an address.
* `Ipv4.endsInNumber` — whether a host has to be an address.
* `Ipv4.parse?` — the address that a host spells.
* `Ipv4.text` — the four octets in base ten.
-/

set_option autoImplicit false

namespace RequestRouting

/-- An IPv4 address. -/
structure Ipv4 where
  /-- The address as one number. -/
  address : Nat
  /-- It has four octets. -/
  bound : address < 0x100000000
  deriving DecidableEq

namespace Ipv4

/-- Whether a character is a digit of a base up to sixteen. -/
def isDigitOf (base : Nat) (c : Char) : Bool := (hexDigitValue? c).any (· < base)

/-- The number that digits of a base spell; none at all spell zero. -/
def readDigits? (base : Nat) (digits : List Char) : Option Nat :=
  if digits.all (isDigitOf base) then
    some (digits.foldl (fun n c => n * base + (hexDigitValue? c).getD 0) 0)
  else none

/-- The number that a part of a host spells.  A leading `0x` makes it hexadecimal, and any other
leading zero octal. -/
def readNumber? : List Char → Option Nat
  | [] => none
  | '0' :: 'x' :: rest | '0' :: 'X' :: rest => readDigits? 16 rest
  | '0' :: c :: rest => readDigits? 8 (c :: rest)
  | digits => readDigits? 10 digits

/-- The parts of a host, without the empty one after a final point. -/
def parts (host : List Char) : List (List Char) :=
  let all := splitOnChar '.' host
  if all.length ≠ 1 && all.getLast? = some [] then all.dropLast else all

/-- Whether the last part of a host is a number, so that the host has to be an address. -/
def endsInNumber (host : List Char) : Bool :=
  match (parts host).getLast? with
  | none => false
  | some last => (!last.isEmpty && last.all Char.isDigit) || (readNumber? last).isSome

/-- The value of the leading octets of an address of which the last number is still missing. -/
def leading (numbers : List Nat) : Nat := numbers.foldl (fun n octet => n * 256 + octet) 0

/-- The address of up to four numbers. -/
def ofNumbers? (numbers : List Nat) : Option Ipv4 :=
  let front := numbers.dropLast
  let last := numbers.getLast?.getD 0
  let rest := Nat.pow 256 (4 - front.length)
  let address := leading front * rest + last
  if numbers.length ≤ 4 && front.all (· < 256) && last < rest then
    if h : address < 0x100000000 then some ⟨address, h⟩ else none
  else none

/-- The address that a host spells. -/
def parse? (host : List Char) : Option Ipv4 := do
  let numbers ← (parts host).mapM readNumber?
  ofNumbers? numbers

/-- The octets of an address. -/
def octets (address : Ipv4) : List Nat :=
  [address.address / 0x1000000, address.address / 0x10000 % 256, address.address / 0x100 % 256,
    address.address % 256]

/-- The octets in base ten. -/
def text (address : Ipv4) : String := ".".intercalate (address.octets.map toString)

end Ipv4

end RequestRouting
