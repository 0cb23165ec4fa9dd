import RequestRouting.Host.Domain
import RequestRouting.Host.Ipv4
import RequestRouting.Host.Ipv6
import RequestRouting.Text.Percent
import RequestRouting.Url.Error

/-!
# Hosts

## Main definitions

* `Host` — a domain name or an address.
* `Host.parse` — the host that a text spells.
* `Host.text` — the canonical text of a host.
-/

set_option autoImplicit false

namespace RequestRouting

/-- The host of a URL. -/
inductive Host where
  /-- A domain name in its ASCII form. -/
  | domain (name : String)
  | ipv4 (address : Ipv4)
  | ipv6 (address : Ipv6)
  deriving DecidableEq

namespace Host

/-- The canonical text of a host. -/
def text : Host → String
  | .domain name => name
  | .ipv4 address => address.text
  | .ipv6 address => "[" ++ address.text ++ "]"

/-- The host of a domain name in its ASCII form. -/
def ofDomain (name : String) : Except OriginFault Host :=
  if name = "" then .error .emptyHost
  else if Ipv4.endsInNumber name.toList then
    match Ipv4.parse? name.toList with
    | some address => .ok (.ipv4 address)
    | none => .error .badIpv4
  else .ok (.domain name)

/-- The address between brackets. -/
def parseBracketed (text : List Char) : Except OriginFault Host :=
  match (stripEnd? [']'] text).bind Ipv6.parse? with
  | some address => .ok (.ipv6 address)
  | none => .error .badIpv6

/-- The host that a text spells. -/
def parse (text : List Char) : Except OriginFault Host :=
  match text with
  | '[' :: rest => parseBracketed rest
  | _ =>
    match (Utf8.decode? (Percent.decodeOctets (Utf8.encode text))).bind Domain.toAscii? with
    | some name => ofDomain name
    | none => .error .badDomain

/-- The characters that the host of a URL with a foreign scheme may not contain. -/
def isForbiddenOpaque (c : Char) : Bool :=
  c == '\x00' || " \t\n\r#/:<>?@[\\]^|".toList.contains c

/-- Checks the host of a URL with a foreign scheme. -/
def checkOpaque (text : List Char) : Except OriginFault Unit :=
  match text with
  | '[' :: rest => (parseBracketed rest).map fun _ => ()
  | _ => if text.any isForbiddenOpaque then .error .badDomainCharacter else .ok ()

end Host

end RequestRouting
