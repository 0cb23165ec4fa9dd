import RequestRouting.Host.Basic
import RequestRouting.Proofs.Host.Domain
import RequestRouting.Proofs.Host.Ipv4
import RequestRouting.Proofs.Host.Ipv6
import RequestRouting.Proofs.Text.Percent

/-!
# Hosts are canonical

The text of a host is read as the host again, unless it is a domain name with a code that is too
long to be read.

## Main definitions

* `Host.Canonical` — the hosts that texts spell.
* `Host.isCompact` — whether the codes of a host are short enough to be read.
* `Host.IsHostChar` — the characters of the texts of hosts.

## Main results

* `Host.canonical_of_parse` — a host that has been read is canonical.
* `Host.Canonical.parse_text` — the text of a canonical host is read as the host.
-/

set_option autoImplicit false

namespace RequestRouting

namespace Host

open Domain (IsNameChar isForbidden)
open Punycode (isAscii)

/-- The hosts that texts spell. -/
inductive Canonical : Host → Prop where
  /-- A domain name in its ASCII form that is no address. -/
  | domain {name : String} {source : List Char} (hname : Domain.toAscii? source = some name)
      (hhost : ofDomain name = .ok (.domain name)) : Canonical (.domain name)
  | ipv4 (address : Ipv4) : Canonical (.ipv4 address)
  | ipv6 {address : Ipv6} (h : address.WellFormed) : Canonical (.ipv6 address)

/-- Whether the codes of a host are short enough to be read. -/
def isCompact : Host → Bool
  | .domain name => Domain.isCompact name.toList
  | .ipv4 _ => true
  | .ipv6 _ => true

/-! ## What is read -/

/-- A name is the host, or it spells an address. -/
lemma canonical_of_ofDomain {name : String} {source : List Char} {host : Host}
    (hname : Domain.toAscii? source = some name) (h : ofDomain name = .ok host) :
    host.Canonical := by
  have hhost := h
  unfold ofDomain at h
  split at h
  · cases h
  split at h
  · split at h
    · cases h
      exact .ipv4 _
    · cases h
  · cases h
    exact .domain hname hhost

/-- What is read between brackets is an address. -/
lemma canonical_of_parseBracketed {text : List Char} {host : Host}
    (h : parseBracketed text = .ok host) : host.Canonical := by
  unfold parseBracketed at h
  split at h
  · next address haddress =>
    cases h
    obtain ⟨inner, -, hinner⟩ := Option.bind_eq_some_iff.1 haddress
    exact .ipv6 (Ipv6.wellFormed_of_parse? hinner)
  · cases h

/-- **A host that has been read is canonical.** -/
theorem canonical_of_parse {text : List Char} {host : Host} (h : parse text = .ok host) :
    host.Canonical := by
  unfold parse at h
  split at h
  · exact canonical_of_parseBracketed h
  · split at h
    · next name hname =>
      obtain ⟨source, -, hsource⟩ := Option.bind_eq_some_iff.1 hname
      exact canonical_of_ofDomain hsource h
    · cases h

/-! ## Characters -/

/-- A character of the text of a host. -/
structure IsHostChar (c : Char) : Prop where
  printable : 0x20 < c.toNat
  notDelimiter : c ∉ ['/', '\\', '?', '#', '@']

/-- The characters of names are characters of hosts, and neither colons, brackets nor percent
signs. -/
lemma isHostChar_of_isNameChar {c : Char} (h : IsNameChar c) :
    IsHostChar c ∧ c ∉ [':', '[', ']', '%'] := by
  have hallowed := h.2
  simp only [isForbidden, Bool.or_eq_false_iff, decide_eq_false_iff_not] at hallowed
  obtain ⟨⟨⟨-, hprintable⟩, -⟩, hlist⟩ := hallowed
  have hmem : c ∉ "%#/:<>?@[\\]^|".toList := by simpa using hlist
  have hdelimiters : ['/', '\\', '?', '#', '@'] ⊆ "%#/:<>?@[\\]^|".toList := by decide
  have hothers : [':', '[', ']', '%'] ⊆ "%#/:<>?@[\\]^|".toList := by decide
  exact ⟨⟨not_le.1 hprintable, fun hc => hmem (hdelimiters hc)⟩, fun hc => hmem (hothers hc)⟩

/-- Digits are characters of names. -/
lemma isNameChar_digitChar : ∀ digit < 16, IsNameChar (Nat.digitChar digit) := by
  unfold IsNameChar
  decide

/-- The characters of the text of an address are characters of names. -/
lemma isNameChar_of_mem_ipv4 {address : Ipv4} {c : Char} (h : c ∈ address.text.toList) :
    IsNameChar c := by
  rcases Ipv4.mem_toList_text h with rfl | ⟨digit, hlt, rfl⟩
  · exact ⟨by decide, by decide⟩
  · exact isNameChar_digitChar digit (by omega)

/-- The characters of the text of an address between brackets are characters of hosts. -/
lemma isHostChar_of_mem_ipv6 {address : Ipv6} {c : Char} (h : c ∈ address.text.toList) :
    IsHostChar c ∧ c ≠ ']' := by
  rcases Ipv6.mem_toList_text h with rfl | ⟨digit, hlt, rfl⟩
  · exact ⟨⟨by decide, by decide⟩, by decide⟩
  · obtain ⟨hchar, hother⟩ := isHostChar_of_isNameChar (isNameChar_digitChar digit hlt)
    refine ⟨hchar, fun heq => ?_⟩
    rw [heq] at hother
    exact hother (by decide)

/-! ## Reading what has been written -/

/-- A text without brackets and percent signs is read as a name. -/
lemma parse_eq_ofDomain {text : List Char} (hbracket : '[' ∉ text) (hpercent : '%' ∉ text) :
    parse text = match Domain.toAscii? text with
      | some name => ofDomain name
      | none => .error .badDomain := by
  have hdecode : Utf8.decode? (Percent.decodeOctets (Utf8.encode text)) = some text := by
    rw [Percent.decodeOctets_encode hpercent, Utf8.decode?_encode]
  unfold parse
  split
  · exact absurd List.mem_cons_self hbracket
  · cases hname : Domain.toAscii? text <;> simp [hdecode, hname]

/-- A name is read without its characters being decoded. -/
lemma parse_of_isNameChar {name : String} (h : ∀ c ∈ name.toList, IsNameChar c) :
    parse name.toList = match Domain.toAscii? name.toList with
      | some name => ofDomain name
      | none => .error .badDomain := by
  have hmark {mark : Char} (hmem : mark ∈ [':', '[', ']', '%']) : mark ∉ name.toList := fun hc =>
    (isHostChar_of_isNameChar (h _ hc)).2 hmem
  exact parse_eq_ofDomain (hmark (by decide)) (hmark (by decide))

/-- The text of an address has no codes. -/
lemma toAscii?_ipv4 (address : Ipv4) : Domain.toAscii? address.text.toList = some address.text := by
  refine Domain.toAscii?_eq_self (fun c => isNameChar_of_mem_ipv4) fun label hlabel => ?_
  rw [Ipv4.splitOnChar_text] at hlabel
  obtain ⟨octet, -, rfl⟩ := List.mem_map.1 hlabel
  cases hcode : stripStart? Domain.codePrefix (Nat.toDigits 10 octet) with
  | none => rfl
  | some rest =>
    -- The first character of a code is no digit.
    have hdigit : ('x').isDigit = true := by
      refine isDigit_of_mem_toDigits (n := octet) ?_
      rw [eq_append_of_stripStart? hcode]
      exact List.mem_cons_self
    exact absurd hdigit (by decide)

/-- The text of an address is the name of the address. -/
lemma ofDomain_ipv4 (address : Ipv4) : ofDomain address.text = .ok (.ipv4 address) := by
  rw [ofDomain, if_neg address.text_ne_empty, if_pos (Ipv4.endsInNumber_text address),
    Ipv4.parse?_text]

/-- **The text of a canonical host is read as the host**, unless it has a code that is too long to
be read.

**Proof sketch.** A domain name is its own ASCII form if its codes can be read.  The text of an
address is a name without codes that ends in a number, or it is an address between brackets. -/
theorem Canonical.parse_text {host : Host} (h : host.Canonical) :
    parse host.text.toList = if host.isCompact then .ok host else .error .badDomain := by
  cases h with
  | @domain name source hname hhost =>
    have hchars : ∀ c ∈ name.toList, IsNameChar c := fun c =>
      Domain.isNameChar_of_toAscii? hname
    rw [text, parse_of_isNameChar hchars, Domain.toAscii?_of_toAscii? hname, isCompact]
    cases Domain.isCompact name.toList with
    | true => simpa using hhost
    | false => rfl
  | ipv4 address =>
    rw [text, parse_of_isNameChar (fun c => isNameChar_of_mem_ipv4), toAscii?_ipv4]
    exact ofDomain_ipv4 address
  | @ipv6 address haddress =>
    have htext : (text (.ipv6 address)).toList = '[' :: (address.text.toList ++ [']']) := by
      simp [text]
    have hinner : stripEnd? [']'] (address.text.toList ++ [']']) = some address.text.toList :=
      stripEnd?_eq_some.2 rfl
    rw [htext, parse, parseBracketed, hinner, Option.bind_some, Ipv6.parse?_text haddress]
    rfl

/-- No canonical host has an empty text. -/
theorem Canonical.text_ne_nil {host : Host} (h : host.Canonical) : host.text.toList ≠ [] := by
  cases h with
  | @domain name source hname hhost =>
    intro hempty
    obtain rfl : name = "" := String.toList_eq_nil_iff.1 hempty
    cases hhost
  | ipv4 address => exact fun hempty => address.text_ne_empty (String.toList_eq_nil_iff.1 hempty)
  | ipv6 h => simp [text]

end Host

end RequestRouting
