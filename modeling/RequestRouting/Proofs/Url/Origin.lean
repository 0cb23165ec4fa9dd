import Mathlib.Data.List.TakeWhile
import RequestRouting.Proofs.Host.Ideographs
import RequestRouting.Proofs.Steps
import RequestRouting.Url.Origin

/-!
# Origins are canonical

An origin that has been read has a canonical host and no default port, and its text is read as the
origin again.  The same parts with the default port and without any port make the same origin.

Longer labels are written as codes than codes are read: the text of an origin with such a label is
refused.

## Main definitions

* `Origin.Canonical` — the origins that texts spell.
* `Origin.IsHostText` — the texts that URLs may have for hosts.
* `Origin.authority` — a host and a port behind it.
* `Origin.wideLabel` — a label whose code is too long to be read.

## Main results

* `Origin.canonical_of_read` — an origin that has been read is canonical.
* `Origin.read_authority` — what a scheme, a host and a port are read as.
* `Origin.fixed_of_accepted` — an accepted origin is read from its own text and made of its own
  parts, and the default port of its scheme makes no difference, unless a code is too long.
-/

set_option autoImplicit false

namespace RequestRouting

namespace Origin

open Host (IsHostChar)

/-! ## What is read -/

/-- The origins that texts spell: the host is canonical, and the port is a number of sixteen bits
other than the default one. -/
structure Canonical (origin : Origin) : Prop where
  host : origin.host.Canonical
  le_of_port : ∀ port ∈ origin.port, port ≤ 65535
  port_ne : origin.port ≠ some origin.scheme.defaultPort

/-- A port that has been read has sixteen bits and is not the default one. -/
lemma of_parsePort {default : Option Nat} {digits : Option (List Char)} {port : Option Nat}
    (h : parsePort default digits = .ok port) :
    (∀ number ∈ port, number ≤ 65535) ∧ ∀ number ∈ port, some number ≠ default := by
  unfold parsePort at h
  split at h
  · cases h
    simp
  · next digits =>
    unfold readPort at h
    split at h
    · cases h
    · next hgood =>
      simp only [Bool.or_eq_true, decide_eq_true_eq, not_or, not_lt] at hgood
      split at h
      · cases h
        simp
      · next hnumber =>
        cases h
        simp only [Bool.or_eq_true, decide_eq_true_eq, not_or] at hnumber
        exact ⟨fun number hmem => Option.some.inj hmem ▸ hgood.2,
          fun number hmem => Option.some.inj hmem ▸ hnumber.2⟩

/-- The host and the port that are read from the middle of a URL. -/
lemma of_parseAuthority {default : Option Nat} {text : List Char} {host : Host}
    {port : Option Nat} (h : parseAuthority default text = .ok (host, port)) :
    host.Canonical ∧ ∃ digits, parsePort default digits = .ok port := by
  unfold parseAuthority at h
  dsimp only at h
  generalize splitPort false _ = parts at h
  obtain ⟨hostText, digits⟩ := parts
  split at h
  · cases h
  · obtain ⟨found, hfound, h⟩ := bind_eq_ok.1 h
    obtain ⟨number, hnumber, h⟩ := bind_eq_ok.1 h
    cases h
    exact ⟨Host.canonical_of_parse hfound, digits, hnumber⟩

/-- The scheme with a name has the default port of the name. -/
lemma defaultPortOf?_of_ofName? {name : String} {scheme : WebScheme}
    (h : WebScheme.ofName? name = some scheme) :
    defaultPortOf? name = some scheme.defaultPort := by
  rw [defaultPortOf?, h, Option.map_some]

/-- What is read behind a known scheme is canonical. -/
lemma canonical_of_parseSpecial {name : String} {rest : List Char} {origin : Origin}
    (h : parseSpecial name rest = .ok origin) : origin.Canonical := by
  unfold parseSpecial at h
  simp only [bind_eq_ok] at h
  obtain ⟨⟨host, port⟩, hauthority, h⟩ := h
  obtain ⟨hhost, digits, hport⟩ := of_parseAuthority hauthority
  split at h
  · cases h
  · next scheme hscheme =>
    split at h
    · cases h
      obtain ⟨hle, hne⟩ := of_parsePort hport
      refine ⟨hhost, hle, fun hdefault => ?_⟩
      exact hne _ hdefault (defaultPortOf?_of_ofName? hscheme).symm
    · cases h

/-- **An origin that has been read is canonical.** -/
theorem canonical_of_read {text : List Char} {origin : Origin} (h : read text = .ok origin) :
    origin.Canonical := by
  unfold read at h
  split at h
  · cases h
  · next name rest hsplit =>
    split at h
    · exact canonical_of_parseSpecial h
    · obtain ⟨-, -, hscheme⟩ := bind_eq_ok.1 h
      cases hscheme

/-- An origin that `parse` accepts is canonical. -/
lemma canonical_of_parse {text : String} {origin : Origin} (h : parse text = .ok origin) :
    origin.Canonical :=
  canonical_of_read (mapError_eq_ok.1 h)

/-! ## Parts of URLs -/

/-- Nothing is left out of a text of printable characters. -/
lemma clean_eq_self {text : List Char} (h : ∀ c ∈ text, 0x20 < c.toNat) : clean text = text := by
  have houter : ∀ c ∈ text, isOuter c = false := fun c hc => by simpa [isOuter] using h c hc
  have hignored : ∀ c ∈ text, (!isIgnored c) = true := by
    intro c hc
    have hprintable := h c hc
    simp only [isIgnored]
    rw [Bool.not_eq_true', Bool.or_eq_false_iff, Bool.or_eq_false_iff]
    refine ⟨⟨?_, ?_⟩, ?_⟩ <;>
    · refine beq_eq_false_iff_ne.2 ?_
      rintro rfl
      exact absurd hprintable (by decide)
  have hdrop {text : List Char} (htext : ∀ c ∈ text, isOuter c = false) :
      text.dropWhile isOuter = text := by
    cases text with
    | nil => rfl
    | cons c rest => rw [List.dropWhile_cons_of_neg (by simp [htext c List.mem_cons_self])]
  rw [clean, hdrop houter, hdrop (by simpa using houter), List.reverse_reverse,
    List.filter_eq_self.2 hignored]

/-- The scheme of a text is in front of its first colon. -/
lemma splitScheme?_name (scheme : WebScheme) (rest : List Char) :
    splitScheme? (scheme.name.toList ++ ':' :: rest) = some (scheme.name, rest) := by
  obtain ⟨name, hname⟩ : ∃ name, scheme.name.toList = 'h' :: name := by
    cases scheme <;> exact ⟨_, rfl⟩
  have hchars : ∀ c ∈ scheme.name.toList, isSchemeChar c = true :=
    List.all_eq_true.1 (by cases scheme <;> decide)
  have hlower : asciiLower scheme.name = scheme.name := by cases scheme <;> decide
  have hcolon : isSchemeChar ':' = false := by decide
  have htake : (scheme.name.toList ++ ':' :: rest).takeWhile isSchemeChar = scheme.name.toList := by
    rw [List.takeWhile_append_of_pos hchars, List.takeWhile_cons_of_neg (by simp [hcolon]),
      List.append_nil]
  have hdrop : (scheme.name.toList ++ ':' :: rest).dropWhile isSchemeChar = ':' :: rest := by
    rw [List.dropWhile_append_of_pos hchars, List.dropWhile_cons_of_neg (by simp [hcolon])]
  rw [hname, List.cons_append] at htake hdrop ⊢
  rw [splitScheme?, if_pos (by decide), hdrop, htake, ← hname, String.ofList_toList, hlower]
  rfl

/-- A text without the mark is not split. -/
lemma splitLast?_eq_none {mark : Char} {text : List Char} (h : mark ∉ text) :
    splitLast? mark text = none := by
  rw [splitLast?, splitFirst?_eq_none (by simpa using h), Option.map_none]

/-- Neither colons nor brackets are needed to see a host without them. -/
lemma splitPort_append {host : List Char} (h : ∀ c ∈ host, c ∉ [':', '[']) (rest : List Char) :
    splitPort false (host ++ rest) =
      (host ++ (splitPort false rest).1, (splitPort false rest).2) := by
  induction host with
  | nil => rfl
  | cons c host ih =>
    obtain ⟨hc, hhost⟩ := List.forall_mem_cons.1 h
    simp only [List.mem_cons, List.not_mem_nil, or_false, not_or] at hc
    have hmark : (c == '[') = false := by simpa using hc.2
    simp [splitPort, hc.1, hmark, ih hhost]

/-- Colons between brackets belong to the host. -/
lemma splitPort_bracketed {inner : List Char} (h : ∀ c ∈ inner, c ≠ ']') (rest : List Char) :
    splitPort true (inner ++ ']' :: rest) =
      (inner ++ ']' :: (splitPort false rest).1, (splitPort false rest).2) := by
  induction inner with
  | nil => simp [splitPort]
  | cons c inner ih =>
    obtain ⟨hc, hinner⟩ := List.forall_mem_cons.1 h
    have hmark : (c == '[' || c != ']') = true := by simp [hc]
    simp [splitPort, hmark, ih hinner]

/-- A text that a URL may have for a host: there is something in it, none of its characters ends it,
and its colons are between brackets. -/
structure IsHostText (host : List Char) : Prop where
  ne_nil : host ≠ []
  isHostChar : ∀ c ∈ host, IsHostChar c
  splitPort_eq : ∀ rest, splitPort false (host ++ rest) =
    (host ++ (splitPort false rest).1, (splitPort false rest).2)

/-- A text without colons and brackets may be a host. -/
lemma IsHostText.of_notMem {host : List Char} (hne : host ≠ [])
    (hchars : ∀ c ∈ host, IsHostChar c) (hmarks : ∀ c ∈ host, c ∉ [':', '[']) :
    IsHostText host :=
  ⟨hne, hchars, splitPort_append hmarks⟩

/-- A name may be a host. -/
lemma IsHostText.of_isNameChar {name : List Char} (hne : name ≠ [])
    (hchars : ∀ c ∈ name, Domain.IsNameChar c) : IsHostText name := by
  have hmarks : [':', '['] ⊆ [':', '[', ']', '%'] := by decide
  exact .of_notMem hne (fun c hc => (Host.isHostChar_of_isNameChar (hchars c hc)).1)
    fun c hc hmark => (Host.isHostChar_of_isNameChar (hchars c hc)).2 (hmarks hmark)

/-- The text of a canonical host may be a host. -/
lemma isHostText_of_canonical {host : Host} (h : host.Canonical) :
    IsHostText host.text.toList := by
  have hne := h.text_ne_nil
  cases h with
  | domain hname hhost => exact .of_isNameChar hne fun c => Domain.isNameChar_of_toAscii? hname
  | ipv4 address => exact .of_isNameChar hne fun c => Host.isNameChar_of_mem_ipv4
  | @ipv6 address haddress =>
    refine ⟨hne, fun c hc => ?_, fun rest => ?_⟩
    · simp only [Host.text, String.toList_append, List.mem_append] at hc
      rcases hc with (hopen | hinner) | hclose
      · obtain rfl : c = '[' := by simpa using hopen
        exact ⟨by decide, by decide⟩
      · exact (Host.isHostChar_of_mem_ipv6 hinner).1
      · obtain rfl : c = ']' := by simpa using hclose
        exact ⟨by decide, by decide⟩
    · have hinner : ∀ c ∈ address.text.toList, c ≠ ']' := fun c hc =>
        (Host.isHostChar_of_mem_ipv6 hc).2
      simp [Host.text, splitPort, splitPort_bracketed hinner]

/-! ## Ports -/

/-- The text of a port behind a host. -/
def portText (port : Option Nat) : List Char :=
  match port with
  | some port => ':' :: Nat.toDigits 10 port
  | none => []

/-- The digits of a port are behind a colon. -/
lemma splitPort_portText (port : Option Nat) :
    splitPort false (portText port) = ([], port.map (Nat.toDigits 10)) := by
  cases port <;> rfl

/-- The digits of a port are read as the port, which is left out if it is the default one. -/
lemma parsePort_toDigits (default : Option Nat) {port : Option Nat}
    (h : ∀ number ∈ port, number ≤ 65535) :
    parsePort default (port.map (Nat.toDigits 10)) =
      .ok (port.filter fun number => some number ≠ default) := by
  cases port with
  | none => rfl
  | some number =>
    have hle : number ≤ 65535 := h number rfl
    have hdigits : (Nat.toDigits 10 number).all Char.isDigit = true :=
      List.all_eq_true.2 fun c hc => isDigit_of_mem_toDigits hc
    rw [Option.map_some, parsePort, readPort, ofDigits_toDigits, if_neg (by simp [hdigits, hle])]
    by_cases hdefault : some number = default <;>
      simp [hdefault, Nat.toDigits_ne_nil, Option.filter]

/-- The characters of ports are characters of hosts. -/
lemma isHostChar_of_mem_portText {port : Option Nat} {c : Char} (h : c ∈ portText port) :
    IsHostChar c := by
  cases port with
  | none => cases h
  | some number =>
    rcases List.mem_cons.1 h with rfl | hdigit
    · exact ⟨by decide, by decide⟩
    · obtain ⟨digit, hlt, rfl⟩ := exists_of_mem_toDigits (by decide) hdigit
      exact (Host.isHostChar_of_isNameChar (Host.isNameChar_digitChar digit (by omega))).1

/-! ## Reading what has been written -/

section Written

variable {host : List Char} {port : Option Nat}

/-- The host and the port of an authority. -/
def authority (host : List Char) (port : Option Nat) : List Char := host ++ portText port

/-- The characters of an authority. -/
lemma isHostChar_of_mem_authority (hhost : IsHostText host) {c : Char}
    (hc : c ∈ authority host port) : IsHostChar c := by
  rcases List.mem_append.1 hc with hhostText | hport
  · exact hhost.isHostChar c hhostText
  · exact isHostChar_of_mem_portText hport

/-- Nothing in an authority would end it. -/
lemma not_endsAuthority (hhost : IsHostText host) {c : Char} (hc : c ∈ authority host port) :
    (!endsAuthority true c) = true := by
  have hdelimiter := (isHostChar_of_mem_authority hhost hc).notDelimiter
  simp only [List.mem_cons, List.not_mem_nil, or_false, not_or] at hdelimiter
  simp [endsAuthority, hdelimiter]

/-- An authority is read as its host and its port, if the host is. -/
lemma parseAuthority_authority (default : Option Nat) (hhost : IsHostText host)
    (hport : ∀ number ∈ port, number ≤ 65535) :
    parseAuthority default (authority host port) = (Host.parse host).map fun host =>
      (host, port.filter fun number => some number ≠ default) := by
  have hat : '@' ∉ authority host port := fun hmem =>
    (isHostChar_of_mem_authority hhost hmem).notDelimiter (by decide)
  unfold parseAuthority
  rw [splitLast?_eq_none hat]
  dsimp only
  rw [authority, hhost.splitPort_eq, splitPort_portText, List.append_nil]
  dsimp only
  rw [if_neg (by simpa using hhost.ne_nil), parsePort_toDigits default hport]
  cases Host.parse host <;> rfl

/-- Nothing is left out of a scheme and an authority. -/
lemma clean_authority (scheme : WebScheme) (hhost : IsHostText host) :
    clean (scheme.name.toList ++ ':' :: '/' :: '/' :: authority host port) =
      scheme.name.toList ++ ':' :: '/' :: '/' :: authority host port := by
  have hname : ∀ c ∈ scheme.name.toList, 0x20 < c.toNat := by
    cases scheme <;> simp [WebScheme.name]
  refine clean_eq_self fun c hc => ?_
  simp only [List.mem_append, List.mem_cons] at hc
  rcases hc with hc | rfl | rfl | rfl | hc
  · exact hname c hc
  · decide
  · decide
  · decide
  · exact (isHostChar_of_mem_authority hhost hc).printable

/-- No slash is at the front of an authority. -/
lemma dropWhile_isSlash_authority (hhost : IsHostText host) :
    ('/' :: '/' :: authority host port).dropWhile isSlash = authority host port := by
  obtain ⟨c, rest, hcons⟩ := List.exists_cons_of_ne_nil
    (show authority host port ≠ [] by simp [authority, hhost.ne_nil])
  have hdelimiter := (isHostChar_of_mem_authority hhost (hcons ▸ List.mem_cons_self)).notDelimiter
  simp only [List.mem_cons, List.not_mem_nil, or_false, not_or] at hdelimiter
  simp [hcons, isSlash, hdelimiter]

/-- What an authority with nothing behind it is read as. -/
lemma parseSpecial_authority (scheme : WebScheme) (hhost : IsHostText host)
    (hport : ∀ number ∈ port, number ≤ 65535) :
    parseSpecial scheme.name ('/' :: '/' :: authority host port) =
      (Host.parse host).map fun host =>
        ⟨scheme, host, port.filter fun number => some number ≠ some scheme.defaultPort⟩ := by
  have hall : ∀ c ∈ authority host port, (!endsAuthority true c) = true := fun c =>
    not_endsAuthority hhost
  have hbare : isBare [] = true := by decide
  rw [parseSpecial]
  dsimp only
  rw [dropWhile_isSlash_authority hhost, List.takeWhile_eq_self_iff.2 hall,
    List.dropWhile_eq_nil_iff.2 hall, defaultPortOf?_of_ofName? scheme.ofName?_name,
    parseAuthority_authority _ hhost hport, scheme.ofName?_name, hbare]
  cases Host.parse host <;> rfl

/-- **What a scheme, a host and a port are read as**, if the host is. -/
theorem read_authority (scheme : WebScheme) (hhost : IsHostText host)
    (hport : ∀ number ∈ port, number ≤ 65535) :
    read (scheme.name.toList ++ ':' :: '/' :: '/' :: authority host port) =
      (Host.parse host).map fun host =>
        ⟨scheme, host, port.filter fun number => some number ≠ some scheme.defaultPort⟩ := by
  have hkind : schemeKind scheme.name = .special := by cases scheme <;> decide
  rw [read, clean_authority scheme hhost, splitScheme?_name]
  dsimp only
  rw [hkind]
  exact parseSpecial_authority scheme hhost hport

end Written

/-! ## Origins -/

/-- The text of an origin is its scheme and its authority. -/
lemma toList_text (origin : Origin) :
    origin.text.toList =
      origin.scheme.name.toList ++
        ':' :: '/' :: '/' :: authority origin.host.text.toList origin.port := by
  obtain ⟨scheme, host, port⟩ := origin
  cases port <;> simp [text, authority, portText]

/-- The text of a canonical host and a port is read as an origin without the default port. -/
lemma parse_text (scheme : WebScheme) {host : Host} {port : Option Nat} (hhost : host.Canonical)
    (hport : ∀ number ∈ port, number ≤ 65535) :
    parse (text ⟨scheme, host, port⟩) =
      if host.isCompact then
        .ok ⟨scheme, host, port.filter fun number => some number ≠ some scheme.defaultPort⟩
      else .error (.invalidOrigin (text ⟨scheme, host, port⟩) .badDomain) := by
  rw [parse, toList_text, read_authority scheme (isHostText_of_canonical hhost) hport,
    hhost.parse_text]
  cases host.isCompact <;> rfl

/-- Parts make the origin that their text spells. -/
lemma new_eq_parse (scheme : WebScheme) (host : Host) (port : Option Nat) :
    new scheme.name host.text port = parse (text ⟨scheme, host, port⟩) := by
  cases port <;> rfl

/-- An accepted origin is canonical. -/
lemma canonical_of_accepted {origin : Origin}
    (h : (∃ text, parse text = .ok origin) ∨
      ∃ scheme host port, new scheme host port = .ok origin) : origin.Canonical := by
  rcases h with ⟨text, htext⟩ | ⟨scheme, host, port, hparts⟩
  · exact canonical_of_parse htext
  · exact canonical_of_parse hparts

/-- A port other than the default one is kept. -/
lemma Canonical.filter_port {origin : Origin} (h : origin.Canonical) :
    (origin.port.filter fun number => some number ≠ some origin.scheme.defaultPort) =
      origin.port := by
  obtain ⟨scheme, host, port⟩ := origin
  cases port with
  | none => rfl
  | some number =>
    have hne : number ≠ scheme.defaultPort := fun heq => h.port_ne (congrArg some heq)
    simp [Option.filter, hne]

/-- **An accepted origin is read from its own text and made of its own parts**, and the default port
of its scheme stands for no port, provided that no label of its host has a code that is too long to
be read.  If one has, the text of the origin is refused.

**Proof sketch.** The host of an accepted origin is canonical, so that its text is read as the host.
The text of the origin has nothing else than its scheme, this text and its port, and none of the
characters of the host ends it.  The port is not the default one and is kept. -/
theorem fixed_of_accepted {origin : Origin}
    (h : (∃ text, parse text = .ok origin) ∨
      ∃ scheme host port, new scheme host port = .ok origin) :
    (origin.scheme.name = "http" ∨ origin.scheme.name = "https") ∧
      origin.port ≠ some origin.scheme.defaultPort ∧
      (origin.host.isCompact = true →
        parse origin.text = .ok origin ∧
        new origin.scheme.name origin.host.text origin.port = .ok origin ∧
        ∃ plain,
          new origin.scheme.name origin.host.text (some origin.scheme.defaultPort) = .ok plain ∧
          new origin.scheme.name origin.host.text none = .ok plain) ∧
      (origin.host.isCompact = false →
        parse origin.text = .error (.invalidOrigin origin.text .badDomain)) := by
  have hcanonical := canonical_of_accepted h
  have hread := parse_text origin.scheme hcanonical.host hcanonical.le_of_port
  rw [hcanonical.filter_port] at hread
  refine ⟨?_, hcanonical.port_ne, fun hcompact => ?_, fun hcompact => ?_⟩
  · cases origin.scheme
    · exact .inl rfl
    · exact .inr rfl
  · rw [if_pos hcompact] at hread
    refine ⟨hread, (new_eq_parse _ _ _).trans hread, { origin with port := none }, ?_, ?_⟩
    · have hdefault : ∀ number ∈ some origin.scheme.defaultPort, number ≤ 65535 := by
        cases origin.scheme <;> simp [WebScheme.defaultPort]
      rw [new_eq_parse, parse_text _ hcanonical.host hdefault, if_pos hcompact]
      simp [Option.filter]
    · rw [new_eq_parse, parse_text _ hcanonical.host (by simp), if_pos hcompact]
      rfl
  · rwa [if_neg (by simp [hcompact])] at hread

/-- The origin of a local server. -/
def loopback : Origin := ⟨.https, .ipv6 ⟨[0, 0, 0, 0, 0, 0, 0, 1]⟩, none⟩

/-- The origin of a local server is accepted in another spelling, and read from its own text. -/
theorem fixed_of_accepted_loopback :
    parse "HTTPS://ada@[0:0:0:0:0:0:0:1]:0443\\" = .ok loopback ∧
      loopback.text = "https://[::1]" ∧ parse "https://[::1]" = .ok loopback := by
  have haccepted : parse "HTTPS://ada@[0:0:0:0:0:0:0:1]:0443\\" = .ok loopback := rfl
  have htext : loopback.text = "https://[::1]" := by decide
  obtain ⟨-, -, hcompact, -⟩ := fixed_of_accepted (.inl ⟨_, haccepted⟩)
  exact ⟨haccepted, htext, htext ▸ (hcompact rfl).1⟩

/-! ## A label that is not read back -/

/-- A label of ideographs that are far apart: short enough to be written, and too long to be read
when it has been. -/
def wideLabel : List Char := (List.range 720).map fun i => Char.ofNat (0x4E00 + 29 * i)

/-- The number of an ideograph of the label. -/
lemma toNat_wideLabel {i : Nat} (h : i < 720) :
    (Char.ofNat (0x4E00 + 29 * i)).toNat = 0x4E00 + 29 * i :=
  Punycode.toNat_ofNat_of_isValidChar (.inl (by omega))

/-- The label has ideographs only. -/
lemma isIdeograph_wideLabel : ∀ c ∈ wideLabel, Unicode.IsIdeograph c.toNat := by
  intro c hc
  obtain ⟨i, hi, rfl⟩ := List.mem_map.1 hc
  rw [toNat_wideLabel (List.mem_range.1 hi)]
  have := List.mem_range.1 hi
  exact ⟨by omega, by omega⟩

/-- The ideographs of the label are far apart. -/
lemma pairwise_wideLabel : wideLabel.Pairwise fun b a => b.toNat + 28 < a.toNat := by
  refine List.pairwise_map.2 (List.pairwise_lt_range.imp_of_mem fun hi hj hlt => ?_)
  rw [toNat_wideLabel (List.mem_range.1 hi), toNat_wideLabel (List.mem_range.1 hj)]
  omega

/-- The label may be a host. -/
lemma isHostText_wideLabel : IsHostText wideLabel := by
  have hmark {mark : Char} (h : mark.toNat < 0x4E00) : mark ∉ wideLabel :=
    Domain.notMem_ideographs isIdeograph_wideLabel h
  have hmarks : ∀ mark ∈ ['/', '\\', '?', '#', '@', ':', '['], mark.toNat < 0x4E00 := by simp
  have hdelimiters : ['/', '\\', '?', '#', '@'] ⊆ ['/', '\\', '?', '#', '@', ':', '['] := by decide
  have hcolons : [':', '['] ⊆ ['/', '\\', '?', '#', '@', ':', '['] := by decide
  refine .of_notMem (by simp [wideLabel]) (fun c hc => ⟨?_, fun h => ?_⟩) fun c hc h => ?_
  · have := (isIdeograph_wideLabel c hc).1
    omega
  · exact hmark (hmarks c (hdelimiters h)) hc
  · exact hmark (hmarks c (hcolons h)) hc

/-- The host of the label. -/
def wideHost : Host := .domain (String.ofList (Domain.codePrefix ++ Punycode.encode wideLabel))

/-- The label is read, and its code is too long to be read. -/
lemma parse_wideLabel : Host.parse wideLabel = .ok wideHost ∧ wideHost.isCompact = false := by
  have hlength : wideLabel.length = 720 := by simp [wideLabel]
  have hshort : wideLabel.length ≤ Domain.maxLength := by
    rw [hlength]
    decide
  have hlong : Domain.maxCodeLength + 99 < 3 * wideLabel.length := by
    rw [hlength]
    decide
  exact ⟨Host.parse_ideographs isIdeograph_wideLabel isHostText_wideLabel.ne_nil hshort,
    Host.isCompact_ideographs isIdeograph_wideLabel hshort pairwise_wideLabel hlong⟩

/-- An origin with this label is accepted, and its text is not. -/
theorem not_fixed_of_accepted :
    parse ("http://" ++ String.ofList wideLabel) = .ok ⟨.http, wideHost, none⟩ ∧
      parse (text ⟨.http, wideHost, none⟩) ≠ .ok ⟨.http, wideHost, none⟩ := by
  obtain ⟨hparse, hcompact⟩ := parse_wideLabel
  have htext : ("http://" ++ String.ofList wideLabel).toList =
      WebScheme.http.name.toList ++ ':' :: '/' :: '/' :: authority wideLabel none := by
    simp [authority, portText, WebScheme.name]
  constructor
  · rw [parse, htext, read_authority .http isHostText_wideLabel (by simp), hparse]
    rfl
  · rw [parse_text .http (Host.canonical_of_parse hparse) (by simp), if_neg (by simp [hcompact])]
    exact nofun

end Origin

end RequestRouting
