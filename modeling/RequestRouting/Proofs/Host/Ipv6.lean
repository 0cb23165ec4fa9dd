import Mathlib.Algebra.Group.Nat.Defs
import RequestRouting.Host.Ipv6
import RequestRouting.Proofs.Number.Decimal
import RequestRouting.Proofs.Steps
import RequestRouting.Proofs.Text.Split

/-!
# IPv6 addresses are read back

An address that has been read has eight pieces of sixteen bits, and its canonical text is read as
the address again.

## Main definitions

* `Ipv6.WellFormed` — addresses of eight pieces of sixteen bits.

## Main results

* `Ipv6.wellFormed_of_parse?` — what is read as an address is well-formed.
* `Ipv6.exists_longestRun` — the run of zeros that the text of an address leaves out.
* `Ipv6.parse?_text` — the text of an address is read as the address.
-/

set_option autoImplicit false

namespace RequestRouting

namespace Ipv6

/-- An address has eight pieces of sixteen bits. -/
structure WellFormed (address : Ipv6) : Prop where
  length_eq : address.pieces.length = count
  lt_of_mem : ∀ piece ∈ address.pieces, piece < 0x10000

/-! ## What is read -/

/-- Digits that are read one after the other stay below a power of the base. -/
lemma foldlM_lt {digits : List Char} {start piece bound : Nat}
    (h : digits.foldlM (fun n c => (hexDigitValue? c).map fun digit => n * 16 + digit) start =
      some piece) (hstart : start < bound) : piece < bound * 16 ^ digits.length := by
  induction digits generalizing start bound with
  | nil =>
    obtain rfl : start = piece := by simpa using h
    simpa using hstart
  | cons c rest ih =>
    simp only [List.foldlM_cons, Option.bind_eq_bind, Option.bind_eq_some_iff,
      Option.map_eq_some_iff] at h
    obtain ⟨next, ⟨digit, hdigit, rfl⟩, hrest⟩ := h
    have hlt := lt_of_hexDigitValue? hdigit
    calc piece < (bound * 16) * 16 ^ rest.length := ih hrest (by omega)
      _ = bound * 16 ^ (c :: rest).length := by
        rw [List.length_cons, Nat.pow_succ', Nat.mul_assoc]

/-- A piece that has been read has sixteen bits. -/
lemma lt_of_readPiece? {digits : List Char} {piece : Nat} (h : readPiece? digits = some piece) :
    piece < 0x10000 := by
  unfold readPiece? at h
  split at h
  · cases h
  · next hlength =>
    simp only [Bool.or_eq_true, decide_eq_true_eq, not_or, not_lt] at hlength
    calc piece < 1 * 16 ^ digits.length := foldlM_lt h (by decide)
      _ ≤ 16 ^ 4 := by
        rw [Nat.one_mul]
        exact Nat.pow_le_pow_right (by decide) hlength.2

/-- An octet that has been read has eight bits. -/
lemma lt_of_readOctet? {digits : List Char} {octet : Nat} (h : readOctet? digits = some octet) :
    octet < 256 := by
  unfold readOctet? at h
  split at h
  · cases h
  split at h
  · cases h
  split at h
  · next hlt => exact Option.some.inj h ▸ hlt
  · cases h

/-- Octets make pieces of sixteen bits. -/
lemma lt_of_readOctets? {text : List Char} {pieces : List Nat}
    (h : readOctets? text = some pieces) : ∀ piece ∈ pieces, piece < 0x10000 := by
  simp only [readOctets?, Option.bind_eq_bind, Option.bind_eq_some_iff] at h
  obtain ⟨octets, hoctets, hpieces⟩ := h
  have hlt : ∀ octet ∈ octets, octet < 256 := by
    intro octet hoctet
    obtain ⟨digits, -, hdigits⟩ := exists_mem_of_forall₂
      (mapM_eq_some_iff.1 hoctets).flip hoctet
    exact lt_of_readOctet? hdigits
  split at hpieces
  · cases hpieces
    simp only [List.forall_mem_cons, List.not_mem_nil, false_implies, implies_true, and_true]
      at hlt ⊢
    omega
  · cases hpieces

/-- The pieces of groups have sixteen bits. -/
lemma lt_of_readGroups? {tail : Bool} {groups : List (List Char)} {pieces : List Nat}
    (h : readGroups? tail groups = some pieces) : ∀ piece ∈ pieces, piece < 0x10000 := by
  fun_induction readGroups? tail groups generalizing pieces with
  | case1 => simp_all
  | case2 group htail => exact lt_of_readOctets? h
  | case3 group htail =>
    obtain ⟨piece, hpiece, rfl⟩ := Option.map_eq_some_iff.1 h
    simpa using lt_of_readPiece? hpiece
  | case4 group rest hrest ih =>
    simp only [Option.bind_eq_bind, Option.bind_eq_some_iff, Option.some.injEq] at h
    obtain ⟨piece, hpiece, others, hothers, rfl⟩ := h
    exact List.forall_mem_cons.2 ⟨lt_of_readPiece? hpiece, ih hothers⟩

/-- The pieces on one side of two colons have sixteen bits. -/
lemma lt_of_readSide? {tail : Bool} {text : List Char} {pieces : List Nat}
    (h : readSide? tail text = some pieces) : ∀ piece ∈ pieces, piece < 0x10000 := by
  unfold readSide? at h
  split at h
  · cases h
    simp
  · exact lt_of_readGroups? h

/-- **What is read as an address has eight pieces of sixteen bits.** -/
theorem wellFormed_of_parse? {text : List Char} {address : Ipv6}
    (h : parse? text = some address) : address.WellFormed := by
  unfold parse? at h
  split at h
  · simp only [Option.bind_eq_bind, Option.bind_eq_some_iff] at h
    obtain ⟨pieces, hpieces, h⟩ := h
    split at h
    · next hlength =>
      cases h
      exact ⟨hlength, lt_of_readGroups? hpieces⟩
    · cases h
  · simp only [Option.bind_eq_bind, Option.bind_eq_some_iff] at h
    obtain ⟨left, hleft, right, hright, h⟩ := h
    split at h
    · next hgiven =>
      cases h
      constructor
      · simp only [List.length_append, List.length_replicate]
        omega
      · simp only [List.forall_mem_append, List.mem_replicate]
        exact ⟨⟨lt_of_readSide? hleft, fun piece hpiece => hpiece.2 ▸ by decide⟩,
          lt_of_readSide? hright⟩
    · cases h

/-! ## Pieces -/

/-- Reading digits does not fail if each of them is one. -/
lemma foldlM_of_isSome {digits : List Char} (h : ∀ c ∈ digits, (hexDigitValue? c).isSome = true)
    (start : Nat) :
    digits.foldlM (fun n c => (hexDigitValue? c).map fun digit => n * 16 + digit) start =
      some (digits.foldl (fun n c => n * 16 + (hexDigitValue? c).getD 0) start) := by
  induction digits generalizing start with
  | nil => rfl
  | cons c rest ih =>
    obtain ⟨hc, hrest⟩ := List.forall_mem_cons.1 h
    obtain ⟨digit, hdigit⟩ := Option.isSome_iff_exists.1 hc
    simp [hdigit, ih hrest]

/-- A piece of sixteen bits is read from its digits. -/
lemma readPiece?_toDigits {piece : Nat} (h : piece < 0x10000) :
    readPiece? (Nat.toDigits 16 piece) = some piece := by
  have hlength : (Nat.toDigits 16 piece).length ≤ 4 :=
    (Nat.length_toDigits_le_iff (by decide) (by decide)).2 h
  have hdigits : ∀ c ∈ Nat.toDigits 16 piece, (hexDigitValue? c).isSome = true := by
    intro c hc
    obtain ⟨digit, hlt, rfl⟩ := exists_of_mem_toDigits (by decide) hc
    rw [hexDigitValue?_digitChar digit hlt, Option.isSome_some]
  rw [readPiece?, if_neg (by simp [Nat.toDigits_ne_nil, hlength]),
    foldlM_of_isSome hdigits, foldl_toDigits (by decide) (by decide)]

/-- The digits of a piece have neither a colon nor a point. -/
lemma notMem_toDigits (piece : Nat) :
    ':' ∉ Nat.toDigits 16 piece ∧ '.' ∉ Nat.toDigits 16 piece := by
  have hdigit : ∀ digit < 16, ':' ≠ Nat.digitChar digit ∧ '.' ≠ Nat.digitChar digit := by decide
  constructor <;>
  · intro h
    obtain ⟨digit, hlt, heq⟩ := exists_of_mem_toDigits (by decide) h
    have := hdigit digit hlt
    simp_all

/-- The groups of digits of pieces are read as the pieces. -/
lemma readGroups?_toDigits (tail : Bool) {pieces : List Nat}
    (h : ∀ piece ∈ pieces, piece < 0x10000) :
    readGroups? tail (pieces.map (Nat.toDigits 16)) = some pieces := by
  induction pieces with
  | nil => rfl
  | cons piece rest ih =>
    obtain ⟨hpiece, hrest⟩ := List.forall_mem_cons.1 h
    cases rest with
    | nil => simp [readGroups?, (notMem_toDigits piece).2, readPiece?_toDigits hpiece]
    | cons next rest =>
      rw [List.map_cons, List.map_cons, readGroups?, ← List.map_cons, ih hrest,
        readPiece?_toDigits hpiece]
      · rfl
      · simp

/-- The characters of pieces between colons. -/
lemma toList_piecesText (pieces : List Nat) :
    (piecesText pieces).toList = [':'].intercalate (pieces.map (Nat.toDigits 16)) := by
  simp [piecesText, pieceText, String.toList_intercalate, Function.comp_def]

/-- Pieces between colons are split at the colons. -/
lemma splitOnChar_piecesText {pieces : List Nat} (hne : pieces ≠ []) :
    splitOnChar ':' (piecesText pieces).toList = pieces.map (Nat.toDigits 16) := by
  rw [toList_piecesText]
  refine splitOnChar_intercalate (by simpa using hne) fun group hgroup => ?_
  obtain ⟨piece, -, rfl⟩ := List.mem_map.1 hgroup
  exact (notMem_toDigits piece).1

/-- The text of some pieces begins with a digit. -/
lemma exists_toList_piecesText (piece : Nat) (rest : List Nat) :
    ∃ c text, (piecesText (piece :: rest)).toList = c :: text ∧ c ≠ ':' := by
  obtain ⟨c, digits, hdigits⟩ := List.exists_cons_of_ne_nil
    (Nat.toDigits_ne_nil (n := piece) (b := 16))
  have hc : c ≠ ':' := by
    rintro rfl
    exact (notMem_toDigits piece).1 (hdigits ▸ List.mem_cons_self)
  cases rest <;> exact ⟨c, _, by simp [toList_piecesText, List.intercalate, hdigits]; rfl, hc⟩

/-- The text of some pieces is not empty. -/
lemma toList_piecesText_ne_nil {pieces : List Nat} (hne : pieces ≠ []) :
    (piecesText pieces).toList ≠ [] := by
  obtain ⟨piece, rest, rfl⟩ := List.exists_cons_of_ne_nil hne
  obtain ⟨c, text, htext, -⟩ := exists_toList_piecesText piece rest
  simp [htext]

/-- The text of pieces on one side of two colons is read as the pieces. -/
lemma readSide?_piecesText (tail : Bool) {pieces : List Nat}
    (h : ∀ piece ∈ pieces, piece < 0x10000) :
    readSide? tail (piecesText pieces).toList = some pieces := by
  by_cases hne : pieces = []
  · subst hne
    simp [toList_piecesText, readSide?]
  · rw [readSide?, if_neg (by simpa using toList_piecesText_ne_nil hne),
      splitOnChar_piecesText hne, readGroups?_toDigits tail h]

/-- The characters of pieces between colons. -/
lemma mem_toList_piecesText {pieces : List Nat} {c : Char}
    (h : c ∈ (piecesText pieces).toList) : c = ':' ∨ ∃ digit < 16, c = Nat.digitChar digit := by
  by_cases hne : pieces = []
  · simp [hne, toList_piecesText] at h
  have hplace : c = ':' ∨ _ := mem_splitOnChar_of_mem h
  refine hplace.imp_right fun hmem => ?_
  obtain ⟨group, hgroup, hc⟩ := hmem
  rw [splitOnChar_piecesText hne] at hgroup
  obtain ⟨piece, -, rfl⟩ := List.mem_map.1 hgroup
  exact exists_of_mem_toDigits (by decide) hc

/-! ## Two colons -/

/-- What has no colon is in front of two colons. -/
lemma splitGap?_append {front : List Char} (h : ':' ∉ front) (rest : List Char) :
    splitGap? (front ++ rest) =
      (splitGap? rest).map fun (before, after) => (front ++ before, after) := by
  induction front with
  | nil => simp
  | cons c front ih =>
    obtain ⟨hc, hfront⟩ := List.ne_and_not_mem_of_not_mem_cons h
    rw [List.cons_append, splitGap?, ih hfront, Option.map_map]
    · rfl
    · rintro _ rfl
      exact absurd rfl hc

/-- A single colon is in front of two colons too. -/
lemma splitGap?_colon {c : Char} (hc : c ≠ ':') (rest : List Char) :
    splitGap? (':' :: c :: rest) =
      (splitGap? (c :: rest)).map fun (before, after) => (':' :: before, after) := by
  rw [splitGap?]
  rintro _ _ heq
  exact absurd (List.cons.inj heq).1 hc

/-- Pieces between colons are in front of two colons. -/
lemma splitGap?_piecesText {pieces : List Nat} (hne : pieces ≠ []) (rest : List Char) :
    splitGap? ((piecesText pieces).toList ++ rest) = (splitGap? rest).map fun (before, after) =>
      ((piecesText pieces).toList ++ before, after) := by
  induction pieces with
  | nil => exact absurd rfl hne
  | cons piece more ih =>
    have hpiece := (notMem_toDigits piece).1
    cases more with
    | nil => simpa [toList_piecesText] using splitGap?_append hpiece rest
    | cons next more =>
      have hcons : (piecesText (piece :: next :: more)).toList =
          Nat.toDigits 16 piece ++ ':' :: (piecesText (next :: more)).toList := by
        simp [toList_piecesText, List.intercalate]
      obtain ⟨c, text, hc, hcolon⟩ := exists_toList_piecesText next more
      have ih := ih (by simp)
      rw [hc, List.cons_append] at ih
      rw [hcons, hc, List.append_assoc, List.cons_append, List.cons_append,
        splitGap?_append hpiece, splitGap?_colon hcolon, ih]
      simp [Option.map_map, Function.comp_def]

/-! ## The longest run of zeros -/

/-- The zeros at the front. -/
lemma replicate_zeroRun (pieces : List Nat) :
    List.replicate (zeroRun pieces) 0 ++ pieces.drop (zeroRun pieces) = pieces := by
  induction pieces with
  | nil => rfl
  | cons piece rest ih =>
    by_cases hzero : piece = 0
    · have hrun : zeroRun (piece :: rest) = zeroRun rest + 1 := by simp [zeroRun, hzero]
      rw [hrun, List.replicate_succ, List.drop_succ_cons, List.cons_append, ih, hzero]
    · have hrun : zeroRun (piece :: rest) = 0 := by simp [zeroRun, hzero]
      rw [hrun]
      rfl

/-- **The longest run of zeros is a part of the pieces.** -/
theorem exists_longestRun (pieces : List Nat) (position : Nat) :
    ∃ front rest, pieces = front ++ List.replicate (longestRun pieces position).2 0 ++ rest ∧
      (longestRun pieces position).1 = position + front.length := by
  induction pieces generalizing position with
  | nil => exact ⟨[], [], rfl, rfl⟩
  | cons piece more ih =>
    rw [longestRun]
    split
    · exact ⟨[], (piece :: more).drop (zeroRun (piece :: more)),
        (replicate_zeroRun _).symm, rfl⟩
    · obtain ⟨front, rest, hmore, hposition⟩ := ih (position + 1)
      refine ⟨piece :: front, rest, ?_, ?_⟩
      · rw [List.cons_append, List.cons_append, ← hmore]
      · rw [hposition, List.length_cons]
        omega

/-! ## Texts -/

/-- Eight pieces between colons are an address. -/
lemma parse?_piecesText {pieces : List Nat} (hlength : pieces.length = count)
    (hlt : ∀ piece ∈ pieces, piece < 0x10000) :
    parse? (piecesText pieces).toList = some ⟨pieces⟩ := by
  have hne : pieces ≠ [] := by
    rintro rfl
    cases hlength
  have hgap : splitGap? (piecesText pieces).toList = none := by
    simpa [splitGap?] using splitGap?_piecesText hne []
  simp [parse?, hgap, splitOnChar_piecesText hne, readGroups?_toDigits true hlt, hlength]

/-- Two colons stand for the zeros that are missing from eight pieces. -/
lemma parse?_gap {front rest : List Nat} {zeros : Nat}
    (hlength : front.length + zeros + rest.length = count) (hzeros : 0 < zeros)
    (hfront : ∀ piece ∈ front, piece < 0x10000) (hrest : ∀ piece ∈ rest, piece < 0x10000) :
    parse? (piecesText front ++ "::" ++ piecesText rest).toList =
      some ⟨front ++ List.replicate zeros 0 ++ rest⟩ := by
  have hcolons : splitGap? (':' :: ':' :: (piecesText rest).toList) =
      some ([], (piecesText rest).toList) := by rw [splitGap?]
  have hgap : splitGap? ((piecesText front).toList ++ ':' :: ':' :: (piecesText rest).toList) =
      some ((piecesText front).toList, (piecesText rest).toList) := by
    by_cases hne : front = []
    · subst hne
      simpa [toList_piecesText] using hcolons
    · simp [splitGap?_piecesText hne, hcolons]
  have htext : (piecesText front ++ "::" ++ piecesText rest).toList =
      (piecesText front).toList ++ ':' :: ':' :: (piecesText rest).toList := by simp
  have hgiven : front.length + rest.length < count := by omega
  have hmissing : count - (front.length + rest.length) = zeros := by omega
  rw [htext, parse?, hgap]
  simp [readSide?_piecesText false hfront, readSide?_piecesText true hrest, hgiven, hmissing]

/-- The text of an address has digits and colons. -/
lemma mem_toList_text {address : Ipv6} {c : Char} (h : c ∈ address.text.toList) :
    c = ':' ∨ ∃ digit < 16, c = Nat.digitChar digit := by
  unfold text at h
  dsimp only at h
  split at h
  · exact mem_toList_piecesText h
  · simp only [String.toList_append, List.mem_append] at h
    rcases h with (hfront | hcolons) | hrest
    · exact mem_toList_piecesText hfront
    · exact .inl (by simpa using hcolons)
    · exact mem_toList_piecesText hrest

/-- **The text of an address is read as the address.**

**Proof sketch.** The longest run of zeros divides the pieces into those in front of it, the zeros,
and those behind it.  If it is left out then the two colons in its place are the first two in a
row, since there is a digit behind every other colon, and as many zeros are put back as are missing
from eight pieces. -/
theorem parse?_text {address : Ipv6} (h : address.WellFormed) :
    parse? address.text.toList = some address := by
  obtain ⟨pieces⟩ := address
  obtain ⟨hlength, hlt⟩ := h
  dsimp only at hlength hlt
  obtain ⟨front, rest, hpieces, hposition⟩ := exists_longestRun pieces 0
  rw [Nat.zero_add] at hposition
  unfold text
  dsimp only
  generalize longestRun pieces 0 = run at hpieces hposition ⊢
  obtain ⟨position, zeros⟩ := run
  dsimp only at hpieces hposition ⊢
  split
  case isTrue hshort => exact parse?_piecesText hlength hlt
  case isFalse hlong =>
    have hfront : pieces.take position = front := by
      rw [hpieces, hposition, List.append_assoc, List.take_left']
      rfl
    have hrest : pieces.drop (position + zeros) = rest := by
      rw [hpieces, hposition, List.drop_left']
      simp
    have hsum : front.length + zeros + rest.length = count := by
      simpa [hpieces, Nat.add_assoc] using hlength
    rw [hfront, hrest, parse?_gap hsum (by omega), ← hpieces]
    · exact fun piece hpiece => hlt piece (by simp [hpieces, hpiece])
    · exact fun piece hpiece => hlt piece (by simp [hpieces, hpiece])

end Ipv6

end RequestRouting
