import RequestRouting.Proofs.Text.Utf8
import RequestRouting.Text.Percent

/-!
# Percent encoding is read back

An encoded text is made of unreserved characters and of escapes, so it has no slash; it is empty
only if the text is, and it is decoded to the text, whatever characters the text is made of.

## Main definitions

* `Percent.unreserved`, `Percent.hexDigits` — the unreserved characters, and the digits of escapes.
* `Percent.Encoded` — texts that are made of unreserved characters and of escapes.

## Main results

* `Percent.encoded_encodeChars` — what an encoded text is made of.
* `Percent.notMem_encodeChars` — an encoded text has no other reserved character than the percent
  sign, and in particular no slash.
* `Percent.encodeChars_eq_nil_iff` — only the empty text has an empty encoded form.
* `Percent.decodeOctets_encode` — a text without percent signs is read as its octets.
* `Percent.decodeChars_encodeChars`, `Percent.decode_encode` — an encoded text is decoded to the
  text.
* `Percent.encode_injective` — different texts are encoded differently.
-/

set_option autoImplicit false

namespace RequestRouting

namespace Percent

/-! ## Characters of encoded texts -/

/-- The characters that stand for themselves are ASCII characters. -/
lemma toNat_le_of_isUnreserved {c : Char} (h : isUnreserved c = true) : c.toNat ≤ 0x7F := by
  simp only [isUnreserved, Bool.or_eq_true, beq_iff_eq] at h
  obtain (((h | rfl) | rfl) | rfl) | rfl := h
  · change ((decide ('A'.val ≤ c.val ∧ c.val ≤ 'Z'.val) ||
      (decide ('a'.val ≤ c.val) && decide (c.val ≤ 'z'.val))) ||
      (decide ('0'.val ≤ c.val) && decide (c.val ≤ '9'.val))) = true at h
    simp only [Bool.or_eq_true, Bool.and_eq_true, decide_eq_true_eq, UInt32.le_iff_toNat_le] at h
    have hc : c.toNat = c.val.toNat := rfl
    have hZ : 'Z'.val.toNat = 90 := rfl
    have hz : 'z'.val.toNat = 122 := rfl
    have h9 : '9'.val.toNat = 57 := rfl
    omega
  all_goals decide

/-- The unreserved characters: letters, digits and four marks. -/
def unreserved : List Char :=
  "ABCDEFGHIJKLMNOPQRSTUVWXYZabcdefghijklmnopqrstuvwxyz0123456789-._~".toList

/-- The characters that stand for themselves are the unreserved ones. -/
lemma isUnreserved_iff {c : Char} : isUnreserved c = true ↔ c ∈ unreserved := by
  constructor
  · intro h
    have hascii : ∀ n < 128, isUnreserved (Char.ofNat n) = true → Char.ofNat n ∈ unreserved := by
      decide +kernel
    have hle := toNat_le_of_isUnreserved h
    have hmem := hascii c.toNat (by omega)
    rw [Char.ofNat_toNat] at hmem
    exact hmem h
  · have hall : unreserved.all isUnreserved = true := by decide +kernel
    exact List.all_eq_true.1 hall c

/-- The hexadecimal digits, with the letters in upper case. -/
def hexDigits : List Char := "0123456789ABCDEF".toList

/-- Digits of escapes are in upper case. -/
lemma hexDigit_mem_hexDigits : ∀ n < 16, hexDigit n ∈ hexDigits := by decide

/-- A text is made of unreserved characters and of escapes, each a percent sign and two upper-case
hexadecimal digits. -/
inductive Encoded : List Char → Prop where
  | nil : Encoded []
  | char {c : Char} {rest : List Char} (hc : c ∈ unreserved) (h : Encoded rest) :
    Encoded (c :: rest)
  | escape {high low : Char} {rest : List Char} (hhigh : high ∈ hexDigits) (hlow : low ∈ hexDigits)
      (h : Encoded rest) : Encoded ('%' :: high :: low :: rest)

/-- Escapes of octets may stand in front of such a text. -/
lemma Encoded.escapeOctets_append {rest : List Char} (h : Encoded rest) (octets : List UInt8) :
    Encoded (octets.flatMap escapeOctet ++ rest) := by
  induction octets with
  | nil => exact h
  | cons octet octets ih =>
    have hlt : octet.toNat < 256 := octet.toNat_lt
    rw [List.flatMap_cons, List.append_assoc]
    exact .escape (hexDigit_mem_hexDigits _ (by omega)) (hexDigit_mem_hexDigits _ (by omega)) ih

/-- **An encoded text is made of unreserved characters and of escapes.** -/
theorem encoded_encodeChars (text : List Char) : Encoded (encodeChars text) := by
  induction text with
  | nil => exact .nil
  | cons c rest ih =>
    rw [encodeChars, List.flatMap_cons, encodeChar]
    split
    · next hc => exact .char (isUnreserved_iff.1 hc) ih
    · exact ih.escapeOctets_append _

/-- Hexadecimal digits are unreserved. -/
lemma hexDigits_subset : hexDigits ⊆ unreserved := by decide

/-- Such a text has no characters other than percent signs and unreserved ones. -/
lemma Encoded.of_mem {text : List Char} (h : Encoded text) {c : Char} (hc : c ∈ text) :
    c = '%' ∨ c ∈ unreserved := by
  induction h with
  | nil => cases hc
  | char hfirst _ ih =>
    rcases List.mem_cons.1 hc with rfl | hrest
    · exact .inr hfirst
    · exact ih hrest
  | escape hhigh hlow _ ih =>
    simp only [List.mem_cons] at hc
    rcases hc with rfl | rfl | rfl | hrest
    · exact .inl rfl
    · exact .inr (hexDigits_subset hhigh)
    · exact .inr (hexDigits_subset hlow)
    · exact ih hrest

/-- An encoded text has no other reserved character than the percent sign. -/
theorem notMem_encodeChars {mark : Char} (hmark : mark ∉ unreserved) (hpercent : mark ≠ '%')
    (text : List Char) : mark ∉ encodeChars text := fun hmem =>
  ((encoded_encodeChars text).of_mem hmem).elim hpercent hmark

/-- An encoded text has no slash. -/
theorem slash_notMem_encodeChars (text : List Char) : '/' ∉ encodeChars text :=
  notMem_encodeChars (by decide) (by decide) text

/-- Characters that stand for themselves are not changed. -/
lemma encodeChars_of_isUnreserved {text : List Char} (h : ∀ c ∈ text, isUnreserved c = true) :
    encodeChars text = text := by
  induction text with
  | nil => rfl
  | cons c rest ih =>
    obtain ⟨hc, hrest⟩ := List.forall_mem_cons.1 h
    have hrest' : rest.flatMap encodeChar = rest := ih hrest
    rw [encodeChars, List.flatMap_cons, hrest', encodeChar, if_pos hc, List.singleton_append]

/-- An encoded character is not empty. -/
lemma encodeChar_ne_nil (c : Char) : encodeChar c ≠ [] := by
  unfold encodeChar
  split
  · exact List.cons_ne_nil _ _
  · have hne : Utf8.encodeChar c ≠ [] := String.utf8EncodeChar_ne_nil
    obtain ⟨octet, rest, heq⟩ := List.exists_cons_of_ne_nil hne
    simp [heq, escapeOctet]

/-- Only the empty text has an empty encoded form. -/
theorem encodeChars_eq_nil_iff {text : List Char} : encodeChars text = [] ↔ text = [] := by
  cases text with
  | nil => exact Iff.rfl
  | cons c rest => simp [encodeChars, encodeChar_ne_nil]

/-! ## Decoding -/

/-- Hexadecimal digits are one octet each. -/
lemma encodeChar_hexDigit :
    ∀ n < 16, Utf8.encodeChar (hexDigit n) = [UInt8.ofNat (hexDigit n).toNat] := by decide

/-- Hexadecimal digits are read back. -/
lemma hexValue?_hexDigit :
    ∀ n < 16, hexValue? (UInt8.ofNat (hexDigit n).toNat) = some (UInt8.ofNat n) := by decide

/-- An octet other than the percent sign stands for itself. -/
lemma decodeOctets_cons {octet : UInt8} (h : octet ≠ 37) (rest : List UInt8) :
    decodeOctets (octet :: rest) = octet :: decodeOctets rest := by
  rw [decodeOctets]
  intro high low rest' heq
  exact absurd heq h

/-- An escape is read back as its octet. -/
lemma decodeOctets_escapeOctet (octet : UInt8) (rest : List UInt8) :
    decodeOctets (Utf8.encode (escapeOctet octet) ++ rest) = octet :: decodeOctets rest := by
  have hlt : octet.toNat < 256 := octet.toNat_lt
  have hhigh : octet.toNat / 16 < 16 := by omega
  have hlow : octet.toNat % 16 < 16 := by omega
  have hvalue : UInt8.ofNat (octet.toNat / 16) * 16 + UInt8.ofNat (octet.toNat % 16) = octet := by
    apply UInt8.toNat_inj.1
    simp
    omega
  have hpercent : Utf8.encodeChar '%' = [37] := by decide
  simp only [Utf8.encode, escapeOctet, List.flatMap_cons, List.flatMap_nil, hpercent,
    encodeChar_hexDigit _ hhigh, encodeChar_hexDigit _ hlow, List.cons_append, List.nil_append,
    List.append_nil, decodeOctets, hexValue?_hexDigit _ hhigh, hexValue?_hexDigit _ hlow, hvalue]

/-- Escapes one after another are read back as their octets. -/
lemma decodeOctets_escapeOctets (octets rest : List UInt8) :
    decodeOctets (Utf8.encode (octets.flatMap escapeOctet) ++ rest) =
      octets ++ decodeOctets rest := by
  induction octets with
  | nil => rfl
  | cons octet octets ih =>
    have hencode : Utf8.encode ((octet :: octets).flatMap escapeOctet) =
        Utf8.encode (escapeOctet octet) ++ Utf8.encode (octets.flatMap escapeOctet) := by
      simp [Utf8.encode]
    rw [hencode, List.append_assoc, decodeOctets_escapeOctet, ih, List.cons_append]

/-- Octets without a percent sign stand for themselves. -/
lemma decodeOctets_append {front : List UInt8} (h : 37 ∉ front) (rest : List UInt8) :
    decodeOctets (front ++ rest) = front ++ decodeOctets rest := by
  induction front with
  | nil => rfl
  | cons octet front ih =>
    obtain ⟨hne, hfront⟩ := List.ne_and_not_mem_of_not_mem_cons h
    rw [List.cons_append, decodeOctets_cons hne.symm, ih hfront, List.cons_append]

/-- Only the percent sign has its octet. -/
lemma percent_notMem_encodeChar {c : Char} (h : c ≠ '%') : 37 ∉ Utf8.encodeChar c := by
  have hc : c.toNat ≠ 37 := fun heq => h (Char.ext (UInt32.toNat_inj.1 heq))
  have hvalid : c.val.toNat < 0xD800 ∨ 0xDFFF < c.val.toNat ∧ c.val.toNat < 0x110000 := c.valid
  change c.val.toNat ≠ 37 at hc
  unfold Utf8.encodeChar String.utf8EncodeChar
  generalize c.val.toNat = v at hc hvalid
  have hoctet {n : Nat} (hlt : n < 256) (hne : n ≠ 37) : (37 : UInt8) ≠ UInt8.ofNat n := by
    intro heq
    have hval := congrArg UInt8.toNat heq
    rw [UInt8.toNat_ofNat_of_lt' hlt] at hval
    exact hne hval.symm
  dsimp only
  -- The octets of longer characters begin at `0x80`.
  split
  · simpa only [List.mem_singleton] using hoctet (by omega) hc
  split
  · simp only [List.mem_cons, List.not_mem_nil, or_false, not_or]
    exact ⟨hoctet (by omega) (by omega), hoctet (by omega) (by omega)⟩
  split
  · simp only [List.mem_cons, List.not_mem_nil, or_false, not_or]
    exact ⟨hoctet (by omega) (by omega), hoctet (by omega) (by omega),
      hoctet (by omega) (by omega)⟩
  · simp only [List.mem_cons, List.not_mem_nil, or_false, not_or]
    exact ⟨hoctet (by omega) (by omega), hoctet (by omega) (by omega),
      hoctet (by omega) (by omega), hoctet (by omega) (by omega)⟩

/-- A text without percent signs is read as its octets. -/
lemma decodeOctets_encode {text : List Char} (h : '%' ∉ text) :
    decodeOctets (Utf8.encode text) = Utf8.encode text := by
  have hnot : 37 ∉ Utf8.encode text := by
    intro hmem
    obtain ⟨c, hc, hoctet⟩ := List.mem_flatMap.1 hmem
    exact percent_notMem_encodeChar (fun heq => h (heq ▸ hc)) hoctet
  simpa [decodeOctets] using decodeOctets_append hnot []

/-- An encoded character is read back as its octets. -/
lemma decodeOctets_encodeChar (c : Char) (rest : List UInt8) :
    decodeOctets (Utf8.encode (encodeChar c) ++ rest) =
      Utf8.encodeChar c ++ decodeOctets rest := by
  unfold encodeChar
  split
  · next h =>
    have hne : c ≠ '%' := by
      rintro rfl
      revert h
      decide
    simpa [Utf8.encode] using decodeOctets_append (percent_notMem_encodeChar hne) rest
  · exact decodeOctets_escapeOctets _ _

/-- An encoded text is read back as its octets. -/
lemma decodeOctets_encodeChars (text : List Char) :
    decodeOctets (Utf8.encode (encodeChars text)) = Utf8.encode text := by
  induction text with
  | nil => rfl
  | cons c rest ih =>
    have hencode : Utf8.encode (encodeChars (c :: rest)) =
        Utf8.encode (encodeChar c) ++ Utf8.encode (encodeChars rest) := by
      simp [Utf8.encode, encodeChars]
    rw [hencode, decodeOctets_encodeChar, ih]
    rfl

/-- **An encoded text is decoded to the text.** -/
theorem decodeChars_encodeChars (text : List Char) : decodeChars (encodeChars text) = text := by
  rw [decodeChars, decodeOctets_encodeChars, Utf8.decodeLossy_encode]

/-! ## Texts -/

/-- The characters of an encoded text. -/
lemma toList_encode (text : String) : (encode text).toList = encodeChars text.toList :=
  String.toList_ofList

/-- An encoded text has no other reserved character than the percent sign, as strings. -/
lemma notMem_encode {mark : Char} (hmark : mark ∉ unreserved) (hpercent : mark ≠ '%')
    (text : String) : mark ∉ (encode text).toList := by
  rw [toList_encode]
  exact notMem_encodeChars hmark hpercent text.toList

/-- **An encoded text is decoded to the text**, as strings. -/
theorem decode_encode (text : String) : decode (encode text) = text := by
  rw [decode, toList_encode, decodeChars_encodeChars, String.ofList_toList]

/-- Different texts are encoded differently. -/
theorem encode_injective : Function.Injective encode :=
  Function.LeftInverse.injective decode_encode

/-- Some encoded text is empty only if some text is. -/
lemma nil_mem_map_encode {texts : List String} :
    [] ∈ (texts.map encode).map String.toList ↔ "" ∈ texts := by
  simp only [List.map_map, List.mem_map, Function.comp_apply, toList_encode,
    encodeChars_eq_nil_iff, String.toList_eq_nil_iff]
  simp

end Percent

end RequestRouting
