import Mathlib.Tactic.Lemma
import RequestRouting.Text.Utf8

/-!
# UTF-8 is read back

What the octets of a text stand for is the text.

## Main results

* `Utf8.start_two`, `Utf8.start_three`, `Utf8.start_four` — what the first octet of a character of
  several octets begins.
* `Utf8.decode?_encode` — the octets of a text are UTF-8 throughout and read as the text.
* `Utf8.decodeLossy_encode` — the octets of a text are read back as the text.

## Implementation notes

A character with the number `v` is written in groups of six bits: the last octet carries `v % 64`,
the one before it `v / 64 % 64`, and so on, and the first octet carries what is left.
-/

set_option autoImplicit false

namespace RequestRouting

namespace Utf8

/-! ## First octets -/

/-- The first of two octets. -/
lemma start_two {v : Nat} (h : 0x80 ≤ v) (h' : v ≤ 0x7FF) :
    start (v / 64 + 0xC0) = .more ⟨v / 64, 1, 0x80, 0xBF⟩ := by
  have hleast : 0xC2 ≤ v / 64 + 0xC0 := by omega
  have hgreatest : v / 64 + 0xC0 ≤ 0xDF := by omega
  have hmore : ¬ v / 64 + 0xC0 ≤ 0x7F := by omega
  simp [start, hmore, hleast, hgreatest]

/-- The first of three octets, and the range in which the second has to lie. -/
lemma start_three {v : Nat} (h : 0x800 ≤ v) (h' : v ≤ 0xFFFF) (hv : v < 0xD800 ∨ 0xDFFF < v) :
    ∃ least greatest, start (v / 4096 + 0xE0) = .more ⟨v / 4096, 2, least, greatest⟩ ∧
      least ≤ v / 64 % 64 + 0x80 ∧ v / 64 % 64 + 0x80 ≤ greatest := by
  have hgreatest : v / 4096 ≤ 15 := by omega
  rcases Nat.eq_zero_or_pos (v / 4096) with hzero | hpos
  · -- Shorter forms are ruled out: a character this small has two octets at most.
    refine ⟨0xA0, 0xBF, by simp [start, hzero], by omega, by omega⟩
  · by_cases hsurrogate : v / 4096 = 13
    · -- The numbers from `0xD800` to `0xDFFF` are no characters.
      refine ⟨0x80, 0x9F, by simp [start, hsurrogate], by omega, by omega⟩
    · have hbig : ¬ v / 4096 + 0xE0 ≤ 0x7F := by omega
      have hnotTwo : ¬ (0xC2 ≤ v / 4096 + 0xE0 ∧ v / 4096 + 0xE0 ≤ 0xDF) := by omega
      have hne : v / 4096 ≠ 0 := by omega
      have hrange : 0xE1 ≤ v / 4096 + 0xE0 ∧ v / 4096 + 0xE0 ≤ 0xEF := by omega
      refine ⟨0x80, 0xBF, ?_, by omega, by omega⟩
      simp only [start, hbig, hnotTwo, hrange]
      simp [hne, hsurrogate]

/-- The first of four octets, and the range in which the second has to lie. -/
lemma start_four {v : Nat} (h : 0x10000 ≤ v) (h' : v ≤ 0x10FFFF) :
    ∃ least greatest, start (v / 262144 + 0xF0) = .more ⟨v / 262144, 3, least, greatest⟩ ∧
      least ≤ v / 4096 % 64 + 0x80 ∧ v / 4096 % 64 + 0x80 ≤ greatest := by
  have hgreatest : v / 262144 ≤ 4 := by omega
  rcases Nat.eq_zero_or_pos (v / 262144) with hzero | hpos
  · exact ⟨0x90, 0xBF, by simp [start, hzero], by omega, by omega⟩
  · by_cases hlast : v / 262144 = 4
    · -- No character is beyond `0x10FFFF`.
      exact ⟨0x80, 0x8F, by simp [start, hlast], by omega, by omega⟩
    · obtain hone | htwo | hthree : v / 262144 = 1 ∨ v / 262144 = 2 ∨ v / 262144 = 3 := by omega
      · exact ⟨0x80, 0xBF, by simp [start, hone], by omega, by omega⟩
      · exact ⟨0x80, 0xBF, by simp [start, htwo], by omega, by omega⟩
      · exact ⟨0x80, 0xBF, by simp [start, hthree], by omega, by omega⟩

/-! ## Octets that follow -/

/-- The last octet that a character is owed completes it. -/
lemma decodeFrom?_last {bits least greatest n : Nat} (h : least ≤ n % 64 + 0x80)
    (h' : n % 64 + 0x80 ≤ greatest) (rest : List UInt8) :
    decodeFrom? (some ⟨bits, 1, least, greatest⟩) (UInt8.ofNat (n % 64 + 0x80) :: rest) =
      (decodeFrom? none rest).map (Char.ofNat (bits * 64 + n % 64) :: ·) := by
  have hoctet : n % 64 + 0x80 < 256 := by omega
  simp only [decodeFrom?, Pending.next?, UInt8.toNat_ofNat_of_lt' hoctet]
  simp [h, h']

/-- Any other octet adds its bits. -/
lemma decodeFrom?_more {bits owed least greatest n : Nat} (howed : 1 < owed)
    (h : least ≤ n % 64 + 0x80) (h' : n % 64 + 0x80 ≤ greatest) (rest : List UInt8) :
    decodeFrom? (some ⟨bits, owed, least, greatest⟩) (UInt8.ofNat (n % 64 + 0x80) :: rest) =
      decodeFrom? (some ⟨bits * 64 + n % 64, owed - 1, 0x80, 0xBF⟩) rest := by
  have hoctet : n % 64 + 0x80 < 256 := by omega
  simp only [decodeFrom?, Pending.next?, UInt8.toNat_ofNat_of_lt' hoctet]
  simp [h, h', Nat.not_le.2 howed]

/-! ## Characters -/

/-- The first octet of a character of several octets begins it. -/
lemma decodeFrom?_start {n : Nat} {pending : Pending} (h : n < 256)
    (hstart : start n = .more pending) (rest : List UInt8) :
    decodeFrom? none (UInt8.ofNat n :: rest) = decodeFrom? (some pending) rest := by
  simp only [decodeFrom?, UInt8.toNat_ofNat_of_lt' h, hstart]

/-- **The octets of a character are read back as the character.**

**Proof sketch.** By the number of octets.  The bits that the octets carry add up to the number of
the character again. -/
theorem decodeFrom?_encodeChar (c : Char) (rest : List UInt8) :
    decodeFrom? none (encodeChar c ++ rest) =
      (decodeFrom? none rest).map (c :: ·) := by
  have hvalid : c.val.toNat < 0xD800 ∨ 0xDFFF < c.val.toNat ∧ c.val.toNat < 0x110000 := c.valid
  have hchar : Char.ofNat c.val.toNat = c := Char.ofNat_toNat c
  unfold encodeChar String.utf8EncodeChar
  generalize c.val.toNat = v at hvalid hchar
  dsimp only
  split
  · next hone =>
    have hstart : start v = .whole (Char.ofNat v) := if_pos hone
    have hoctet : v < 256 := by omega
    simp only [List.cons_append, List.nil_append, decodeFrom?, UInt8.toNat_ofNat_of_lt' hoctet,
      hstart, hchar]
  split
  · next hone htwo =>
    have hbits : v / 64 * 64 + v % 64 = v := by omega
    have hfirst : v / 64 % 0x20 + 0xC0 = v / 64 + 0xC0 := by omega
    rw [hfirst, List.cons_append, decodeFrom?_start (by omega) (start_two (by omega) htwo),
      List.cons_append, decodeFrom?_last (by omega) (by omega), hbits, hchar]
    rfl
  split
  · next hone htwo hthree =>
    have hbits : (v / 4096 * 64 + v / 64 % 64) * 64 + v % 64 = v := by omega
    have hfirst : v / 4096 % 0x10 + 0xE0 = v / 4096 + 0xE0 := by omega
    obtain ⟨least, greatest, hstart, hleast, hgreatest⟩ :=
      start_three (v := v) (by omega) hthree (by omega)
    rw [hfirst, List.cons_append, decodeFrom?_start (by omega) hstart, List.cons_append,
      decodeFrom?_more (by omega) hleast hgreatest, List.cons_append,
      decodeFrom?_last (by omega) (by omega), hbits, hchar]
    rfl
  · next hone htwo hthree =>
    have hbits : ((v / 262144 * 64 + v / 4096 % 64) * 64 + v / 64 % 64) * 64 + v % 64 = v := by
      omega
    have hfirst : v / 262144 % 0x08 + 0xF0 = v / 262144 + 0xF0 := by omega
    obtain ⟨least, greatest, hstart, hleast, hgreatest⟩ :=
      start_four (v := v) (by omega) (by omega)
    rw [hfirst, List.cons_append, decodeFrom?_start (by omega) hstart, List.cons_append,
      decodeFrom?_more (by omega) hleast hgreatest, List.cons_append,
      decodeFrom?_more (by omega) (by omega) (by omega), List.cons_append,
      decodeFrom?_last (by omega) (by omega), hbits, hchar]
    rfl

/-- Octets that are UTF-8 throughout are read without replacements. -/
lemma decodeFrom_of_decodeFrom? {pending : Option Pending} {octets : List UInt8}
    {text : List Char} (h : decodeFrom? pending octets = some text) :
    decodeFrom pending octets = text := by
  fun_induction decodeFrom? pending octets generalizing text with
  | case1 => simpa [decodeFrom] using h
  | case2 => cases h
  | case3 b rest c hstart ih =>
    obtain ⟨found, hfound, rfl⟩ := Option.map_eq_some_iff.1 h
    simp only [decodeFrom, hstart, ih hfound]
  | case4 b rest pending hstart ih => simp only [decodeFrom, hstart, ih h]
  | case5 => cases h
  | case6 pending b rest c hnext ih =>
    obtain ⟨found, hfound, rfl⟩ := Option.map_eq_some_iff.1 h
    simp only [decodeFrom, hnext, ih hfound]
  | case7 pending b rest pending' hnext ih => simp only [decodeFrom, hnext, ih h]
  | case8 => cases h

/-- **The octets of a text are read as the text.** -/
theorem decode?_encode (text : List Char) : decode? (encode text) = some text := by
  induction text with
  | nil => rfl
  | cons c rest ih =>
    have hencode : encode (c :: rest) = encodeChar c ++ encode rest := rfl
    rw [hencode, decode?, decodeFrom?_encodeChar]
    exact congrArg (Option.map (c :: ·)) ih

/-- **The octets of a text are read back as the text.** -/
theorem decodeLossy_encode (text : List Char) : decodeLossy (encode text) = text :=
  decodeFrom_of_decodeFrom? (decode?_encode text)

end Utf8

end RequestRouting
