import Mathlib.Tactic.Lemma
import Mathlib.Tactic.Ring
import RequestRouting.Host.Punycode
import RequestRouting.Proofs.Text.Form

/-!
# Punycode is read back

The code of a text is read as the text, unless the text is so long that its distances might be too
large to be read.  Every distance that the encoder writes takes the decoder from the character
before to the next one.  A code has at most the plain characters of the text, hyphens and digits,
and it is long where the characters of the text are far apart.

## Main definitions

* `Punycode.Coder.Follows` — what an encoder has written leads a decoder to a part of the text.
* `Punycode.maxTextLength` — the length up to which all distances can be read.

## Main results

* `Punycode.readDistance?_digits` — the digits of a distance are read as the distance.
* `Punycode.decodeFrom?_digits` — a distance inserts its character.
* `Punycode.Coder.Follows.level` — a level leads a decoder to the text up to its number.
* `Punycode.decode?_encode` — the code of a text is read as the text.
* `Punycode.mem_encode`, `Punycode.mem_of_decode?` — the characters of codes and of texts.
* `Punycode.le_length_encode` — a text of characters that are far apart has a long code.
-/

set_option autoImplicit false

namespace RequestRouting

namespace Punycode

/-! ## Digits -/

/-- The characters of digits. -/
def digitChars : List Char := "abcdefghijklmnopqrstuvwxyz0123456789".toList

/-- A digit is written with a letter in lower case or a figure. -/
lemma digitChar_mem : ∀ digit < 36, digitChar digit ∈ digitChars := by
  decide

/-- A digit is read back. -/
lemma digitValue?_digitChar : ∀ digit < 36, digitValue? (digitChar digit) = some digit := by
  decide

/-- A threshold is neither zero nor more than the number of letters. -/
lemma threshold_bounds (position bias : Nat) :
    1 ≤ threshold position bias ∧ threshold position bias ≤ 26 := by
  unfold threshold
  omega

/-- The leading digit of a distance that takes more than one. -/
lemma digit_lt (distance : Nat) {t : Nat} (ht : t ≤ 26) :
    t + (distance - t) % (36 - t) < 36 := by
  have := Nat.mod_lt (distance - t) (show 0 < 36 - t by omega)
  omega

/-- A distance is its leading digit and the rest, which has a larger weight. -/
lemma digit_add_mul {distance t : Nat} (h : t ≤ distance) :
    t + (distance - t) % (36 - t) + (distance - t) / (36 - t) * (36 - t) = distance := by
  have := Nat.mod_add_div' (distance - t) (36 - t)
  omega

/-- The digits of a distance are digits. -/
lemma mem_digitChars_of_mem_digits {bias position distance : Nat} {c : Char}
    (h : c ∈ digits bias position distance) : c ∈ digitChars := by
  fun_induction digits bias position distance with
  | case1 position distance t hlt =>
    have ht : t ≤ 26 := (threshold_bounds position bias).2
    obtain rfl := List.mem_singleton.1 h
    exact digitChar_mem distance (by omega)
  | case2 position distance t hlt ih =>
    have ht : t ≤ 26 := (threshold_bounds position bias).2
    rcases List.mem_cons.1 h with rfl | hrest
    · exact digitChar_mem _ (digit_lt distance ht)
    · exact ih hrest

/-- **A distance is read back**, whatever stands behind its digits. -/
theorem readDistance?_digits (bias position distance weight value : Nat) (rest : List Char)
    (hbound : value + distance * weight < 0x100000000) :
    readDistance? bias position weight value (digits bias position distance ++ rest) =
      some (value + distance * weight, rest) := by
  fun_induction digits bias position distance generalizing weight value with
  | case1 position distance t hlt =>
    have ht : t ≤ 26 := (threshold_bounds position bias).2
    have hvalue : digitValue? (digitChar distance) = some distance :=
      digitValue?_digitChar distance (by omega)
    have hsmall : ¬ value + distance * weight ≥ 0x100000000 := by omega
    have hlt : distance < threshold position bias := hlt
    simp only [List.cons_append, List.nil_append, readDistance?, hvalue, Option.bind_eq_bind,
      Option.bind_some, hsmall, hlt, ↓reduceIte]
  | case2 position distance t hlt ih =>
    have ht : t ≤ 26 := (threshold_bounds position bias).2
    have hdigit := digit_lt distance ht
    have hwhole : t + (distance - t) % (36 - t) + (distance - t) / (36 - t) * (36 - t) = distance :=
      digit_add_mul (by omega)
    generalize hd : t + (distance - t) % (36 - t) = digit at *
    generalize hq : (distance - t) / (36 - t) = quotient at *
    have hsplit : value + digit * weight + quotient * (weight * (36 - t)) =
        value + distance * weight := by
      rw [← hwhole]
      ring
    have hvalue := digitValue?_digitChar digit hdigit
    have hsmall : ¬ value + digit * weight ≥ 0x100000000 := by omega
    have hmore : ¬ digit < threshold position bias := by
      show ¬ digit < t
      omega
    rw [List.cons_append, readDistance?]
    simp only [hvalue, Option.bind_eq_bind, Option.bind_some, hsmall, hmore, ↓reduceIte]
    rw [ih (weight * (36 - t)) (value + digit * weight) (by omega), hsplit]

/-- There is no distance without digits. -/
lemma digits_ne_nil (bias position distance : Nat) : digits bias position distance ≠ [] := by
  rw [digits]
  split <;> exact List.cons_ne_nil _ _

/-! ## Decoding a distance -/

/-- **A distance inserts its character.**  The distance leads from the position and the number that
it counts from to those of the character. -/
theorem decodeFrom?_digits (bias : Nat) {index n position distance : Nat} (first : Bool)
    {text : List Char} {c : Char} (hn : n ≤ c.toNat) (hposition : position ≤ text.length)
    (hdistance : index + distance = (c.toNat - n) * (text.length + 1) + position)
    (hbound : distance < 0x100000000) (rest : List Char) :
    decodeFrom? bias index n first text (digits bias 36 distance ++ rest) =
      decodeFrom? (adapt distance (text.length + 1) first) (position + 1) c.toNat false
        (insertAt position c text) rest := by
  have hread : readDistance? bias 36 1 0 (digits bias 36 distance ++ rest) =
      some (distance, rest) := by
    rw [readDistance?_digits bias 36 distance 1 0 rest (by omega)]
    simp
  have hquotient : n + (index + distance) / (text.length + 1) = c.toNat := by
    rw [hdistance, Nat.mul_comm, Nat.mul_add_div (by omega),
      Nat.div_eq_of_lt (Nat.lt_succ_of_le hposition)]
    omega
  have hremainder : (index + distance) % (text.length + 1) = position := by
    rw [hdistance, Nat.mul_comm, Nat.mul_add_mod, Nat.mod_eq_of_lt (Nat.lt_succ_of_le hposition)]
  obtain ⟨digit, digits', hdigits⟩ := List.exists_cons_of_ne_nil (digits_ne_nil bias 36 distance)
  rw [hdigits, List.cons_append] at hread ⊢
  rw [decodeFrom?]
  split
  · rename_i hnone
    rw [hread] at hnone
    cases hnone
  · rename_i distance' after hsome
    obtain ⟨rfl, rfl⟩ : distance = distance' ∧ rest = after := by
      rw [hread] at hsome
      simpa using hsome
    have hvalid : c.toNat.isValidChar := c.valid
    simp only [hquotient, hremainder, hvalid, ↓reduceIte]
    rw [Char.ofNat_toNat]

/-! ## Encoding -/

/-- A length up to which all distances of a text are small enough to be read. -/
def maxTextLength : Nat := 3854

/-- A coder has written digits that lead a decoder to a text, and its distance leads on from there,
to a position of the text and a number.  The argument `basic` is what the decoder begins with. -/
structure Coder.Follows (basic : List Char) (coder : Coder) (n position : Nat)
    (found : List Char) : Prop where
  count : coder.count = found.length
  output : ∀ written ∈ coder.output, ∀ c ∈ written, c ∈ digitChars
  reads : ∃ index last, last ≤ n ∧
    index + coder.delta = (n - last) * (found.length + 1) + position ∧
    ∀ rest, decodeFrom? initialBias 0 0x80 true basic (coder.output.reverse.flatten ++ rest) =
      decodeFrom? coder.bias index last coder.first found rest

namespace Coder.Follows

variable {basic found : List Char} {coder : Coder} {n position : Nat}

/-- A longer distance leads further: by so many positions, or by a whole text to the next number. -/
lemma move (h : Follows basic coder n position found) {steps m position' : Nat} (hm : n ≤ m)
    (hsteps : position + steps = (m - n) * (found.length + 1) + position') :
    Follows basic { coder with delta := coder.delta + steps } m position' found := by
  obtain ⟨index, last, hlast, hdelta, hreads⟩ := h.reads
  refine ⟨h.count, h.output, index, last, hlast.trans hm, ?_, hreads⟩
  have hsum : m - last = (n - last) + (m - n) := by omega
  calc index + (coder.delta + steps)
      = (index + coder.delta) + steps := by omega
    _ = (n - last) * (found.length + 1) + ((m - n) * (found.length + 1) + position') := by omega
    _ = (m - last) * (found.length + 1) + position' := by rw [hsum]; ring

/-- At a character with the number, the distance is written, and it leads a decoder to the text with
that character. -/
lemma write (h : Follows basic coder n position found) {c : Char} (hc : c.toNat = n)
    (hposition : position ≤ found.length) (hshort : found.length ≤ maxTextLength) :
    Follows basic
      { delta := 0
        bias := adapt coder.delta (coder.count + 1) coder.first
        count := coder.count + 1
        first := false
        output := digits coder.bias 36 coder.delta :: coder.output }
      n (position + 1) (insertAt position c found) := by
  obtain ⟨index, last, hlast, hdelta, hreads⟩ := h.reads
  have hlength : (insertAt position c found).length = found.length + 1 := by
    simp only [insertAt, List.length_append, List.length_take, List.length_cons, List.length_drop]
    omega
  refine ⟨by rw [hlength, h.count], ?_, position + 1, n, le_rfl, by simp, fun rest => ?_⟩
  · intro written hwritten
    rcases List.mem_cons.1 hwritten with rfl | hearlier
    · exact fun c hc => mem_digitChars_of_mem_digits hc
    · exact h.output written hearlier
  · -- no distance is longer than all numbers times all positions
    have hbound : coder.delta < 0x100000000 := by
      have hnumber : n - last ≤ 0x10FFFF := by
        have : c.toNat < 0xD800 ∨ 0xDFFF < c.toNat ∧ c.toNat < 0x110000 := c.valid
        omega
      have hproduct : (n - last) * (found.length + 1) ≤ 0x10FFFF * (maxTextLength + 1) :=
        Nat.mul_le_mul hnumber (Nat.succ_le_succ hshort)
      simp only [maxTextLength] at hproduct hshort
      omega
    rw [List.reverse_cons, List.flatten_append, List.append_assoc, hreads, List.flatten_cons,
      List.flatten_nil, List.append_nil,
      decodeFrom?_digits coder.bias coder.first (hc ▸ hlast) hposition (hc ▸ hdelta) hbound, hc,
      h.count]

end Coder.Follows

/-! ## Encoding a level -/

/-- The text that has been coded in the middle of a level: the characters up to the number in front
of a place of the text, and those below the number behind it. -/
def merged (n : Nat) (before after : List Char) : List Char :=
  before.filter (·.toNat ≤ n) ++ after.filter (·.toNat < n)

/-- What has been coded is no longer than the text. -/
lemma length_merged_le (n : Nat) (before after : List Char) :
    (merged n before after).length ≤ (before ++ after).length := by
  simp only [merged, List.length_append]
  exact Nat.add_le_add (List.length_filter_le _ _) (List.length_filter_le _ _)

variable {basic : List Char} {coder : Coder} {n : Nat}

/-- Passing a character keeps the coder in step with the text. -/
lemma Coder.Follows.pass {before after : List Char} {c : Char}
    (h : Follows basic coder n (before.filter (·.toNat ≤ n)).length (merged n before (c :: after)))
    (hshort : (before ++ c :: after).length ≤ maxTextLength) :
    Follows basic (Coder.pass n coder c) n ((before ++ [c]).filter (·.toNat ≤ n)).length
      (merged n (before ++ [c]) after) := by
  rcases lt_trichotomy c.toNat n with hc | hc | hc
  · -- a smaller character has been coded before, and is only counted
    have hmerged : merged n (before ++ [c]) after = merged n before (c :: after) := by
      simp [merged, hc, hc.le]
    rw [hmerged, Coder.pass, if_pos hc]
    refine h.move le_rfl ?_
    simp [hc.le]
  · have hmerged : merged n (before ++ [c]) after =
        insertAt (before.filter (·.toNat ≤ n)).length c (merged n before (c :: after)) := by
      simp [merged, insertAt, hc]
    rw [hmerged, Coder.pass, if_neg (by omega), if_pos hc]
    have hposition : ((before ++ [c]).filter (·.toNat ≤ n)).length =
        (before.filter (·.toNat ≤ n)).length + 1 := by
      simp [hc]
    rw [hposition]
    refine h.write hc ?_ ((length_merged_le n before (c :: after)).trans hshort)
    simp [merged]
  · have hmerged : merged n (before ++ [c]) after = merged n before (c :: after) := by
      simp [merged, hc.not_gt, hc.not_ge]
    rw [hmerged, Coder.pass, if_neg (by omega), if_neg (by omega)]
    have hposition : (before ++ [c]).filter (·.toNat ≤ n) = before.filter (·.toNat ≤ n) := by
      simp [hc.not_ge]
    rw [hposition]
    exact h

/-- A whole pass over the text codes the characters with the number. -/
lemma Coder.Follows.foldl_pass {before after : List Char}
    (h : Follows basic coder n (before.filter (·.toNat ≤ n)).length (merged n before after))
    (hshort : (before ++ after).length ≤ maxTextLength) :
    Follows basic (after.foldl (Coder.pass n) coder) n
      ((before ++ after).filter (·.toNat ≤ n)).length (merged n (before ++ after) []) := by
  induction after generalizing before coder with
  | nil => simpa using h
  | cons c after ih =>
    rw [List.append_cons] at hshort ⊢
    exact ih (h.pass (by simpa using hshort)) hshort

/-- **A level leads a decoder to the text up to its number.** -/
lemma Coder.Follows.level {text : List Char} {last : Nat}
    (h : Follows basic coder last 0 (text.filter (·.toNat < last)))
    (hshort : text.length ≤ maxTextLength) (hn : last ≤ n)
    (hbetween : ∀ c ∈ text, last ≤ c.toNat → n ≤ c.toNat) :
    Follows basic (Coder.level text (coder, last) n).1 (n + 1) 0
      (text.filter (·.toNat < n + 1)) := by
  have hfound : text.filter (·.toNat < last) = text.filter (·.toNat < n) := by
    refine List.filter_congr fun c hc => ?_
    have := hbetween c hc
    simp only [decide_eq_decide]
    omega
  have hstart : Follows basic
      { coder with delta := coder.delta + (n - last) * (coder.count + 1) } n 0
      (merged n [] text) := by
    rw [hfound] at h
    refine h.move hn ?_
    rw [h.count]
    omega
  have hend := @Coder.Follows.foldl_pass basic _ n [] text hstart hshort
  have hmerged : merged n text [] = text.filter (·.toNat < n + 1) := by
    simp only [merged, Nat.lt_succ_iff, List.filter_nil, List.append_nil]
  have hposition : text.filter (·.toNat ≤ n) = text.filter (·.toNat < n + 1) := by
    simp only [Nat.lt_succ_iff]
  rw [List.nil_append, hmerged, hposition] at hend
  refine hend.move (Nat.le_succ n) ?_
  simp

/-! ## Levels -/

/-- What a number is put into has the number, and what there was before. -/
lemma mem_insertOnce {m n : Nat} {levels : List Nat} :
    m ∈ insertOnce n levels ↔ m = n ∨ m ∈ levels := by
  induction levels with
  | nil => simp [insertOnce]
  | cons k rest ih =>
    rw [insertOnce]
    split
    · simp
    · split
      · simp_all
      · rw [List.mem_cons, ih, List.mem_cons]
        exact or_left_comm

/-- Numbers stay in increasing order. -/
lemma pairwise_insertOnce {levels : List Nat} (h : levels.Pairwise (· < ·)) (n : Nat) :
    (insertOnce n levels).Pairwise (· < ·) := by
  induction levels with
  | nil => simp [insertOnce]
  | cons k rest ih =>
    obtain ⟨hk, hrest⟩ := List.pairwise_cons.1 h
    rw [insertOnce]
    split
    · rename_i hlt
      refine List.pairwise_cons.2 ⟨fun m hm => ?_, h⟩
      rcases List.mem_cons.1 hm with rfl | hm
      · exact hlt
      · exact hlt.trans (hk m hm)
    · split
      · exact h
      · refine List.pairwise_cons.2 ⟨fun m hm => ?_, ih hrest⟩
        rcases mem_insertOnce.1 hm with rfl | hm
        · omega
        · exact hk m hm

/-- The numbers of some characters, each of them once and in increasing order. -/
lemma pairwise_foldr_insertOnce (numbers : List Nat) :
    (numbers.foldr insertOnce []).Pairwise (· < ·) := by
  induction numbers with
  | nil => exact List.Pairwise.nil
  | cons n rest ih => exact pairwise_insertOnce ih n

/-- No number is lost. -/
lemma mem_foldr_insertOnce {m : Nat} {numbers : List Nat} :
    m ∈ numbers.foldr insertOnce [] ↔ m ∈ numbers := by
  induction numbers with
  | nil => simp
  | cons n rest ih => rw [List.foldr_cons, mem_insertOnce, ih, List.mem_cons]

/-- The levels of a text lead a decoder to the whole text. -/
lemma Coder.Follows.levels {text : List Char} {levels : List Nat} {last : Nat}
    (h : Follows basic coder last 0 (text.filter (·.toNat < last)))
    (hshort : text.length ≤ maxTextLength) (hsorted : levels.Pairwise (· < ·))
    (hlast : ∀ n ∈ levels, last ≤ n) (hlevels : ∀ c ∈ text, last ≤ c.toNat → c.toNat ∈ levels) :
    ∃ last', Follows basic (levels.foldl (Coder.level text) (coder, last)).1 last' 0 text := by
  induction levels generalizing coder last with
  | nil =>
    refine ⟨last, ?_⟩
    have hall : text.filter (·.toNat < last) = text := by
      refine List.filter_eq_self.2 fun c hc => ?_
      simpa using mt (hlevels c hc) List.not_mem_nil
    rwa [hall] at h
  | cons n rest ih =>
    obtain ⟨hn, hrest⟩ := List.pairwise_cons.1 hsorted
    have hlevel := h.level hshort (hlast n List.mem_cons_self) fun c hc hle => by
      rcases List.mem_cons.1 (hlevels c hc hle) with heq | hmem
      · exact heq.ge
      · exact (hn _ hmem).le
    refine ih hlevel hrest (fun m hm => hn m hm) fun c hc hle => ?_
    rcases List.mem_cons.1 (hlevels c hc (by
      have := hlast n List.mem_cons_self
      omega)) with heq | hmem
    · omega
    · exact hmem

/-! ## The round trip -/

/-- A code is split behind its plain characters, since no digit is a hyphen. -/
lemma splitLast_append (basic : List Char) {written : List Char} (h : '-' ∉ written) :
    splitLast ((if basic.isEmpty then [] else basic ++ ['-']) ++ written) = (basic, written) := by
  have hreverse : '-' ∉ written.reverse := by simpa using h
  cases basic with
  | nil =>
    simp only [List.isEmpty_nil, ↓reduceIte, List.nil_append, splitLast,
      splitFirst?_eq_none hreverse]
  | cons c basic =>
    have hsplit : splitFirst? '-' (((c :: basic) ++ ['-']) ++ written).reverse =
        some (written.reverse, (c :: basic).reverse) := by
      rw [List.reverse_append, List.reverse_append]
      exact splitFirst?_append_cons hreverse _
    obtain ⟨last, front, hfront⟩ :=
      List.exists_cons_of_ne_nil (List.reverse_ne_nil_iff.2 (List.cons_ne_nil c basic))
    simp only [List.isEmpty_cons, Bool.false_eq_true, ↓reduceIte, splitLast]
    rw [hsplit, hfront]
    simp only [List.reverse_reverse, ← hfront]

/-- The code of a text that is not too long leads a decoder to the text. -/
lemma exists_follows {text : List Char} (hshort : text.length ≤ maxTextLength) :
    ∃ coder last, Coder.Follows (text.filter isAscii) coder last 0 text ∧
      encode text = (if (text.filter isAscii).isEmpty then [] else text.filter isAscii ++ ['-']) ++
        coder.output.reverse.flatten := by
  have hmem : ∀ n, n ∈ ((text.filter (!isAscii ·)).map Char.toNat).foldr insertOnce [] ↔
      ∃ c ∈ text, ¬ c.toNat < 0x80 ∧ c.toNat = n := by
    intro n
    simp [mem_foldr_insertOnce, isAscii, and_assoc]
  have hstart : Coder.Follows (text.filter isAscii)
      ⟨0, initialBias, (text.filter isAscii).length, true, []⟩ 0x80 0
      (text.filter (·.toNat < 0x80)) :=
    ⟨rfl, by simp, 0, 0x80, le_rfl, by simp, fun rest => rfl⟩
  obtain ⟨last, hfollows⟩ := hstart.levels hshort (pairwise_foldr_insertOnce _)
    (fun n hn => by
      obtain ⟨c, -, hc, rfl⟩ := (hmem n).1 hn
      omega)
    fun c hc hle => (hmem _).2 ⟨c, hc, by omega, rfl⟩
  exact ⟨_, last, hfollows, rfl⟩

/-- No digit is a hyphen. -/
lemma Coder.Follows.hyphen_notMem {found : List Char} {position : Nat}
    (h : Follows basic coder n position found) : '-' ∉ coder.output.reverse.flatten := by
  intro hhyphen
  obtain ⟨written, hwritten, hc⟩ := List.mem_flatten.1 hhyphen
  exact absurd (h.output written (List.mem_reverse.1 hwritten) _ hc) (by decide)

/-- **Punycode is read back**, if the text is not too long.

**Proof sketch.** At every place of every level, the digits that have been written lead a decoder to
the part of the text that has been coded, and the distance of the coder is the one that leads the
decoder from there to the place. -/
theorem decode?_encode {text : List Char} (hshort : text.length ≤ maxTextLength) :
    decode? (encode text) = some text := by
  obtain ⟨coder, last, hfollows, hencode⟩ := exists_follows hshort
  obtain ⟨index, last, -, -, hreads⟩ := hfollows.reads
  have hall : (text.filter isAscii).all isAscii = true := by simp
  have hread := hreads []
  rw [List.append_nil, decodeFrom?] at hread
  simp only [hencode, decode?, splitLast_append _ hfollows.hyphen_notMem, hall, ↓reduceIte, hread]

/-! ## Characters of codes and of texts -/

/-- A code has the plain characters of the text, hyphens and digits. -/
lemma mem_encode {text : List Char} (hshort : text.length ≤ maxTextLength) {c : Char}
    (h : c ∈ encode text) : c ∈ text ∧ isAscii c ∨ c = '-' ∨ c ∈ digitChars := by
  obtain ⟨coder, last, hfollows, hencode⟩ := exists_follows hshort
  rw [hencode, List.mem_append] at h
  rcases h with hbasic | hdigit
  · split at hbasic
    · cases hbasic
    · rcases List.mem_append.1 hbasic with hplain | hhyphen
      · exact .inl (List.mem_filter.1 hplain)
      · exact .inr (.inl (List.mem_singleton.1 hhyphen))
  · obtain ⟨written, hwritten, hc⟩ := List.mem_flatten.1 hdigit
    exact .inr (.inr (hfollows.output written (List.mem_reverse.1 hwritten) c hc))

/-- The character with a number has the number, if there is one. -/
lemma toNat_ofNat_of_isValidChar {n : Nat} (h : n.isValidChar) : (Char.ofNat n).toNat = n := by
  rw [Char.ofNat, dif_pos h]
  rfl

/-- Distances insert characters beyond ASCII only. -/
lemma mem_of_decodeFrom? {bias index n : Nat} {first : Bool} {found coded text : List Char}
    (h : decodeFrom? bias index n first found coded = some text) (hn : 0x80 ≤ n) {c : Char}
    (hc : c ∈ text) (hascii : isAscii c) : c ∈ found := by
  fun_induction decodeFrom? bias index n first found coded with
  | case1 =>
    cases h
    exact hc
  | case2 => cases h
  | case3 bias index n first found d rest distance after hread count total number hvalid ih =>
    have hnumber : 0x80 ≤ number := hn.trans (Nat.le_add_right n _)
    have hmem := ih h hnumber
    rcases List.mem_append.1 hmem with hfront | hback
    · exact List.mem_of_mem_take hfront
    · rcases List.mem_cons.1 hback with rfl | hback
      · rw [isAscii, toNat_ofNat_of_isValidChar hvalid, decide_eq_true_eq] at hascii
        omega
      · exact List.mem_of_mem_drop hback
  | case4 => cases h

/-- What stands in front of the last hyphen belongs to the code. -/
lemma mem_of_mem_splitLast {coded : List Char} {c : Char} (h : c ∈ (splitLast coded).1) :
    c ∈ coded := by
  unfold splitLast at h
  split at h
  · rename_i after d before hsplit
    have hcoded : coded.reverse = after ++ '-' :: d :: before := eq_of_splitFirst? hsplit
    rw [← List.mem_reverse, hcoded]
    exact List.mem_append_right _ (List.mem_cons_of_mem _ (List.mem_reverse.1 h))
  · cases h

/-- The ASCII characters of a text are those of its code. -/
lemma mem_of_decode? {coded text : List Char} (h : decode? coded = some text) {c : Char}
    (hc : c ∈ text) (hascii : isAscii c) : c ∈ coded := by
  unfold decode? at h
  simp only at h
  split at h
  · exact mem_of_mem_splitLast (mem_of_decodeFrom? h le_rfl hc hascii)
  · cases h

/-! ## Long codes -/

/-- A distance that takes three digits, whatever the bias. -/
lemma three_le_length_digits (bias : Nat) {distance : Nat} (h : 936 ≤ distance) :
    3 ≤ (digits bias 36 distance).length := by
  obtain ⟨hfirst, hfirst'⟩ := threshold_bounds 36 bias
  have hsecond := (threshold_bounds (36 + 36) bias).2
  have hrest : 26 ≤ (distance - threshold 36 bias) / (36 - threshold 36 bias) := by
    rw [Nat.le_div_iff_mul_le (by omega)]
    omega
  have hthird := List.length_pos_of_ne_nil (digits_ne_nil bias (36 + 36 + 36)
    (((distance - threshold 36 bias) / (36 - threshold 36 bias) - threshold (36 + 36) bias) /
      (36 - threshold (36 + 36) bias)))
  rw [digits, if_neg (by omega), digits, if_neg (by omega)]
  simp only [List.length_cons]
  omega

/-- Characters below the number are counted only. -/
lemma foldl_pass_of_lt {before : List Char} (h : ∀ b ∈ before, b.toNat < n) (coder : Coder) :
    before.foldl (Coder.pass n) coder =
      { coder with delta := coder.delta + before.length } := by
  induction before generalizing coder with
  | nil => rfl
  | cons b before ih =>
    obtain ⟨hb, hbefore⟩ := List.forall_mem_cons.1 h
    rw [List.foldl_cons, Coder.pass, if_pos hb, ih hbefore]
    simp only [List.length_cons]
    rw [Nat.add_right_comm, Nat.add_assoc]

/-- Characters above the number are left alone. -/
lemma foldl_pass_of_gt {after : List Char} (h : ∀ a ∈ after, n < a.toNat) (coder : Coder) :
    after.foldl (Coder.pass n) coder = coder := by
  induction after with
  | nil => rfl
  | cons a after ih =>
    obtain ⟨ha, hafter⟩ := List.forall_mem_cons.1 h
    rw [List.foldl_cons, Coder.pass, if_neg (by omega), if_neg (by omega), ih hafter]

/-- In increasing order, only the characters in front of a character are passed before it is
coded, and those behind it are not. -/
lemma level_of_increasing {before after : List Char} {c : Char} (coder : Coder) (last : Nat)
    (hbefore : ∀ b ∈ before, b.toNat < c.toNat) (hafter : ∀ a ∈ after, c.toNat < a.toNat) :
    (Coder.level (before ++ c :: after) (coder, last) c.toNat).2 = c.toNat + 1 ∧
      (Coder.level (before ++ c :: after) (coder, last) c.toNat).1.count = coder.count + 1 ∧
      (Coder.level (before ++ c :: after) (coder, last) c.toNat).1.output =
        digits coder.bias 36
          (coder.delta + (c.toNat - last) * (coder.count + 1) + before.length) :: coder.output := by
  have hcode (coder : Coder) : (before ++ c :: after).foldl (Coder.pass c.toNat) coder =
      { delta := 0
        bias := adapt (coder.delta + before.length) (coder.count + 1) coder.first
        count := coder.count + 1
        first := false
        output := digits coder.bias 36 (coder.delta + before.length) :: coder.output } := by
    rw [List.foldl_append, foldl_pass_of_lt hbefore, List.foldl_cons, foldl_pass_of_gt hafter,
      Coder.pass, if_neg (Nat.lt_irrefl _), if_pos rfl]
  rw [Coder.level]
  dsimp only
  rw [hcode]
  exact ⟨rfl, rfl, rfl⟩

/-- Characters that are far apart are coded with three digits each, except for the first ones.

**Proof sketch.** By induction on the characters that are left.  Before a character is coded, the
coder counts a whole text for each of the numbers in between, so that the distance is at least 28
times the number of characters so far. -/
lemma le_length_foldl_level {before after : List Char} (coder : Coder) (last : Nat)
    (hcount : coder.count = before.length)
    (hpairs : (before ++ after).Pairwise fun b a => b.toNat + 28 < a.toNat)
    (hlast : ∀ c ∈ after, last + 28 ≤ c.toNat)
    (hlong : 3 * before.length ≤ coder.output.flatten.length + 99) :
    3 * (before ++ after).length ≤
      ((after.map Char.toNat).foldl (Coder.level (before ++ after)) (coder,
        last)).1.output.flatten.length + 99 := by
  induction after generalizing before coder last with
  | nil => simpa using hlong
  | cons c after ih =>
    obtain ⟨hbefore, hrest, hcross⟩ := List.pairwise_append.1 hpairs
    obtain ⟨hafter, -⟩ := List.pairwise_cons.1 hrest
    obtain ⟨hnext, hcoded, houtput⟩ := @level_of_increasing before after c coder last
      (fun b hb => by have := hcross b hb c List.mem_cons_self; omega)
      (fun a ha => by have := hafter a ha; omega)
    rw [List.map_cons, List.foldl_cons]
    generalize Coder.level (before ++ c :: after) (coder, last) c.toNat = state
      at hnext hcoded houtput
    obtain ⟨coded, next⟩ := state
    dsimp only at hnext hcoded houtput
    have hc : last + 28 ≤ c.toNat := hlast c List.mem_cons_self
    rw [List.append_cons] at hpairs ⊢
    refine ih coded next (by simp [hcoded, hcount]) hpairs (fun a ha => ?_) ?_
    · have := hafter a ha
      omega
    · rw [houtput, List.flatten_cons, List.length_append, List.length_append, List.length_singleton]
      rcases Nat.lt_or_ge before.length 33 with hfew | hmany
      · omega
      · have hdistance : 28 * 34 ≤ (c.toNat - last) * (coder.count + 1) :=
          Nat.mul_le_mul (by omega) (by omega)
        have hthree := three_le_length_digits coder.bias
          (show 936 ≤ coder.delta + (c.toNat - last) * (coder.count + 1) + before.length by omega)
        omega

/-- Numbers in increasing order are put into a list in their order. -/
lemma foldr_insertOnce_of_pairwise {numbers : List Nat} (h : numbers.Pairwise (· < ·)) :
    numbers.foldr insertOnce [] = numbers := by
  induction numbers with
  | nil => rfl
  | cons n rest ih =>
    obtain ⟨hn, hrest⟩ := List.pairwise_cons.1 h
    rw [List.foldr_cons, ih hrest]
    cases rest with
    | nil => rfl
    | cons m rest => rw [insertOnce, if_pos (hn m List.mem_cons_self)]

/-- **A text of characters that are far apart has a long code.** -/
theorem le_length_encode {text : List Char}
    (hpairs : text.Pairwise fun b a => b.toNat + 28 < a.toNat)
    (hfirst : ∀ c ∈ text, 0x80 + 28 ≤ c.toNat) :
    3 * text.length ≤ (encode text).length + 99 := by
  have hbasic : text.filter isAscii = [] := by
    refine List.filter_eq_nil_iff.2 fun c hc => ?_
    have := hfirst c hc
    simp only [isAscii, decide_eq_true_eq]
    omega
  have hothers : text.filter (!isAscii ·) = text := by
    refine List.filter_eq_self.2 fun c hc => ?_
    have := hfirst c hc
    simp only [isAscii, Bool.not_eq_true', decide_eq_false_iff_not]
    omega
  have hnumbers : (text.map Char.toNat).Pairwise (· < ·) :=
    List.pairwise_map.2 (hpairs.imp fun hlt => by omega)
  have hlevels :=
    @le_length_foldl_level [] text ⟨0, initialBias, 0, true, []⟩ 0x80 rfl hpairs hfirst (by simp)
  simpa [encode, hbasic, hothers, foldr_insertOnce_of_pairwise hnumbers] using hlevels

end Punycode

end RequestRouting
