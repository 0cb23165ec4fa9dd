import RequestRouting.Host.Label
import RequestRouting.Proofs.Unicode.Direction
import RequestRouting.Proofs.Unicode.RangeMap

/-!
# Ideographs

The unified ideographs of the first block stand for themselves: they are neither taken apart nor put
together, they are no marks, and they do not run from right to left.

## Main definitions

* `Unicode.IsIdeograph` — the numbers of the first block.

## Main results

* `Unicode.avoids_rightToLeft`, `Unicode.avoids_marks`, `Unicode.covers_plainTable` — where
  ideographs are listed, and where they are not.
* `Unicode.normalize_eq_self` — a text of ideographs is composed.
-/

set_option autoImplicit false

namespace RequestRouting

namespace Unicode

/-- The number of a unified ideograph of the first block. -/
def IsIdeograph (n : Nat) : Prop := 0x4E00 ≤ n ∧ n ≤ 0x9FFF

/-! ## Tables -/

section Tables

open RangeTable (Avoids Covers avoids_ofText covers_ofText)

set_option maxRecDepth 100000

/-- No ideograph has a combining class. -/
lemma avoids_combiningClasses : ∀ entry ∈ combiningClasses, entry.2.Avoids 0x4E00 0x9FFF := by
  unfold combiningClasses
  simp only [List.forall_mem_cons]
  and_intros
  all_goals first | exact avoids_ofText rfl (by decide +kernel) | exact List.forall_mem_nil _

/-- No ideograph runs from right to left. -/
lemma avoids_rightToLeft :
    rightLetters.Avoids 0x4E00 0x9FFF ∧ arabicLetters.Avoids 0x4E00 0x9FFF ∧
      arabicNumbers.Avoids 0x4E00 0x9FFF :=
  ⟨avoids_ofText rfl (by decide +kernel), avoids_ofText rfl (by decide +kernel),
    avoids_ofText rfl (by decide +kernel)⟩

/-- No ideograph is a mark. -/
lemma avoids_marks :
    nonspacingMark.Avoids 0x4E00 0x9FFF ∧ spacingMark.Avoids 0x4E00 0x9FFF ∧
      enclosingMark.Avoids 0x4E00 0x9FFF :=
  ⟨avoids_ofText rfl (by decide +kernel), avoids_ofText rfl (by decide +kernel),
    avoids_ofText rfl (by decide +kernel)⟩

/-- All ideographs are plain. -/
lemma covers_plainTable : Domain.plainTable.Covers 0x4E00 0x9FFF :=
  covers_ofText rfl (by decide +kernel)

/-- No ideograph has a replacement. -/
lemma replacements_entries :
    ∀ entry ∈ replacements.entries.toList, entry.last < 0x4E00 ∨ 0x9FFF < entry.first :=
  RangeMap.forall_mem_ofText rfl (by decide +kernel)

/-- No ideograph consists of others or is the second part of another character. -/
lemma composites_entries :
    ∀ entry ∈ composites.entries.toList, (entry.last < 0x4E00 ∨ 0x9FFF < entry.first) ∧
      ∀ part ∈ entry.image.tail, part < 0x4E00 ∨ 0x9FFF < part :=
  RangeMap.forall_mem_ofText rfl (by decide +kernel)

end Tables

/-! ## Composition -/

section Composition

variable {n m : Nat}

/-- No ideograph has a combining class. -/
lemma combiningClass_eq_zero (h : IsIdeograph n) : combiningClass n = 0 := by
  refine RangeTable.classOf_induction (P := (· = 0)) (fun entry hentry hcontains => ?_) rfl
  rw [(avoids_combiningClasses entry hentry).contains_eq_false h.1 h.2] at hcontains
  exact absurd hcontains Bool.false_ne_true

/-- No ideograph is taken apart. -/
lemma parts_eq_self (fuel : Nat) (h : IsIdeograph n) : parts fuel n = [n] := by
  have hreplacement : replacements.image? n = none := RangeMap.image?_eq_none fun entry hentry => by
    have := replacements_entries entry hentry
    obtain ⟨hleast, hgreatest⟩ := h
    omega
  have hcomposite : composites.image? n = none := RangeMap.image?_eq_none fun entry hentry => by
    have := (composites_entries entry hentry).1
    obtain ⟨hleast, hgreatest⟩ := h
    omega
  induction fuel with
  | zero => rfl
  | succ fuel ih =>
    have hsyllable : ¬ (0xAC00 ≤ n ∧ n < 0xAC00 + 11172) := by
      have := h.2
      omega
    have hleading : leading n none = (n, []) := rfl
    rw [parts, if_neg hsyllable, hreplacement, Option.getD_none, hcomposite, hleading]
    dsimp only
    rw [ih, List.append_nil]

/-- No character is put together with an ideograph behind it. -/
lemma composite?_eq_none (h : IsIdeograph m) (n : Nat) : composite? n m = none := by
  have hsyllable : syllable? n m = none := by
    obtain ⟨hleast, -⟩ := h
    rw [syllable?, if_neg (by omega), if_neg (by omega)]
  have hsource : composites.source? [n, m] = none := by
    refine RangeMap.source?_eq_none fun entry hentry himage => ?_
    have hpart := (composites_entries entry hentry).2 m (by simp [himage])
    obtain ⟨hleast, hgreatest⟩ := h
    omega
  rw [composite?, hsyllable, hsource, Option.or_none]

variable {numbers : List Nat}

/-- Ideographs are not taken apart. -/
lemma decompose_eq_self (h : ∀ n ∈ numbers, IsIdeograph n) : decompose numbers = numbers := by
  induction numbers with
  | nil => rfl
  | cons n rest ih =>
    obtain ⟨hn, hrest⟩ := List.forall_mem_cons.1 h
    rw [decompose, List.flatMap_cons, parts_eq_self 3 hn]
    exact congrArg (n :: ·) (ih hrest)

/-- Ideographs are in canonical order. -/
lemma reorder_eq_self (h : ∀ n ∈ numbers, IsIdeograph n) : reorder numbers = numbers := by
  induction numbers with
  | nil => rfl
  | cons n rest ih =>
    obtain ⟨-, hrest⟩ := List.forall_mem_cons.1 h
    rw [reorder, ih hrest]
    cases rest with
    | nil => rfl
    | cons m rest =>
      rw [insertMark, combiningClass_eq_zero (hrest m List.mem_cons_self), if_neg (by omega)]

/-- Ideographs are not put together. -/
lemma composeAfter_eq_cons (n : Nat) (h : ∀ m ∈ numbers, IsIdeograph m) :
    composeAfter n [] numbers = n :: numbers := by
  induction numbers generalizing n with
  | nil => rfl
  | cons m rest ih =>
    obtain ⟨hm, hrest⟩ := List.forall_mem_cons.1 h
    have hjoined : joined? n [] m = none := by
      rw [joined?, composite?_eq_none hm, ite_self]
    rw [composeAfter, hjoined, if_neg (by decide), if_pos (combiningClass_eq_zero hm),
      ih m hrest, List.reverse_nil, List.singleton_append]

/-- **Ideographs are composed.** -/
theorem normalize_eq_self {text : List Char} (h : ∀ c ∈ text, IsIdeograph c.toNat) :
    normalize text = text := by
  have hnumbers : ∀ n ∈ text.map Char.toNat, IsIdeograph n := by simpa using h
  have hcompose : compose (text.map Char.toNat) = text.map Char.toNat := by
    cases text with
    | nil => rfl
    | cons c rest => exact composeAfter_eq_cons _ (List.forall_mem_cons.1 hnumbers).2
  unfold normalize
  split
  · rfl
  · rw [decompose_eq_self hnumbers, reorder_eq_self hnumbers, hcompose, List.map_map]
    refine (List.map_congr_left fun c _ => ?_).trans (List.map_id _)
    exact Char.ofNat_toNat c

end Composition

end Unicode

end RequestRouting
