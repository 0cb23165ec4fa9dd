import Mathlib.Algebra.Group.Nat.Defs
import Mathlib.Data.List.Chain
import Mathlib.Tactic.Lemma
import RequestRouting.Unicode.RangeTable

/-!
# Tables of ranges are sets

Membership in a table is membership in one of its ranges: the binary search finds no other numbers,
and in a table in increasing order it finds all of them.

## Main definitions

* `RangeTable.listed` — the ranges that a text lists, from the front to the end.
* `RangeTable.Before` — the order of the ranges of a table.
* `RangeTable.Avoids`, `RangeTable.Covers` — tables without, and with all, numbers of an interval.

## Main results

* `RangeTable.toList_ofText` — the ranges of the table that a text lists.
* `RangeTable.Avoids.contains_eq_false` — no table contains numbers that its ranges avoid.
* `RangeTable.contains_of_mem` — a table in increasing order contains the numbers of its ranges.
-/

set_option autoImplicit false

namespace RequestRouting

namespace Unicode

namespace RangeTable

/-! ## Written tables -/

/-- A range with one more character. -/
def Entry.add (entry : Entry) (c : Char) : Entry :=
  if c = '-' then { entry with last := some 0 }
  else match entry.last with
    | none => ⟨entry.first * 16 + upperHexValue c, none, true⟩
    | some last => { entry with last := some (last * 16 + upperHexValue c) }

/-- The range that has been read, if there is one. -/
def Entry.range (entry : Entry) : List (Nat × Nat) :=
  if entry.started then [(entry.first, entry.last.getD entry.first)] else []

/-- The ranges that a text lists after the beginning of one. -/
def listed (entry : Entry) : List Char → List (Nat × Nat)
  | [] => entry.range
  | c :: rest =>
    if c = ' ' || c = '\n' then entry.range ++ listed .blank rest else listed (entry.add c) rest

/-- A range that is finished comes behind those before it. -/
lemma toList_close (entry : Entry) (ranges : Array (Nat × Nat)) :
    (entry.close ranges).toList = ranges.toList ++ entry.range := by
  unfold Entry.close Entry.range
  split <;> simp

/-- A character ends a range or belongs to it. -/
lemma readChar_eq (entry : Entry) (ranges : Array (Nat × Nat)) (c : Char) :
    readChar (entry, ranges) c =
      if c = ' ' || c = '\n' then (.blank, entry.close ranges) else (entry.add c, ranges) := by
  simp only [readChar, Entry.add]
  split
  · rfl
  split
  · rfl
  cases entry.last <;> rfl

/-- Reading character by character lists the ranges. -/
lemma toList_foldl_readChar (entry : Entry) (ranges : Array (Nat × Nat)) (text : List Char) :
    ((text.foldl readChar (entry, ranges)).1.close
      (text.foldl readChar (entry, ranges)).2).toList = ranges.toList ++ listed entry text := by
  induction text generalizing entry ranges with
  | nil => exact toList_close entry ranges
  | cons c rest ih =>
    rw [List.foldl_cons, listed, readChar_eq]
    split
    · rw [ih, toList_close, List.append_assoc]
    · rw [ih]

/-- The ranges of the table that a text lists. -/
theorem toList_ofText {text : String} {chars : List Char} (h : text = String.ofList chars) :
    (ofText text).ranges.toList = listed .blank chars := by
  subst h
  have hread := toList_foldl_readChar .blank #[] chars
  simpa [ofText] using hread

/-! ## Membership -/

section Search

variable {ranges : Array (Nat × Nat)} {n fuel low high : Nat}

/-- What the search finds is in a range. -/
lemma exists_of_containsBetween (h : containsBetween ranges n fuel low high = true) :
    ∃ range ∈ ranges.toList, range.1 ≤ n ∧ n ≤ range.2 := by
  induction fuel generalizing low high with
  | zero => cases h
  | succ fuel ih =>
    rw [containsBetween] at h
    split at h
    case isFalse => cases h
    case isTrue =>
      dsimp only at h
      split at h
      case h_1 => cases h
      case h_2 first last hmiddle =>
        split at h
        case isTrue => exact ih h
        case isFalse hfirst =>
          split at h
          case isTrue => exact ih h
          case isFalse hlast =>
            exact ⟨(first, last), Array.mem_toList_iff.2 (Array.mem_of_getElem? hmiddle),
              not_lt.1 hfirst, not_lt.1 hlast⟩

/-- A range and one behind it. -/
def Before (range next : Nat × Nat) : Prop :=
  range.1 ≤ range.2 ∧ range.2 < next.1 ∧ next.1 ≤ next.2

/-- The search finds the numbers of a range between its bounds.

**Proof sketch.** By induction on the fuel.  A range in the middle that does not contain the number
is before or behind the one that does, so the search goes on in the half with that range. -/
lemma containsBetween_of_mem (hsorted : ranges.toList.Pairwise Before) {index : Nat}
    {range : Nat × Nat} (hrange : ranges[index]? = some range) (hfirst : range.1 ≤ n)
    (hlast : n ≤ range.2) (hlow : low ≤ index) (hhigh : index < high)
    (hsize : high ≤ ranges.size) (hfuel : high - low < 2 ^ fuel) :
    containsBetween ranges n fuel low high = true := by
  have hbefore {i j : Nat} {r s : Nat × Nat} (hr : ranges[i]? = some r)
      (hs : ranges[j]? = some s) (hlt : i < j) : Before r s := by
    obtain ⟨hi, rfl⟩ := Array.getElem?_eq_some_iff.1 hr
    obtain ⟨hj, rfl⟩ := Array.getElem?_eq_some_iff.1 hs
    exact List.pairwise_iff_getElem.1 hsorted i j hi hj hlt
  induction fuel generalizing low high with
  | zero =>
    rw [Nat.pow_zero] at hfuel
    omega
  | succ fuel ih =>
    rw [Nat.pow_succ'] at hfuel
    have hmiddle := Array.getElem?_eq_getElem (show (low + high) / 2 < ranges.size by omega)
    rw [containsBetween, if_pos (by omega)]
    dsimp only
    generalize ranges[(low + high) / 2] = middle at hmiddle
    rw [hmiddle]
    dsimp only
    rcases lt_trichotomy index ((low + high) / 2) with hlt | heq | hgt
    · obtain ⟨-, hbehind, -⟩ := hbefore hrange hmiddle hlt
      rw [if_pos (by omega)]
      exact ih hlow hlt (by omega) (by omega)
    · obtain rfl : range = middle := Option.some.inj (hrange.symm.trans (heq ▸ hmiddle))
      rw [if_neg (by omega), if_neg (by omega)]
    · obtain ⟨hordered, hbehind, -⟩ := hbefore hmiddle hrange hgt
      rw [if_neg (by omega), if_pos (by omega)]
      exact ih hgt hhigh hsize (by omega)

end Search

/-- Whether a table avoids an interval. -/
def Avoids (table : RangeTable) (least greatest : Nat) : Prop :=
  ∀ range ∈ table.ranges.toList, range.2 < least ∨ greatest < range.1

/-- A table does not contain what its ranges avoid. -/
theorem Avoids.contains_eq_false {table : RangeTable} {least greatest n : Nat}
    (h : table.Avoids least greatest) (hleast : least ≤ n) (hgreatest : n ≤ greatest) :
    table.contains n = false := by
  refine Bool.eq_false_iff.2 fun hcontains => ?_
  obtain ⟨range, hrange, hfirst, hlast⟩ := exists_of_containsBetween hcontains
  have := h range hrange
  omega

/-- The interval that a table avoids is seen from its text. -/
lemma avoids_ofText {text : String} {chars : List Char} {least greatest : Nat}
    (h : text = String.ofList chars)
    (hlisted : ∀ range ∈ listed .blank chars, range.2 < least ∨ greatest < range.1) :
    (ofText text).Avoids least greatest := by
  rwa [Avoids, toList_ofText h]

/-- Whether a table covers an interval. -/
def Covers (table : RangeTable) (least greatest : Nat) : Prop :=
  ∀ n, least ≤ n → n ≤ greatest → table.contains n = true

/-- Whether one range comes directly before another is decided by their bounds. -/
instance : DecidableRel Before := fun range next =>
  inferInstanceAs (Decidable (range.1 ≤ range.2 ∧ range.2 < next.1 ∧ next.1 ≤ next.2))

/-- The ranges of a table are in order if neighbours are. -/
lemma pairwise_of_isChain {ranges : List (Nat × Nat)} (h : ranges.IsChain Before) :
    ranges.Pairwise Before := by
  have htrans : IsTrans (Nat × Nat) Before := ⟨fun range middle next hfirst hsecond =>
    ⟨hfirst.1, hfirst.2.1.trans_le (hsecond.1.trans hsecond.2.1.le), hsecond.2.2⟩⟩
  exact List.isChain_iff_pairwise.1 h

/-- A table in increasing order contains the numbers of its ranges. -/
theorem contains_of_mem {table : RangeTable} (hsorted : table.ranges.toList.IsChain Before)
    {range : Nat × Nat} (hrange : range ∈ table.ranges.toList) {n : Nat} (hfirst : range.1 ≤ n)
    (hlast : n ≤ range.2) : table.contains n = true := by
  obtain ⟨index, hindex, rfl⟩ := Array.mem_iff_getElem.1 (Array.mem_toList_iff.1 hrange)
  refine containsBetween_of_mem (pairwise_of_isChain hsorted) (Array.getElem?_eq_getElem hindex)
    hfirst hlast (Nat.zero_le _) hindex le_rfl ?_
  have hlog := Nat.lt_log2_self (n := table.ranges.size)
  calc table.ranges.size - 0 < 2 ^ (table.ranges.size.log2 + 1) := hlog
    _ ≤ 2 ^ (table.ranges.size.log2 + 2) := Nat.pow_le_pow_right (by decide) (by omega)

/-- The interval that a table covers is seen from its text. -/
lemma covers_ofText {text : String} {chars : List Char} {least greatest : Nat}
    (h : text = String.ofList chars)
    (hlisted : (listed .blank chars).IsChain Before ∧
      ∃ range ∈ listed .blank chars, range.1 ≤ least ∧ greatest ≤ range.2) :
    (ofText text).Covers least greatest := by
  intro n hleast hgreatest
  rw [← toList_ofText h] at hlisted
  obtain ⟨hsorted, range, hrange, hfirst, hlast⟩ := hlisted
  exact contains_of_mem hsorted hrange (hfirst.trans hleast) (hgreatest.trans hlast)

/-! ## Classes -/

/-- The class of a number is the other one, or that of a table with the number. -/
lemma classOf_induction {α : Type} {P : α → Prop} {classes : List (α × RangeTable)} {other : α}
    {n : Nat} (hclasses : ∀ entry ∈ classes, entry.2.contains n = true → P entry.1)
    (hother : P other) : P (classOf classes other n) := by
  unfold classOf
  split
  · next value table hfound =>
    exact hclasses _ (List.mem_of_find?_eq_some hfound) (by simpa using List.find?_some hfound)
  · exact hother

end RangeTable

end Unicode

end RequestRouting
