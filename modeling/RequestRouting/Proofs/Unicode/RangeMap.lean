import Mathlib.Tactic.Lemma
import RequestRouting.Unicode.RangeMap

/-!
# Maps without some characters

What a map of characters finds is in one of its entries, so there is no image for a character and
no source for an image that no entry has.

## Main definitions

* `RangeMap.listed` — the entries that a text lists.

## Main results

* `RangeMap.toList_ofText` — the entries of the map that a text lists.
* `RangeMap.image?_eq_none`, `RangeMap.source?_eq_none` — what no entry has is not found.
-/

set_option autoImplicit false

namespace RequestRouting

namespace Unicode

namespace RangeMap

/-- The entries that a text lists. -/
def listed (text : List Char) : List RangeMapEntry :=
  ((splitOnChar '\n' text).flatMap (splitOnChar ' ')).filterMap entryOf?

/-- The entries of the map that a text lists. -/
theorem toList_ofText {text : String} {chars : List Char} (h : text = String.ofList chars) :
    (ofText text).entries.toList = listed chars := by
  rw [ofText, h, String.toList_ofList, listed]

/-- What all entries of a map have is seen from its text. -/
lemma forall_mem_ofText {property : RangeMapEntry → Prop} {text : String} {chars : List Char}
    (h : text = String.ofList chars) (hlisted : ∀ entry ∈ listed chars, property entry) :
    ∀ entry ∈ (ofText text).entries.toList, property entry := by
  rwa [toList_ofText h]

/-- What the search finds is an entry with the number. -/
lemma mem_of_entryBetween? {entries : Array RangeMapEntry} {n fuel low high : Nat}
    {entry : RangeMapEntry} (h : entryBetween? entries n fuel low high = some entry) :
    entry ∈ entries.toList ∧ entry.first ≤ n ∧ n ≤ entry.last := by
  induction fuel generalizing low high with
  | zero => cases h
  | succ fuel ih =>
    rw [entryBetween?] at h
    split at h
    case isFalse => cases h
    case isTrue =>
      dsimp only at h
      split at h
      case h_1 => cases h
      case h_2 middle hmiddle =>
        split at h
        case isTrue => exact ih h
        case isFalse hfirst =>
          split at h
          case isTrue => exact ih h
          case isFalse hlast =>
            obtain rfl := Option.some.inj h
            exact ⟨Array.mem_toList_iff.2 (Array.mem_of_getElem? hmiddle), Nat.not_lt.1 hfirst,
              Nat.not_lt.1 hlast⟩

/-- A number that no entry has has no image. -/
theorem image?_eq_none {map : RangeMap} {n : Nat}
    (h : ∀ entry ∈ map.entries.toList, entry.last < n ∨ n < entry.first) :
    map.image? n = none := by
  rw [image?, Option.map_eq_none_iff]
  refine Option.eq_none_iff_forall_ne_some.2 fun entry hentry => ?_
  obtain ⟨hmem, hfirst, hlast⟩ := mem_of_entryBetween? hentry
  have := h entry hmem
  omega

/-- An image that no entry has is the image of no number. -/
theorem source?_eq_none {map : RangeMap} {image : List Nat}
    (h : ∀ entry ∈ map.entries.toList, entry.image ≠ image) : map.source? image = none := by
  rw [source?, Option.map_eq_none_iff, ← Array.find?_toList, List.find?_eq_none]
  simpa using h

end RangeMap

end Unicode

end RequestRouting
