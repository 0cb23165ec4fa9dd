import RequestRouting.Text.Split
import RequestRouting.Unicode.RangeTable

/-!
# Maps of characters to texts

Partial maps from characters to lists of characters, as sorted tables.  They are written as texts
too: an entry is a character or a range, a colon, and the numbers of the image with plus signs
between them.

## Main definitions

* `RangeMap` — a partial map from character numbers to lists of them.
* `RangeMap.ofText` — the map that a text lists.
* `RangeMap.image?` — the image of a character, by binary search.
* `RangeMap.source?` — the character with a given image.
-/

set_option autoImplicit false

namespace RequestRouting

namespace Unicode

/-- One entry of a map.  If the image is a single number then it belongs to the first character of
the range, and the images of the others follow in step. -/
structure RangeMapEntry where
  first : Nat
  last : Nat
  image : List Nat

/-- Entries with disjoint ranges, in increasing order. -/
structure RangeMap where
  entries : Array RangeMapEntry

namespace RangeMap

/-- The value of a text of upper-case hexadecimal digits. -/
def hexValue (digits : List Char) : Nat :=
  digits.foldl (fun value c => value * 16 + RangeTable.upperHexValue c) 0

/-- The entry that a piece of text spells. -/
def entryOf? (piece : List Char) : Option RangeMapEntry := do
  let (range, image) ← splitFirst? ':' piece
  let image := if image.isEmpty then [] else (splitOnChar '+' image).map hexValue
  match splitFirst? '-' range with
  | some (first, last) => some ⟨hexValue first, hexValue last, image⟩
  | none => some ⟨hexValue range, hexValue range, image⟩

/-- The map that a text lists. -/
@[irreducible]
def ofText (text : String) : RangeMap :=
  let pieces := (splitOnChar '\n' text.toList).flatMap (splitOnChar ' ')
  ⟨(pieces.filterMap entryOf?).toArray⟩

/-- The entry of a number among those with indices from `low` up to, but without, `high`. -/
def entryBetween? (entries : Array RangeMapEntry) (n : Nat) :
    Nat → Nat → Nat → Option RangeMapEntry
  | 0, _, _ => none
  | fuel + 1, low, high =>
    if low < high then
      let middle := (low + high) / 2
      match entries[middle]? with
      | none => none
      | some entry =>
        if n < entry.first then entryBetween? entries n fuel low middle
        else if entry.last < n then entryBetween? entries n fuel (middle + 1) high
        else some entry
    else none

/-- The image of a number. -/
def image? (map : RangeMap) (n : Nat) : Option (List Nat) :=
  (entryBetween? map.entries n (map.entries.size.log2 + 2) 0 map.entries.size).map fun entry =>
    match entry.image with
    | [target] => [target + (n - entry.first)]
    | image => image

/-- The first number of the first entry with an image. -/
def source? (map : RangeMap) (image : List Nat) : Option Nat :=
  (map.entries.find? fun entry => entry.image == image).map RangeMapEntry.first

end RangeMap

end Unicode

end RequestRouting
