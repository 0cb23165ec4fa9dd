/-!
# Tables of character ranges

Sets of characters as sorted tables of ranges.  The tables of the Unicode properties are written
as texts, in the style of the data files of the standard: hexadecimal numbers and ranges between
blanks.

## Main definitions

* `RangeTable` — disjoint ranges in increasing order.
* `RangeTable.ofText` — the table that a text lists.
* `RangeTable.contains` — membership, by binary search.
* `RangeTable.classOf` — the class of a character, where every class has a table.
-/

set_option autoImplicit false

namespace RequestRouting

namespace Unicode

/-- Disjoint ranges of character numbers, in increasing order. -/
structure RangeTable where
  ranges : Array (Nat × Nat)

namespace RangeTable

/-- A range that is being read: the numbers so far and whether a dash has been seen. -/
structure Entry where
  first : Nat
  last : Option Nat
  started : Bool

/-- Before the first digit of a range. -/
def Entry.blank : Entry := ⟨0, none, false⟩

/-- The value of an upper-case hexadecimal digit. -/
def upperHexValue (c : Char) : Nat :=
  if c.isDigit then c.toNat - '0'.toNat else c.toNat - 'A'.toNat + 10

/-- Adds a finished range. -/
def Entry.close (entry : Entry) (ranges : Array (Nat × Nat)) : Array (Nat × Nat) :=
  if entry.started then ranges.push (entry.first, entry.last.getD entry.first) else ranges

/-- Reads one character of a table. -/
def readChar (state : Entry × Array (Nat × Nat)) (c : Char) : Entry × Array (Nat × Nat) :=
  let (entry, ranges) := state
  if c = ' ' || c = '\n' then (.blank, entry.close ranges)
  else if c = '-' then ({ entry with last := some 0 }, ranges)
  else match entry.last with
    | none => (⟨entry.first * 16 + upperHexValue c, none, true⟩, ranges)
    | some last => ({ entry with last := some (last * 16 + upperHexValue c) }, ranges)

/-- The table that a text lists. -/
@[irreducible]
def ofText (text : String) : RangeTable :=
  let (entry, ranges) := text.toList.foldl readChar (.blank, #[])
  ⟨entry.close ranges⟩

/-- Whether one of the ranges with indices from `low` up to, but without, `high` contains a
number. -/
def containsBetween (ranges : Array (Nat × Nat)) (n : Nat) : Nat → Nat → Nat → Bool
  | 0, _, _ => false
  | fuel + 1, low, high =>
    if low < high then
      let middle := (low + high) / 2
      match ranges[middle]? with
      | none => false
      | some (first, last) =>
        if n < first then containsBetween ranges n fuel low middle
        else if last < n then containsBetween ranges n fuel (middle + 1) high
        else true
    else false

/-- Whether a table contains a number. -/
def contains (table : RangeTable) (n : Nat) : Bool :=
  containsBetween table.ranges n (table.ranges.size.log2 + 2) 0 table.ranges.size

/-- The class of a number: the first one with a table that contains it, or else the given one. -/
def classOf {α : Type} (classes : List (α × RangeTable)) (other : α) (n : Nat) : α :=
  match classes.find? fun entry => entry.2.contains n with
  | some (value, _) => value
  | none => other

end RangeTable

end Unicode

end RequestRouting
