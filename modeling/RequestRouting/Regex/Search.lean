import RequestRouting.Regex.Program

/-!
# Searching a text

The leftmost match of a program in a text, and among the matches that begin there the preferred
one.  The search backtracks, but never visits an instruction twice at one position: what failed
there once fails again, so the work is bounded by the product of the two sizes.

## Main definitions

* `Regex.Look.holds` — whether a condition on the surroundings holds at a position.
* `Regex.Program.search` — the slots of the match, if there is one.
-/

set_option autoImplicit false

namespace RequestRouting

namespace Regex

/-- Whether the character at an index is a word character. -/
def isWordAt (ascii : Bool) (text : Array Char) (index : Nat) : Bool :=
  match text[index]? with
  | none => false
  | some c => if ascii then c.isAlphanum || c == '_' else CharSet.wordTable.contains c.toNat

/-- Whether the character before a position is a word character. -/
def isWordBefore (ascii : Bool) (text : Array Char) (position : Nat) : Bool :=
  position ≠ 0 && isWordAt ascii text (position - 1)

/-- Whether a condition on the surroundings holds at a position. -/
def Look.holds (text : Array Char) (position : Nat) : Look → Bool
  | .textStart => position = 0
  | .textEnd => position = text.size
  | .lineStart => position = 0 || text[position - 1]? == some '\n'
  | .lineEnd => position = text.size || text[position]? == some '\n'
  | .lineStartCrlf =>
    position = 0 || text[position - 1]? == some '\n' ||
      (text[position - 1]? == some '\r' && text[position]? != some '\n')
  | .lineEndCrlf =>
    position = text.size || text[position]? == some '\r' ||
      (text[position]? == some '\n' && (position = 0 || text[position - 1]? != some '\r'))
  | .wordBoundary ascii => isWordBefore ascii text position != isWordAt ascii text position
  | .notWordBoundary ascii => isWordBefore ascii text position == isWordAt ascii text position
  | .wordStart ascii => !isWordBefore ascii text position && isWordAt ascii text position
  | .wordEnd ascii => isWordBefore ascii text position && !isWordAt ascii text position
  | .wordStartHalf ascii => !isWordBefore ascii text position
  | .wordEndHalf ascii => !isWordAt ascii text position

/-- A place that the search still has to visit: an instruction, a position, and the slots stored on
the way. -/
structure Thread where
  index : Nat
  position : Nat
  slots : Array (Option Nat)

/-- The places to visit after a place, in the order of preference; `none` at the end of a match. -/
def Thread.next? (program : Program) (text : Array Char) (thread : Thread) : Option (List Thread) :=
  match program.code[thread.index]? with
  | none => some []
  | some .accept => none
  | some (.jump next) => some [{ thread with index := next }]
  | some (.fork first second) =>
    some [{ thread with index := first }, { thread with index := second }]
  | some (.save slot next) =>
    some [{ thread with index := next, slots := thread.slots.set! slot (some thread.position) }]
  | some (.look condition next) =>
    some (if condition.holds text thread.position then [{ thread with index := next }] else [])
  | some (.chars table next) =>
    match text[thread.position]? with
    | some c =>
      some (if table.contains c.toNat then
        [{ thread with index := next, position := thread.position + 1 }] else [])
    | none => some []

/-- Visits places until a match ends or none are left.  Every place is visited at most once and adds
at most two, which bounds the number of steps. -/
def explore (program : Program) (text : Array Char) :
    Nat → Array Bool → List Thread → Option (Array (Option Nat)) × Array Bool
  | 0, visited, _ => (none, visited)
  | _ + 1, visited, [] => (none, visited)
  | fuel + 1, visited, thread :: rest =>
    let key := thread.index * (text.size + 1) + thread.position
    if (visited[key]?).getD true then explore program text fuel visited rest
    else
      match thread.next? program text with
      | none => (some (thread.slots.set! 1 (some thread.position)), visited)
      | some next => explore program text fuel (visited.set! key true) (next ++ rest)

/-- The slots of a thread that begins at a position. -/
def startSlots (slotCount position : Nat) : Array (Option Nat) :=
  (Array.replicate slotCount none).set! 0 (some position)

/-- Searches from a position on; the first argument counts the positions that are left. -/
def searchFrom (program : Program) (text : Array Char) (slotCount : Nat) :
    Nat → Array Bool → Nat → Option (Array (Option Nat))
  | 0, _, _ => none
  | left + 1, visited, position =>
    let places := program.code.size * (text.size + 1)
    match explore program text (2 * places + 2) visited
        [⟨program.entry, position, startSlots slotCount position⟩] with
    | (some slots, _) => some slots
    | (none, visited) => searchFrom program text slotCount left visited (position + 1)

/-- The slots of the leftmost, preferred match: two for the whole match, then two for each group. -/
def Program.search (program : Program) (text : Array Char) (groupCount : Nat) :
    Option (Array (Option Nat)) :=
  searchFrom program text (2 * (groupCount + 1)) (text.size + 1)
    (Array.replicate (program.code.size * (text.size + 1)) false) 0

end Regex

end RequestRouting
