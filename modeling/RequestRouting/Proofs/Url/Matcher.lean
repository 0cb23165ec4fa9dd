import RequestRouting.Proofs.Url.Code
import RequestRouting.Proofs.Url.Greedy

/-!
# Matching by regular expression

The regular expression of a template captures the pieces that the matcher finds.  Its code tries to
read the pieces atom by atom, with the loop of a slot from the longest piece down, just as the
matcher does.

## Main definitions

* `Atom.cut` — the pieces of a path, found atom by atom.
* `Atom.store` — what the groups store for given pieces.
* `Atom.outcome` — what a search for some atoms should find.

## Main results

* `Atom.finds_laid` — the code of some atoms finds that, without marks.
* `Atom.search_whole` — so does the search for their expression.
* `Template.captures?_pattern`, `Template.matchWith?_eq` — the captures of the regular expression of
  a template are the pieces that the matcher finds.
-/

set_option autoImplicit false

namespace RequestRouting

open Regex

namespace Atom

/-- The pieces of a path in the place of the slots among some atoms. -/
def cut : List Atom → List Char → Option (List (List Char))
  | [], [] => some []
  | [], _ :: _ => none
  | .char _ :: _, [] => none
  | .char c :: atoms, d :: path => if c = d then cut atoms path else none
  | .slot :: atoms, path =>
    (Template.downFrom (path.takeWhile (· ≠ '/')).length).findSome? fun length =>
      (cut atoms (path.drop length)).map (path.take length :: ·)

/-- Literal text is stripped off a path character by character. -/
lemma cut_map_char (text : List Char) (atoms : List Atom) (path : List Char) :
    cut (text.map .char ++ atoms) path = (stripStart? text path).bind (cut atoms) := by
  induction text generalizing path with
  | nil => rfl
  | cons c text ih =>
    cases path with
    | nil => rfl
    | cons d path =>
      simp only [List.map_cons, List.cons_append, cut, stripStart?]
      split
      · exact ih path
      · rfl

/-- The atoms of some segments are matched as the segments are. -/
theorem cut_atoms (segments : List Segment) (path : List Char) :
    cut (Template.atoms segments) path = Template.cut segments path := by
  induction segments generalizing path with
  | nil => cases path <;> rfl
  | cons segment segments ih =>
    rw [Template.atoms, List.flatMap_cons]
    cases segment with
    | literal text =>
      rw [Segment.atoms, cut_map_char, Template.cut]
      cases stripStart? text.toList path with
      | none => rfl
      | some rest => exact ih rest
    | slot index =>
      simp only [Segment.atoms, List.singleton_append, cut, Template.cut]
      congr 1
      funext length
      rw [← ih]
      rfl

/-! ## Searching -/

/-- The table of a single character contains no other. -/
lemma contains_single (c d : Char) :
    (CharSet.single c).table.contains d.toNat = decide (c = d) := by
  have hlog : Nat.log2 1 = 0 := by decide
  have hcd : c = d ↔ ¬ d.toNat < c.toNat ∧ ¬ c.toNat < d.toNat := by
    rw [← Char.toNat_inj]
    omega
  simp only [CharSet.single, CharSet.range, CharSet.table, Unicode.RangeTable.contains,
    List.size_toArray, List.length_singleton, hlog, Unicode.RangeTable.containsBetween, hcd]
  by_cases hbefore : d.toNat < c.toNat <;> by_cases hafter : c.toNat < d.toNat <;>
    simp [hbefore, hafter]

/-- A piece may have every character but a slash. -/
lemma contains_pieceSet (c : Char) : pieceSet.table.contains c.toNat = decide (c ≠ '/') := by
  have hset : pieceSet = ⟨[(0, 46), (48, 0x10FFFF)]⟩ := by decide
  have hlog : Nat.log2 2 = 1 := by decide
  have hc : c ≠ '/' ↔ c.toNat ≠ 47 := by
    rw [ne_eq, ← Char.toNat_inj]
    rfl
  have hmax : ¬ 0x10FFFF < c.toNat := by
    have hvalid : c.val.toNat < 0xD800 ∨ 0xDFFF < c.val.toNat ∧ c.val.toNat < 0x110000 := c.valid
    change ¬ 0x10FFFF < c.val.toNat
    omega
  simp only [hset, CharSet.table, Unicode.RangeTable.contains, List.size_toArray,
    List.length_cons, List.length_nil, hlog, Unicode.RangeTable.containsBetween, hc]
  by_cases hbefore : c.toNat < 48 <;> by_cases hafter : 46 < c.toNat <;>
    simp [hbefore, hafter, hmax] <;> omega

/-- What the groups store when some atoms match from a position on with the given pieces. -/
def store : Nat → Nat → List Atom → List (List Char) → Array (Option Nat) → Array (Option Nat)
  | groups, position, .char _ :: atoms, pieces, slots =>
    store groups (position + 1) atoms pieces slots
  | groups, position, .slot :: atoms, piece :: pieces, slots =>
    store (groups + 1) (position + piece.length) atoms pieces
      ((slots.set! (2 * (groups + 1)) (some position)).set! (2 * (groups + 1) + 1)
        (some (position + piece.length)))
  | _, _, _, _, slots => slots

/-- What is found for some atoms from a position on. -/
def outcome (text : Array Char) (groups position : Nat) (atoms : List Atom)
    (slots : Array (Option Nat)) : Option (Array (Option Nat)) :=
  (cut atoms (text.toList.drop position)).map fun pieces =>
    (store groups position atoms pieces slots).set! 1 (some text.size)

variable {program : Program} {text : Array Char}

/-- A character stands in front of the rest of a text. -/
lemma drop_eq_cons {position : Nat} {c : Char} (h : text[position]? = some c) :
    text.toList.drop position = c :: text.toList.drop (position + 1) := by
  obtain ⟨hlt, rfl⟩ := Array.getElem?_eq_some_iff.1 h
  exact List.drop_eq_getElem_cons hlt

/-- An instruction that reads a character goes on behind it. -/
lemma finds_chars_of_contains {index next position : Nat} {table : Unicode.RangeTable} {c : Char}
    {slots : Array (Option Nat)} {found : Option (Array (Option Nat))}
    (hcode : program.code[index]? = some (.chars table next)) (hc : text[position]? = some c)
    (hcontains : table.contains c.toNat = true)
    (hnext : Finds program text [⟨next, position + 1, slots⟩] found) :
    Finds program text [⟨index, position, slots⟩] found :=
  .of_next (by simp [Thread.next?, hcode, hc, hcontains]) hnext

/-- An instruction that reads a character finds nothing in front of other characters, nor at the end
of the text. -/
lemma finds_chars_none {index next position : Nat} {table : Unicode.RangeTable}
    {slots : Array (Option Nat)} (hcode : program.code[index]? = some (.chars table next))
    (hc : ∀ c, text[position]? = some c → table.contains c.toNat = false) :
    Finds program text [⟨index, position, slots⟩] none := by
  have hnext : (⟨index, position, slots⟩ : Thread).next? program text = some [] := by
    cases htext : text[position]? with
    | none => simp [Thread.next?, hcode, htext]
    | some c => simp [Thread.next?, hcode, htext, hc c htext]
  exact .of_next hnext .nil

/-- Where the first slash of a path is, if there is one, and only there. -/
lemma getElem?_takeWhile (path : List Char) :
    (∀ i < (path.takeWhile (· ≠ '/')).length, ∃ c, path[i]? = some c ∧ c ≠ '/') ∧
      ∀ c, path[(path.takeWhile (· ≠ '/')).length]? = some c → c = '/' := by
  induction path with
  | nil => simp
  | cons d path ih =>
    by_cases hd : d = '/'
    · simp [hd, eq_comm]
    · have htake : (d :: path).takeWhile (· ≠ '/') = d :: path.takeWhile (· ≠ '/') :=
        List.takeWhile_cons_of_pos (decide_eq_true hd)
      rw [htake, List.length_cons]
      refine ⟨fun i hi => ?_, ih.2⟩
      obtain _ | i := i
      · exact ⟨d, rfl, hd⟩
      · exact ih.1 i (Nat.lt_of_succ_lt_succ hi)

/-- How many characters stand in front of the first slash from a position on. -/
def reach (text : Array Char) (position : Nat) : Nat :=
  ((text.toList.drop position).takeWhile (· ≠ '/')).length

/-- In front of the first slash there are other characters. -/
lemma exists_char_of_lt_reach {position i : Nat} (h : i < reach text position) :
    ∃ c, text[position + i]? = some c ∧ c ≠ '/' := by
  obtain ⟨c, hc, hslash⟩ := (getElem?_takeWhile (text.toList.drop position)).1 i h
  rw [List.getElem?_drop, Array.getElem?_toList] at hc
  exact ⟨c, hc, hslash⟩

/-- Behind the characters in front of the first slash there is a slash, or nothing. -/
lemma eq_slash_of_reach {position : Nat} {c : Char}
    (h : text[position + reach text position]? = some c) : c = '/' := by
  refine (getElem?_takeWhile (text.toList.drop position)).2 c ?_
  rw [List.getElem?_drop, Array.getElem?_toList]
  exact h

/-- What is found in the loop of a slot, after as many characters as `length`: the longest piece is
tried first.

**Proof sketch.** Induction on the number of characters that are left in front of the first
slash. -/
lemma finds_loop {inside loop close next groups position : Nat} {slots : Array (Option Nat)}
    {found : Nat → Option (Array (Option Nat))}
    (hinside : program.code[inside]? = some (.chars pieceSet.table loop))
    (hloop : program.code[loop]? = some (.fork inside close))
    (hclose : program.code[close]? = some (.save (2 * (groups + 1) + 1) next))
    (hnext : ∀ length ≤ reach text position, Finds program text [⟨next, position + length,
      slots.set! (2 * (groups + 1) + 1) (some (position + length))⟩] (found length))
    {length left : Nat} (hleft : length + left = reach text position) :
    Finds program text [⟨loop, position + length, slots⟩]
      ((List.range' length (left + 1)).reverse.findSome? found) := by
  have hfork : ∀ length, (⟨loop, position + length, slots⟩ : Thread).next? program text =
      some ([⟨inside, position + length, slots⟩] ++ [⟨close, position + length, slots⟩]) :=
    fun length => by simp [Thread.next?, hloop]
  have houtside : ∀ length ≤ reach text position,
      Finds program text [⟨close, position + length, slots⟩] (found length) :=
    fun length hle => .of_next (by simp [Thread.next?, hclose]) (hnext length hle)
  induction left generalizing length with
  | zero =>
    obtain rfl : length = reach text position := hleft
    have hinner : Finds program text [⟨inside, position + reach text position, slots⟩] none := by
      refine finds_chars_none hinside fun c hc => ?_
      rw [contains_pieceSet, eq_slash_of_reach hc]
      rfl
    rw [List.range'_one, List.reverse_singleton, List.findSome?_singleton]
    exact .of_next (hfork _) (hinner.append (houtside _ (Nat.le_refl _)))
  | succ left ih =>
    obtain ⟨c, hc, hslash⟩ := exists_char_of_lt_reach (show length < reach text position by omega)
    have hlater : length + 1 + left = reach text position := by omega
    have hinner : Finds program text [⟨inside, position + length, slots⟩]
        ((List.range' (length + 1) (left + 1)).reverse.findSome? found) :=
      finds_chars_of_contains hinside hc (by simp [contains_pieceSet, hslash]) (ih hlater)
    rw [List.range'_succ, List.reverse_cons, List.findSome?_append, List.findSome?_singleton]
    exact .of_next (hfork _) (hinner.append (houtside _ (by omega)))

/-- The lengths that the matcher tries for a piece. -/
lemma downFrom_eq (n : Nat) : Template.downFrom n = (List.range' 1 n).reverse := by
  rw [Template.downFrom, List.range'_eq_map_range, List.map_reverse]
  simp only [Nat.add_comm]

/-- A search in a list depends on its members only. -/
lemma findSome?_congr {α β : Type} {f g : α → Option β} {items : List α}
    (h : ∀ item ∈ items, f item = g item) : items.findSome? f = items.findSome? g := by
  induction items with
  | nil => rfl
  | cons item items ih =>
    obtain ⟨hitem, hitems⟩ := List.forall_mem_cons.1 h
    rw [List.findSome?_cons, List.findSome?_cons, hitem, ih hitems]

/-- What is found for a slot and what follows it: the longest piece is tried first. -/
lemma outcome_slot (text : Array Char) (groups position : Nat) (atoms : List Atom)
    (slots : Array (Option Nat)) :
    outcome text groups position (.slot :: atoms) slots =
      (Template.downFrom (reach text position)).findSome? fun length =>
        outcome text (groups + 1) (position + length) atoms
          ((slots.set! (2 * (groups + 1)) (some position)).set! (2 * (groups + 1) + 1)
            (some (position + length))) := by
  unfold outcome
  rw [cut, List.map_findSome?]
  refine findSome?_congr fun length hlength => ?_
  have hle : length ≤ reach text position := (Template.mem_downFrom.1 hlength).2
  have htake : ((text.toList.drop position).take length).length = length :=
    List.length_take_of_le (hle.trans (List.takeWhile_prefix _).length_le)
  rw [Function.comp_apply, Option.map_map, List.drop_drop]
  congr 1
  funext pieces
  rw [Function.comp_apply, store, htake]

/-- Behind the last atom a match is found at the end of the text, and only there. -/
lemma finds_ending {groups position : Nat} (haccept : program.code[0]? = some .accept)
    (hend : program.code[1]? = some (.look .textEnd 0)) (hposition : position ≤ text.size)
    (slots : Array (Option Nat)) :
    Finds program text [⟨1, position, slots⟩] (outcome text groups position [] slots) := by
  obtain rfl | hlt := Nat.eq_or_lt_of_le hposition
  · have hnext : (⟨1, text.size, slots⟩ : Thread).next? program text =
        some [⟨0, text.size, slots⟩] := by
      simp [Thread.next?, hend, Look.holds]
    have hfinal : (⟨0, text.size, slots⟩ : Thread).next? program text = none := by
      simp [Thread.next?, haccept]
    have hrest : text.toList.drop text.size = [] := List.drop_eq_nil_of_le (Nat.le_refl _)
    rw [outcome, hrest]
    exact .of_next hnext (.accept hfinal)
  · have hnext : (⟨1, position, slots⟩ : Thread).next? program text = some [] := by
      simp [Thread.next?, hend, Look.holds, Nat.ne_of_lt hlt]
    rw [outcome, List.drop_eq_getElem_cons hlt]
    exact .of_next hnext .nil

/-- What is found for a character and what follows it. -/
lemma finds_char {entry next groups position : Nat} {c : Char} {atoms : List Atom}
    {slots : Array (Option Nat)}
    (hentry : program.code[entry]? = some (.chars (CharSet.single c).table next))
    (hnext : position < text.size → Finds program text [⟨next, position + 1, slots⟩]
      (outcome text groups (position + 1) atoms slots)) :
    Finds program text [⟨entry, position, slots⟩]
      (outcome text groups position (.char c :: atoms) slots) := by
  cases hd : text[position]? with
  | none =>
    have hrest : text.toList.drop position = [] :=
      List.drop_eq_nil_of_le (Array.getElem?_eq_none_iff.1 hd)
    rw [outcome, hrest]
    exact finds_chars_none hentry fun d hd' => by simp [hd] at hd'
  | some d =>
    have hlt : position < text.size := (Array.getElem?_eq_some_iff.1 hd).1
    rw [outcome, drop_eq_cons hd, cut]
    split
    · next hcd =>
      exact finds_chars_of_contains hentry hd (by simp [contains_single, hcd]) (hnext hlt)
    · next hcd =>
      refine finds_chars_none hentry fun d' hd' => ?_
      obtain rfl := Option.some.inj (hd.symm.trans hd')
      simp [contains_single, hcd]

/-- What is found for a slot and what follows it: a piece has at least one character, and then the
loop goes on. -/
lemma finds_slot {entry inside loop close next groups position : Nat} {atoms : List Atom}
    (hentry : program.code[entry]? = some (.save (2 * (groups + 1)) inside))
    (hinside : program.code[inside]? = some (.chars pieceSet.table loop))
    (hloop : program.code[loop]? = some (.fork inside close))
    (hclose : program.code[close]? = some (.save (2 * (groups + 1) + 1) next))
    (hnext : ∀ length ≤ reach text position, ∀ slots, Finds program text
      [⟨next, position + length, slots⟩]
      (outcome text (groups + 1) (position + length) atoms slots))
    (slots : Array (Option Nat)) :
    Finds program text [⟨entry, position, slots⟩]
      (outcome text groups position (.slot :: atoms) slots) := by
  have hsave : (⟨entry, position, slots⟩ : Thread).next? program text =
      some [⟨inside, position, slots.set! (2 * (groups + 1)) (some position)⟩] := by
    simp [Thread.next?, hentry]
  rw [outcome_slot, downFrom_eq]
  refine .of_next hsave ?_
  cases hreach : reach text position with
  | zero =>
    refine finds_chars_none hinside fun c hc => ?_
    have hc' : text[position + reach text position]? = some c := by rw [hreach]; exact hc
    rw [contains_pieceSet, eq_slash_of_reach hc']
    rfl
  | succ left =>
    obtain ⟨c, hc, hslash⟩ := exists_char_of_lt_reach (show 0 < reach text position by omega)
    refine finds_chars_of_contains hinside hc (by simp [contains_pieceSet, hslash]) ?_
    have hleft : 1 + left = reach text position := by omega
    exact finds_loop hinside hloop hclose (fun length hle => hnext length hle _) hleft

/-- **The code of some atoms finds the pieces that the matcher finds for them.**

**Proof sketch.** Induction on the atoms.  At a slot the loop tries the lengths of a piece in the
order in which the matcher does. -/
theorem finds_laid {entry groups position : Nat} {atoms : List Atom}
    (haccept : program.code[0]? = some .accept)
    (hend : program.code[1]? = some (.look .textEnd 0))
    (hlaid : Laid program.code 1 entry groups atoms) (hposition : position ≤ text.size)
    (slots : Array (Option Nat)) :
    Finds program text [⟨entry, position, slots⟩] (outcome text groups position atoms slots) := by
  induction hlaid generalizing position slots with
  | nil groups => exact finds_ending haccept hend hposition slots
  | char hentry _ ih => exact finds_char hentry fun hlt => ih hlt slots
  | slot hentry hinside hloop hclose _ ih =>
    refine finds_slot hentry hinside hloop hclose (fun length hle slots => ih ?_ slots) slots
    have hlength : reach text position ≤ text.size - position :=
      (List.takeWhile_prefix _).length_le.trans_eq List.length_drop
    omega

/-! ## Captures -/

/-- A character of literal text stands in front of the path. -/
lemma cut_char_eq_some {c : Char} {atoms : List Atom} {path : List Char}
    {pieces : List (List Char)} (h : cut (.char c :: atoms) path = some pieces) :
    ∃ rest, path = c :: rest ∧ cut atoms rest = some pieces := by
  cases path with
  | nil => cases h
  | cons d rest =>
    simp only [cut] at h
    split at h
    · next hcd => exact ⟨rest, by rw [hcd], h⟩
    · cases h

/-- A piece stands in front of the path. -/
lemma cut_slot_eq_some {atoms : List Atom} {path : List Char} {pieces : List (List Char)}
    (h : cut (.slot :: atoms) path = some pieces) :
    ∃ length rest, length ≤ path.length ∧ cut atoms (path.drop length) = some rest ∧
      pieces = path.take length :: rest := by
  obtain ⟨length, hlength, hcut⟩ := List.exists_of_findSome?_eq_some h
  obtain ⟨rest, hrest, rfl⟩ := Option.map_eq_some_iff.1 hcut
  have hle := (Template.mem_downFrom.1 hlength).2
  exact ⟨length, rest, hle.trans (List.takeWhile_prefix _).length_le, hrest, rfl⟩

/-- There are as many pieces as slots. -/
lemma length_of_cut {atoms : List Atom} {path : List Char} {pieces : List (List Char)}
    (h : cut atoms path = some pieces) : pieces.length = atoms.count .slot := by
  induction atoms generalizing path pieces with
  | nil =>
    cases path with
    | nil => cases h; rfl
    | cons c path => cases h
  | cons atom atoms ih =>
    cases atom with
    | char c =>
      obtain ⟨rest, -, hrest⟩ := cut_char_eq_some h
      rw [ih hrest, List.count_cons_of_ne (by simp)]
    | slot =>
      obtain ⟨length, rest, -, hrest, rfl⟩ := cut_slot_eq_some h
      rw [List.length_cons, ih hrest, List.count_cons_self]

/-- The groups of atoms store in slots of their own. -/
lemma getElem?_store {atoms : List Atom} {groups position i : Nat} {pieces : List (List Char)}
    {slots : Array (Option Nat)} (h : i < 2 * (groups + 1)) :
    (store groups position atoms pieces slots)[i]? = slots[i]? := by
  fun_induction store groups position atoms pieces slots with
  | case1 groups position c atoms pieces slots ih => exact ih h
  | case2 groups position atoms piece pieces slots ih =>
    have hopen : 2 * (groups + 1) ≠ i := by omega
    have hclose : 2 * (groups + 1) + 1 ≠ i := by omega
    rw [ih (by omega), Array.set!_eq_setIfInBounds, Array.getElem?_setIfInBounds_ne hclose,
      Array.set!_eq_setIfInBounds, Array.getElem?_setIfInBounds_ne hopen]
  | case3 => rfl

/-- The groups of atoms capture the pieces. -/
lemma map_sliceOf_store {atoms : List Atom} {groups position : Nat} {pieces : List (List Char)}
    {slots : Array (Option Nat)} (h : cut atoms (text.toList.drop position) = some pieces)
    (hsize : 2 * (groups + 1 + pieces.length) ≤ slots.size) :
    (List.range' groups pieces.length).map
        (fun group => sliceOf text (store groups position atoms pieces slots) (group + 1)) =
      pieces.map fun piece => some (String.ofList piece) := by
  induction atoms generalizing groups position pieces slots with
  | nil =>
    obtain rfl : pieces = [] := List.length_eq_zero_iff.1 (length_of_cut h)
    rfl
  | cons atom atoms ih =>
    cases atom with
    | char c =>
      obtain ⟨rest, hpath, hrest⟩ := cut_char_eq_some h
      have hlater : text.toList.drop (position + 1) = rest := by
        rw [← List.tail_drop, hpath, List.tail_cons]
      rw [store]
      exact ih (hlater ▸ hrest) hsize
    | slot =>
      obtain ⟨length, rest, hle, hrest, rfl⟩ := cut_slot_eq_some h
      rw [List.length_cons] at hsize
      rw [List.drop_drop] at hrest
      have hlength : ((text.toList.drop position).take length).length = length :=
        List.length_take_of_le hle
      rw [List.length_cons, List.range'_succ, List.map_cons, List.map_cons, store, hlength,
        ih hrest (by simp; omega)]
      congr 1
      have hopen : 2 * (groups + 1) < 2 * (groups + 1 + 1) := by omega
      have hclose : 2 * (groups + 1) + 1 < 2 * (groups + 1 + 1) := by omega
      have hlast : 2 * (groups + 1) + 1 < slots.size := by omega
      rw [sliceOf, getElem?_store hopen, getElem?_store hclose]
      simp only [Array.set!_eq_setIfInBounds, Array.getElem?_setIfInBounds_self,
        Array.getElem?_setIfInBounds_ne (Nat.succ_ne_self _), Array.size_setIfInBounds, hlast,
        Nat.lt_of_succ_lt hlast, ↓reduceIte, Option.join_some, Array.toList_extract]
      rw [List.extract_eq_take_drop, Nat.add_sub_cancel_left]

/-- What is stored for the whole match leaves the groups as they are. -/
lemma sliceOf_set!_one (slots : Array (Option Nat)) (stored : Option Nat) (group : Nat) :
    sliceOf text (slots.set! 1 stored) (group + 1) = sliceOf text slots (group + 1) := by
  have hopen : 1 ≠ 2 * (group + 1) := by omega
  have hclose : 1 ≠ 2 * (group + 1) + 1 := by omega
  rw [sliceOf, sliceOf, Array.set!_eq_setIfInBounds, Array.getElem?_setIfInBounds_ne hopen,
    Array.getElem?_setIfInBounds_ne hclose]

/-- The number of groups up to the last of some atoms. -/
lemma max_groupCount_ending (groups : Nat) (atoms : List Atom) :
    max groups (ending groups atoms).groupCount = groups + atoms.count .slot := by
  induction atoms generalizing groups with
  | nil => exact Nat.max_eq_left (Nat.zero_le _)
  | cons atom atoms ih =>
    have hcons : (ending groups (atom :: atoms)).groupCount =
        max (atom.expr groups).groupCount
          (ending (atom.groupsAfter groups) atoms).groupCount := rfl
    cases atom with
    | char c =>
      have hrest := ih groups
      rw [List.count_cons_of_ne (by simp), ← hrest, hcons]
      simp [expr, Expr.groupCount, groupsAfter]
    | slot =>
      have hrest := ih (groups + 1)
      rw [List.count_cons_self, hcons]
      simp only [expr, Expr.groupCount, groupsAfter]
      omega

/-- There are as many groups as slots. -/
lemma groupCount_whole (atoms : List Atom) : (whole atoms).groupCount = atoms.count .slot := by
  have hcount := max_groupCount_ending 0 atoms
  rw [Nat.zero_max, Nat.zero_add] at hcount
  rw [whole, Expr.groupCount, Expr.groupCount, Nat.zero_max, hcount]

/-- **The search for the expression of some atoms finds what their pieces are**, at the beginning of
the text.

**Proof sketch.** At any other position the first instruction finds that this is not the beginning
of the text. -/
theorem search_whole (atoms : List Atom) (text : Array Char) :
    (whole atoms).program.search text (atoms.count .slot) =
      outcome text 0 0 atoms (startSlots (2 * (atoms.count .slot + 1)) 0) := by
  obtain ⟨entry, h, hstart⟩ := exists_program_whole atoms
  have hfound : ∀ position ≤ text.size, Finds (whole atoms).program text
      [⟨(whole atoms).program.entry, position,
        startSlots (2 * (atoms.count .slot + 1)) position⟩]
      (if position = 0 then outcome text 0 0 atoms (startSlots (2 * (atoms.count .slot + 1)) 0)
        else none) := by
    intro position _
    split
    · next hzero =>
      subst hzero
      refine .of_next ?_ (finds_laid h.accept h.textEnd h.laid (Nat.zero_le _) _)
      simp [Thread.next?, hstart, Look.holds]
    · next hpositive =>
      refine .of_next ?_ .nil
      simp [Thread.next?, hstart, Look.holds, hpositive]
  have hlater : (List.map Nat.succ (List.range text.size)).findSome? (fun position =>
      if position = 0 then outcome text 0 0 atoms (startSlots (2 * (atoms.count .slot + 1)) 0)
      else none) = none := by
    simp [List.findSome?_eq_none_iff]
  rw [Program.search_eq (Program.ranked_rank h.descends text) hfound, List.range_succ_eq_map,
    List.findSome?_cons, hlater, if_pos rfl]
  cases outcome text 0 0 atoms (startSlots (2 * (atoms.count .slot + 1)) 0) <;> rfl

end Atom

namespace Template

/-- **The regular expression of a template captures the pieces that the matcher finds.**

**Proof sketch.** The expression is that of the atoms of the template, whose code finds the pieces
of the atoms; these are the pieces of the template. -/
theorem captures?_pattern {template : Template} {regex : Regex.Compiled}
    (h : compileUnbounded template.pattern = .ok regex) (path : String) :
    regex.captures? path =
      (cut template.segments path.toList).map
        (List.map fun piece => some (String.ofList piece)) := by
  rw [compileUnbounded_pattern] at h
  split at h
  · cases h
    rw [Compiled.captures?, ← Atom.cut_atoms]
    dsimp only
    rw [Atom.groupCount_whole, Atom.search_whole, Atom.outcome, List.drop_zero]
    cases hcut : Atom.cut (atoms template.segments) path.toList with
    | none => rfl
    | some pieces =>
      have hlength := Atom.length_of_cut hcut
      have hsize : 2 * (0 + 1 + pieces.length) ≤
          (startSlots (2 * ((atoms template.segments).count .slot + 1)) 0).size := by
        simp [startSlots]
        omega
      simp only [Option.map_some, Atom.sliceOf_set!_one]
      rw [← hlength, List.range_eq_range', Atom.map_sliceOf_store hcut (hlength ▸ hsize)]
  · cases h

/-- **Matching by regular expression gives the same values.** -/
theorem matchWith?_eq {template : Template} {regex : Regex.Compiled}
    (h : compileUnbounded template.pattern = .ok regex) (path : String) :
    template.matchWith? regex path = template.match? path := by
  rw [matchWith?, captures?_pattern h, match?, Option.map_map]
  congr 1
  funext pieces
  simp [Percent.decode, List.zip_map_right]

end Template

end RequestRouting
