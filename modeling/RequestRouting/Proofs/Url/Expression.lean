import Mathlib.Data.List.Basic
import Mathlib.Tactic.Lemma
import RequestRouting.Url.Matcher

/-!
# The regular expression of a template, read back

The text of the regular expression of a template is read as what is meant: the two ends of the path,
and between them the characters of the literal text and a group for every slot.

## Main definitions

* `Atom` — a character of literal text, or a slot.
* `Template.atoms` — the atoms of some segments.
* `Atom.wholePattern`, `Atom.whole` — the pattern and the expression for atoms between the two ends
  of a text.

## Main results

* `Atom.read?_wholePattern` — the pattern is read as the expression.
* `Template.compileUnbounded_pattern` — it compiles, unless it is too large.
-/

set_option autoImplicit false

namespace RequestRouting

open Regex

/-- A character of literal text, or a slot. -/
inductive Atom where
  | char (c : Char)
  | slot
  deriving DecidableEq

/-- The atoms of a segment. -/
def Segment.atoms : Segment → List Atom
  | .literal text => text.toList.map Atom.char
  | .slot _ => [.slot]

/-- The atoms of some segments. -/
def Template.atoms (segments : List Segment) : List Atom := segments.flatMap Segment.atoms

namespace Atom

/-- The part of a regular expression for an atom. -/
def pattern : Atom → List Char
  | .char c => if isMeta c then ['\\', c] else [c]
  | .slot => ['(', '[', '^', '/', ']', '+', ')']

/-- The characters that a piece may have. -/
def pieceSet : CharSet := (CharSet.single '/').complement CharSet.maxChar

/-- The expression of an atom; the number is that of the groups in front of it. -/
def expr (groups : Nat) : Atom → Expr
  | .char c => .chars (.single c)
  | .slot => .group (groups + 1) (.repeated 1 none true (.chars pieceSet))

/-- The number of groups up to an atom. -/
def groupsAfter (groups : Nat) : Atom → Nat
  | .char _ => groups
  | .slot => groups + 1

/-- The number of groups up to the last of some atoms. -/
def groupsOf : Nat → List Atom → Nat
  | groups, [] => groups
  | groups, atom :: atoms => groupsOf (atom.groupsAfter groups) atoms

/-- The part of a pattern that an atom is read as. -/
def part (groups : Nat) (atom : Atom) : Part :=
  ⟨atom.expr groups, match atom with | .char _ => 0 | .slot => 3, true⟩

/-- The parts of a pattern that atoms are read as; the number is that of the groups in front of
them. -/
def parts : Nat → List Atom → List Part
  | _, [] => []
  | groups, atom :: atoms => atom.part groups :: parts (atom.groupsAfter groups) atoms

/-- The pattern for atoms between the two ends of a text. -/
def wholePattern (atoms : List Atom) : List Char := '^' :: (atoms.flatMap pattern ++ ['$'])

/-- The expression for atoms up to the end of a text. -/
def ending (groups : Nat) (atoms : List Atom) : Expr :=
  ((parts groups atoms).map Part.expr).foldr .cat (.look .textEnd)

/-- The expression for atoms between the two ends of a text. -/
def whole (atoms : List Atom) : Expr := .cat (.look .textStart) (ending 0 atoms)

/-! ## Reading -/

/-- A reader of a pattern that opens no groups but those of slots. -/
def reading (text : List Char) (parts : List Part) (captures : Nat) : Reader :=
  ⟨text, .start, parts, [], [], captures, []⟩

/-- In at most as many steps as `count` a reader comes to another one, from which it reads on. -/
def Leads (count : Nat) (reader later : Reader) : Prop :=
  ∃ steps ≤ count, ∀ fuel, reader.run? (fuel + steps) = later.run? fuel

namespace Leads

variable {count count' : Nat} {reader later last : Reader}

/-- Without a step a reader stays where it is. -/
lemma refl (reader : Reader) : Leads 0 reader reader := ⟨0, Nat.le_refl _, fun _ => rfl⟩

/-- A bound for the number of steps may be raised. -/
lemma mono (h : Leads count reader later) (hle : count ≤ count') : Leads count' reader later := by
  obtain ⟨steps, hsteps, hrun⟩ := h
  exact ⟨steps, Nat.le_trans hsteps hle, hrun⟩

/-- Steps can be taken one after another. -/
lemma trans (h : Leads count reader later) (h' : Leads count' later last) :
    Leads (count + count') reader last := by
  obtain ⟨steps, hsteps, hrun⟩ := h
  obtain ⟨steps', hsteps', hrun'⟩ := h'
  refine ⟨steps' + steps, by omega, fun fuel => ?_⟩
  rw [← Nat.add_assoc, hrun, hrun']

/-- A run with more steps than that comes to the other reader and has steps left. -/
lemma exists_run?_eq (h : Leads count reader later) {fuel : Nat} (hfuel : count < fuel) :
    ∃ left, reader.run? fuel = later.run? (left + 1) := by
  obtain ⟨steps, hsteps, hrun⟩ := h
  obtain ⟨left, rfl⟩ : ∃ left, fuel = left + 1 + steps := ⟨fuel - 1 - steps, by omega⟩
  exact ⟨left, hrun _⟩

end Leads

/-- One step leads to what it makes of the reader. -/
lemma leads_of_step {c : Char} {rest : List Char} {parts : List Part} {captures : Nat}
    {later : Reader} (h : (reading (c :: rest) parts captures).step? c rest = some later) :
    Leads 1 (reading (c :: rest) parts captures) later := by
  have hskip : (reading (c :: rest) parts captures).flags.skip
      (reading (c :: rest) parts captures).text = c :: rest := rfl
  refine ⟨1, Nat.le_refl _, fun fuel => ?_⟩
  simp only [Reader.run?, hskip, h]

/-- A character that has no meaning of its own is read as itself. -/
lemma step?_char {c : Char} (h : isMeta c = false) (text rest : List Char) (parts : List Part)
    (captures : Nat) :
    (reading text parts captures).step? c rest =
      some (reading rest (part captures (.char c) :: parts) captures) := by
  unfold Reader.step?
  split
  all_goals first | exact absurd h (by decide) | rfl

/-- A backslash takes the meaning of its own away from a character. -/
lemma step?_escaped {c : Char} (h : isMeta c = true) (text rest : List Char) (parts : List Part)
    (captures : Nat) :
    (reading text parts captures).step? '\\' (c :: rest) =
      some (reading rest (part captures (.char c) :: parts) captures) := by
  simp only [isMeta, List.contains_eq_mem, List.mem_cons, List.not_mem_nil, or_false,
    decide_eq_true_eq] at h
  rcases h with rfl | rfl | rfl | rfl | rfl | rfl | rfl | rfl | rfl | rfl | rfl | rfl | rfl | rfl |
    rfl | rfl | rfl | rfl <;> rfl

/-- An atom is read as its part. -/
lemma leads_pattern (atom : Atom) (rest : List Char) (parts : List Part) (captures : Nat) :
    Leads atom.pattern.length (reading (atom.pattern ++ rest) parts captures)
      (reading rest (atom.part captures :: parts) (atom.groupsAfter captures)) := by
  cases atom with
  | slot => exact ⟨4, by decide, fun fuel => rfl⟩
  | char c =>
    cases h : isMeta c with
    | false =>
      have hpattern : (Atom.char c).pattern = [c] := by simp [pattern, h]
      rw [hpattern]
      exact leads_of_step (step?_char h _ _ _ _)
    | true =>
      have hpattern : (Atom.char c).pattern = ['\\', c] := by simp [pattern, h]
      rw [hpattern]
      exact (leads_of_step (step?_escaped h _ _ _ _)).mono (by simp)

/-- Atoms are read as their parts, one after another. -/
lemma leads_patterns (atoms : List Atom) (rest : List Char) (before : List Part)
    (captures : Nat) :
    Leads (atoms.flatMap pattern).length
      (reading (atoms.flatMap pattern ++ rest) before captures)
      (reading rest ((parts captures atoms).reverse ++ before) (groupsOf captures atoms)) := by
  induction atoms generalizing captures before with
  | nil => exact .refl _
  | cons atom atoms ih =>
    rw [List.flatMap_cons, List.append_assoc, List.length_append, parts, List.reverse_cons,
      List.append_assoc, List.singleton_append, groupsOf]
    exact (leads_pattern atom _ _ _).trans (ih _ _)

/-- The parts of atoms are not nested deeply. -/
lemma depth_le_of_mem_parts {atoms : List Atom} {groups : Nat} :
    ∀ part ∈ parts groups atoms, part.depth ≤ 3 := by
  induction atoms generalizing groups with
  | nil => simp [parts]
  | cons atom atoms ih =>
    refine List.forall_mem_cons.2 ⟨?_, ih⟩
    cases atom <;> simp [part]

/-- The depth of a sequence of parts that are not nested deeply. -/
lemma foldl_depth_le {parts : List Part} {depth : Nat} (hdepth : depth ≤ 3)
    (hparts : ∀ part ∈ parts, part.depth ≤ 3) :
    parts.foldl (fun depth part => max depth part.depth) depth ≤ 3 := by
  induction parts generalizing depth with
  | nil => exact hdepth
  | cons part parts ih =>
    obtain ⟨hpart, hparts⟩ := List.forall_mem_cons.1 hparts
    exact ih (Nat.max_le.2 ⟨hdepth, hpart⟩) hparts

/-- The part for the beginning of a text. -/
def startPart : Part := ⟨.look .textStart, 0, true⟩

/-- The part for the end of a text. -/
def endPart : Part := ⟨.look .textEnd, 0, true⟩

/-- The pattern of atoms between the two ends of a text is read to its end. -/
lemma run?_wholePattern (atoms : List Atom) :
    (reading (wholePattern atoms) [] 0).run? ((wholePattern atoms).length + 1) =
      some (reading [] (endPart :: ((parts 0 atoms).reverse ++ [startPart]))
        (groupsOf 0 atoms)) := by
  have hstart : Leads 1 (reading (wholePattern atoms) [] 0)
      (reading (atoms.flatMap pattern ++ ['$']) [startPart] 0) := leads_of_step rfl
  have hend : Leads 1
      (reading ['$'] ((parts 0 atoms).reverse ++ [startPart]) (groupsOf 0 atoms))
      (reading [] (endPart :: ((parts 0 atoms).reverse ++ [startPart])) (groupsOf 0 atoms)) :=
    leads_of_step rfl
  have hlength : 1 + (atoms.flatMap pattern).length + 1 < (wholePattern atoms).length + 1 := by
    simp [wholePattern]
    omega
  obtain ⟨left, hleft⟩ :=
    ((hstart.trans (leads_patterns atoms _ _ _)).trans hend).exists_run?_eq hlength
  rw [hleft]
  rfl

/-- The sequence of at least two parts. -/
lemma sequence_cons {part : Part} {parts : List Part} (h : parts ≠ []) :
    Reader.sequence (part :: parts) =
      ⟨parts.foldl (fun acc part => .cat part.expr acc) part.expr,
        1 + (part :: parts).foldl (fun depth part => max depth part.depth) 0, true⟩ := by
  obtain ⟨first, rest, rfl⟩ := List.exists_cons_of_ne_nil h
  rfl

/-- **The pattern of atoms between the two ends of a text is read as their expression.** -/
theorem read?_wholePattern (atoms : List Atom) :
    read? (wholePattern atoms) = some (whole atoms) := by
  have hne : (parts 0 atoms).reverse ++ [startPart] ≠ [] := by simp
  have hdepth : (endPart :: ((parts 0 atoms).reverse ++ [startPart])).foldl
      (fun depth part => max depth part.depth) 0 ≤ 3 := by
    refine foldl_depth_le (Nat.zero_le _) fun part hpart => ?_
    simp only [List.mem_cons, List.mem_append, List.mem_reverse, List.not_mem_nil,
      or_false] at hpart
    obtain rfl | hpart | rfl := hpart
    · exact Nat.zero_le _
    · exact depth_le_of_mem_parts part hpart
    · exact Nat.zero_le _
  have hexpr : ((parts 0 atoms).reverse ++ [startPart]).foldl
      (fun acc part => .cat part.expr acc) endPart.expr = whole atoms := by
    rw [List.foldl_append, List.foldl_reverse, whole, ending, List.foldr_map]
    rfl
  have hread : read? (wholePattern atoms) =
      ((reading (wholePattern atoms) [] 0).run? ((wholePattern atoms).length + 1)).bind
        fun reader =>
          if reader.frames.isEmpty && reader.alternatives.depth ≤ Reader.maxDepth then
            some reader.alternatives.expr
          else none := rfl
  have hwhole : (reading [] (endPart :: ((parts 0 atoms).reverse ++ [startPart]))
      (groupsOf 0 atoms)).alternatives =
      Reader.sequence (endPart :: ((parts 0 atoms).reverse ++ [startPart])) := rfl
  rw [hread, run?_wholePattern, Option.bind_some, hwhole, sequence_cons hne, hexpr]
  refine if_pos (Bool.and_eq_true_iff.2 ⟨rfl, decide_eq_true ?_⟩)
  dsimp only [Reader.maxDepth]
  omega

end Atom

namespace Template

/-- The regular expression of a template is the pattern of its atoms. -/
lemma toList_pattern (template : Template) :
    template.pattern.toList = Atom.wholePattern (atoms template.segments) := by
  have hsegment : Segment.pattern = fun segment => segment.atoms.flatMap Atom.pattern := by
    funext segment
    cases segment with
    | literal text => rw [Segment.pattern, escape, Segment.atoms, List.flatMap_map]; rfl
    | slot index => rfl
  rw [pattern, String.toList_ofList, hsegment, Atom.wholePattern, atoms, List.flatMap_assoc]

/-- **The regular expression of a template compiles, unless it is too large**, and its program is
that of its atoms. -/
theorem compileUnbounded_pattern (template : Template) :
    compileUnbounded template.pattern =
      if (Atom.whole (atoms template.segments)).weight ≤ maxWeight then
        .ok ⟨template.pattern, (Atom.whole (atoms template.segments)).groupCount,
          (Atom.whole (atoms template.segments)).program⟩
      else .error .tooLarge := by
  rw [compileUnbounded, toList_pattern, Atom.read?_wholePattern]

end Template

end RequestRouting
