import RequestRouting.Proofs.Regex.Search
import RequestRouting.Proofs.Url.Expression

/-!
# The code of the regular expression of a template

The program for a template has one instruction for every character of literal text and four for
every slot: two that store where the piece begins and ends, one that reads a character, and one that
goes back to it or on.

## Main definitions

* `Atom.Laid` — the instructions of some atoms, from one index to another.
* `Atom.Emitted` — the code for some atoms up to the end of a text.

## Main results

* `Atom.exists_emitted`, `Atom.exists_program_whole` — the code of an expression for atoms is laid
  out like that.
-/

set_option autoImplicit false

namespace RequestRouting

open Regex

namespace Atom

/-- The instructions of some atoms, from one index to another.  The second number is that of the
groups in front of them. -/
inductive Laid (code : Array Instr) (done : Nat) : Nat → Nat → List Atom → Prop where
  | nil (groups : Nat) : Laid code done done groups []
  | char {entry next groups : Nat} {c : Char} {atoms : List Atom}
      (hentry : code[entry]? = some (.chars (CharSet.single c).table next))
      (hrest : Laid code done next groups atoms) :
    Laid code done entry groups (.char c :: atoms)
  | slot {entry inside loop close next groups : Nat} {atoms : List Atom}
      (hentry : code[entry]? = some (.save (2 * (groups + 1)) inside))
      (hinside : code[inside]? = some (.chars pieceSet.table loop))
      (hloop : code[loop]? = some (.fork inside close))
      (hclose : code[close]? = some (.save (2 * (groups + 1) + 1) next))
      (hrest : Laid code done next (groups + 1) atoms) :
    Laid code done entry groups (.slot :: atoms)

/-- More code behind it leaves the instructions where they are. -/
lemma Laid.append {code : Array Instr} {done entry groups : Nat} {atoms : List Atom}
    (h : Laid code done entry groups atoms) (block : Array Instr) :
    Laid (code ++ block) done entry groups atoms := by
  have hkeep : ∀ {index : Nat} {instr : Instr}, code[index]? = some instr →
      (code ++ block)[index]? = some instr := fun hcode =>
    (Array.getElem?_append_left (Array.getElem?_eq_some_iff.1 hcode).1).trans hcode
  induction h with
  | nil groups => exact .nil groups
  | char hentry _ ih => exact .char (hkeep hentry) ih
  | slot hentry hinside hloop hclose _ ih =>
    exact .slot (hkeep hentry) (hkeep hinside) (hkeep hloop) (hkeep hclose) ih

/-- The code of a character. -/
lemma emit_char (c : Char) (groups next : Nat) (code : Array Instr) :
    ((Atom.char c).expr groups).emit next code =
      (code.size, code ++ #[.chars (CharSet.single c).table next]) :=
  rfl

/-- The code of a slot. -/
lemma emit_slot (groups next : Nat) (code : Array Instr) :
    (Atom.slot.expr groups).emit next code =
      (code.size + 3, code ++ #[.save (2 * (groups + 1) + 1) next,
        .fork (code.size + 2) code.size, .chars pieceSet.table (code.size + 1),
        .save (2 * (groups + 1)) (code.size + 2)]) := by
  obtain ⟨code⟩ := code
  simp [expr, Expr.emit, Regex.emit, emitPlus, emitTimes, forkFor]

/-- Behind some code stands the code that was added. -/
lemma getElem?_append_add (code block : Array Instr) (k : Nat) :
    (code ++ block)[code.size + k]? = block[k]? := by
  rw [Array.getElem?_append_right (Nat.le_add_right ..), Nat.add_sub_cancel_left]

/-- More code behind it leaves a code without empty loops, if it has none itself. -/
lemma descends_append {code block : Array Instr} (h : Descends code)
    (hblock : ∀ (k : Nat) (instr : Instr), block[k]? = some instr → ∀ next ∈ instr.jumps,
      next < code.size + k ∨ ∃ table later, (code ++ block)[next]? = some (.chars table later)) :
    Descends (code ++ block) := by
  intro index instr hcode next hjump
  obtain hlt | hle := Nat.lt_or_ge index code.size
  · rw [Array.getElem?_append_left hlt] at hcode
    obtain hearlier | ⟨table, later, hchars⟩ := h index instr hcode next hjump
    · exact .inl hearlier
    · exact .inr ⟨table, later,
        (Array.getElem?_append_left (Array.getElem?_eq_some_iff.1 hchars).1).trans hchars⟩
  · rw [Array.getElem?_append_right hle] at hcode
    simpa [Nat.add_sub_cancel' hle] using hblock _ instr hcode next hjump

/-- The code for some atoms up to the end of a text: a match ends at the first instruction, and the
second one looks for the end of the text. -/
structure Emitted (groups : Nat) (atoms : List Atom) (entry : Nat) (code : Array Instr) :
    Prop where
  accept : code[0]? = some .accept
  textEnd : code[1]? = some (.look .textEnd 0)
  laid : Laid code 1 entry groups atoms
  entry_lt : entry < code.size
  descends : Descends code

/-- The code for some atoms with more code behind it, laid out for others. -/
lemma Emitted.append {groups groups' entry entry' : Nat} {atoms atoms' : List Atom}
    {code block : Array Instr} (h : Emitted groups atoms entry code)
    (hlaid : Laid (code ++ block) 1 entry' groups' atoms')
    (hentry : entry' < code.size + block.size)
    (hblock : ∀ (k : Nat) (instr : Instr), block[k]? = some instr → ∀ next ∈ instr.jumps,
      next < code.size + k ∨ ∃ table later, (code ++ block)[next]? = some (.chars table later)) :
    Emitted groups' atoms' entry' (code ++ block) where
  accept := (Array.getElem?_append_left (Array.getElem?_eq_some_iff.1 h.accept).1).trans h.accept
  textEnd := (Array.getElem?_append_left (Array.getElem?_eq_some_iff.1 h.textEnd).1).trans h.textEnd
  laid := hlaid
  entry_lt := Array.size_append ▸ hentry
  descends := descends_append h.descends hblock

/-- **The code of the expression for some atoms up to the end of a text is laid out atom by atom.**

**Proof sketch.** Induction on the atoms: their code is emitted from the last to the first. -/
theorem exists_emitted (groups : Nat) (atoms : List Atom) :
    ∃ entry code, (ending groups atoms).emit 0 #[.accept] = (entry, code) ∧
      Emitted groups atoms entry code := by
  induction atoms generalizing groups with
  | nil =>
    refine ⟨1, #[.accept, .look .textEnd 0], rfl, rfl, rfl, .nil groups, by decide, ?_⟩
    intro index instr hcode next hjump
    obtain _ | _ | index := index
    · cases hcode
      cases hjump
    · cases hcode
      simp [Instr.jumps] at hjump
      omega
    · cases hcode
  | cons atom atoms ih =>
    obtain ⟨entry, code, hemit, h⟩ := ih (atom.groupsAfter groups)
    have hentry := h.entry_lt
    have hcat : (ending groups (atom :: atoms)).emit 0 #[.accept] =
        (atom.expr groups).emit entry code := by
      change (Expr.cat (atom.expr groups) (ending (atom.groupsAfter groups) atoms)).emit 0
        #[.accept] = _
      rw [Expr.emit, hemit]
    cases atom with
    | char c =>
      refine ⟨_, _, hcat.trans (emit_char c groups entry code), h.append ?_ (by simp) ?_⟩
      · exact .char (getElem?_append_add code _ 0) (h.laid.append _)
      · intro k instr hcode next hjump
        obtain _ | k := k
        · cases hcode
          cases hjump
        · cases hcode
    | slot =>
      refine ⟨_, _, hcat.trans (emit_slot groups entry code), h.append ?_ (by simp) ?_⟩
      · exact .slot (getElem?_append_add code _ 3) (getElem?_append_add code _ 2)
          (getElem?_append_add code _ 1) (getElem?_append_add code _ 0) (h.laid.append _)
      · intro k instr hcode next hjump
        obtain _ | _ | _ | _ | k := k <;> cases hcode <;> simp [Instr.jumps] at hjump
        · exact .inl (by omega)
        · obtain rfl | rfl := hjump
          · exact .inr ⟨_, _, getElem?_append_add code _ 2⟩
          · exact .inl (by omega)
        · exact .inl (by omega)

/-- **The program of the expression for some atoms** first looks for the beginning of the text. -/
theorem exists_program_whole (atoms : List Atom) :
    ∃ entry, Emitted 0 atoms entry (whole atoms).program.code ∧
      (whole atoms).program.code[(whole atoms).program.entry]? =
        some (.look .textStart entry) := by
  obtain ⟨entry, code, hemit, h⟩ := exists_emitted 0 atoms
  have hentry := h.entry_lt
  have hprogram : (whole atoms).program = ⟨code ++ #[.look .textStart entry], code.size⟩ := by
    change (⟨((whole atoms).emit 0 #[.accept]).2, ((whole atoms).emit 0 #[.accept]).1⟩ :
      Program) = _
    rw [whole, Expr.emit, hemit]
    rfl
  rw [hprogram]
  refine ⟨entry, h.append (h.laid.append _) (Nat.lt_add_right _ hentry) ?_,
    getElem?_append_add code _ 0⟩
  intro k instr hcode next hjump
  obtain _ | k := k
  · cases hcode
    obtain rfl := List.mem_singleton.1 hjump
    exact .inl hentry
  · cases hcode

end Atom

end RequestRouting
