import Mathlib.Data.List.Basic
import Mathlib.Tactic.Lemma
import RequestRouting.Toml.Token

/-!
# Reading TOML piece by piece

A text is a sequence of pieces, each of which spells its own tokens.  Some pieces are finished by
their last character; others, such as words, blanks and strings between several quotes, are finished
by what comes next.

## Main definitions

* `Toml.feed` — the tokens that characters finish from a state on, and the state after them.
* `Toml.Goes` — characters lead from one state to another and finish nothing.
* `Toml.Spells`, `Toml.SpellsBefore` — a piece spells tokens, whatever follows or in front of a
  character.

## Main results

* `Toml.Spells.append`, `Toml.SpellsBefore.closed` — pieces spell their tokens one after another.
* `Toml.Spells.tokensOf?_eq` — a text of finished pieces consists of their tokens.
-/

set_option autoImplicit false

namespace RequestRouting

namespace Toml

variable {p q r : Pending} {c d : Char} {text rest : List Char} {tokens later : List Token}
  {token : Token}

/-! ## Characters one after another -/

/-- Puts tokens in front of those that are finished later. -/
def prepend (tokens : List Token) (outcome : Option (List Token × Pending)) :
    Option (List Token × Pending) :=
  outcome.map fun (later, last) => (tokens ++ later, last)

/-- The tokens that characters finish from a state on, and the state after them. -/
def feed (p : Pending) : List Char → Option (List Token × Pending)
  | [] => some ([], p)
  | c :: rest => (step p c).bind fun (tokens, q) => prepend tokens (feed q rest)

/-- No tokens in front. -/
@[simp] lemma prepend_nil (outcome : Option (List Token × Pending)) :
    prepend [] outcome = outcome := by
  cases outcome <;> rfl

/-- Tokens in front of tokens in front. -/
@[simp] lemma prepend_prepend (tokens later : List Token)
    (outcome : Option (List Token × Pending)) :
    prepend tokens (prepend later outcome) = prepend (tokens ++ later) outcome := by
  cases outcome <;> simp [prepend]

/-- The first character, and then the others. -/
lemma feed_cons (h : step p c = some (tokens, q)) (rest : List Char) :
    feed p (c :: rest) = prepend tokens (feed q rest) := by
  rw [feed, h, Option.bind_some]

/-- Characters after others go on from the state that those have led to. -/
lemma feed_append (p : Pending) (text rest : List Char) :
    feed p (text ++ rest) =
      (feed p text).bind fun (tokens, q) => prepend tokens (feed q rest) := by
  induction text generalizing p with
  | nil => simp [feed]
  | cons c text ih =>
    simp only [List.cons_append, feed]
    cases step p c with
    | none => rfl
    | some found =>
      obtain ⟨tokens, q⟩ := found
      simp only [Option.bind_some, ih]
      cases feed q text with
      | none => rfl
      | some reached => simp [prepend, Function.comp_def]

/-- The finished tokens are kept in reverse. -/
lemma foldlM_advance (p : Pending) (text : List Char) (done : List Token) :
    text.foldlM advance (done, p) =
      (feed p text).map fun (tokens, last) => (tokens.reverse ++ done, last) := by
  induction text generalizing p done with
  | nil => rfl
  | cons c text ih =>
    simp only [List.foldlM_cons, advance, feed]
    cases step p c with
    | none => rfl
    | some found =>
      obtain ⟨tokens, q⟩ := found
      simp only [Option.map_some, bind, Option.bind_some, ih, prepend, Option.map_map]
      congr 1
      funext reached
      simp

/-! ## States -/

/-- Characters lead from one state to another and finish no token. -/
def Goes (p : Pending) (text : List Char) (q : Pending) : Prop := feed p text = some ([], q)

/-- No characters lead nowhere else. -/
lemma Goes.nil : Goes p [] p := rfl

/-- A character that finishes no token comes in front. -/
lemma Goes.cons (hstep : step p c = goOn q) (h : Goes q text r) : Goes p (c :: text) r := by
  unfold Goes at h ⊢
  rw [feed_cons hstep, h]
  rfl

/-- A single character that finishes no token. -/
lemma Goes.single (hstep : step p c = goOn q) : Goes p [c] q := .cons hstep .nil

/-- What comes behind goes on from the state that has been reached. -/
lemma Goes.feed_append (h : Goes p text q) (rest : List Char) :
    feed p (text ++ rest) = feed q rest := by
  unfold Goes at h
  simp [Toml.feed_append, h]

/-- One way after another. -/
lemma Goes.append (h : Goes p text q) (hrest : Goes q rest r) : Goes p (text ++ rest) r :=
  (h.feed_append rest).trans hrest

/-- States that do the same with the first character do the same with all. -/
lemma feed_congr (h : step p c = step q c) (rest : List Char) :
    feed p (c :: rest) = feed q (c :: rest) := by
  simp only [feed, h]

/-! ## Pieces -/

/-- A piece spells tokens, whatever follows. -/
def Spells (text : List Char) (tokens : List Token) : Prop := feed .idle text = some (tokens, .idle)

/-- A piece spells tokens in front of a character. -/
def SpellsBefore (c : Char) (text : List Char) (tokens : List Token) : Prop :=
  ∀ rest, feed .idle (text ++ c :: rest) = prepend tokens (feed .idle (c :: rest))

/-- Nothing spells no tokens. -/
lemma Spells.nil : Spells [] [] := rfl

/-- What spells tokens whatever follows does so in front of a character. -/
lemma Spells.before (h : Spells text tokens) (c : Char) : SpellsBefore c text tokens := by
  intro rest
  unfold Spells at h
  rw [feed_append, h]
  rfl

/-- Finished pieces spell their tokens one after another. -/
lemma Spells.append (h : Spells text tokens) (hrest : Spells rest later) :
    Spells (text ++ rest) (tokens ++ later) := by
  unfold Spells at h hrest ⊢
  simp [feed_append, h, hrest, prepend]

/-- A piece in front of another one that is finished. -/
lemma SpellsBefore.closed (h : SpellsBefore c text tokens) (hrest : Spells (c :: rest) later) :
    Spells (text ++ c :: rest) (tokens ++ later) := by
  unfold Spells at hrest ⊢
  rw [h, hrest]
  rfl

/-- A token that is finished in front of a character. -/
lemma feed_of_emitThen (hstep : step p c = emitThen token c) (rest : List Char) :
    feed p (c :: rest) = prepend [token] (feed .idle (c :: rest)) := by
  rcases hstart : startToken c with ⟨tokens, q⟩
  have hidle : step .idle c = some (tokens, q) := congrArg some hstart
  have hemit : step p c = some (token :: tokens, q) := by rw [hstep, emitThen, hstart]
  rw [feed_cons hidle, feed_cons hemit, prepend_prepend, List.singleton_append]

/-- A piece that is finished by what comes next. -/
lemma Goes.spellsBefore (h : Goes .idle text p) (hstep : step p c = emitThen token c) :
    SpellsBefore c text [token] := by
  intro rest
  rw [h.feed_append, feed_of_emitThen hstep]

/-- A piece that is finished by its last character. -/
lemma Goes.spells (h : Goes .idle text p) (hstep : step p c = some ([token], .idle)) :
    Spells (text ++ [c]) [token] := by
  unfold Spells
  rw [h.feed_append, feed_cons hstep]
  rfl

/-- A text of finished pieces consists of their tokens. -/
theorem Spells.tokensOf?_eq (h : Spells text tokens) : tokensOf? text = some tokens := by
  unfold Spells at h
  simp [tokensOf?, foldlM_advance, h, finish?]

/-! ## Punctuation, blanks and words -/

/-- A character that is a token by itself. -/
lemma spells_char (h : startToken c = ([token], .idle)) : Spells [c] [token] := by
  unfold Spells
  simp [feed, step, h, prepend]

/-- A character that ends no word begins one. -/
lemma startToken_of_not_endsWord (h : endsWord c = false) : startToken c = ([], .word [c]) := by
  unfold endsWord at h
  simp only [Bool.or_eq_false_iff, beq_eq_false_iff_ne, ne_eq, Option.isSome_eq_false_iff,
    Option.isNone_iff_eq_none] at h
  obtain ⟨⟨⟨⟨⟨⟨hblank, hline⟩, hreturn⟩, hcomment⟩, hdouble⟩, hsingle⟩, hnone⟩ := h
  simp [startToken, hblank, hline, hreturn, hcomment, hdouble, hsingle, hnone]

/-- A word goes on as long as nothing ends it. -/
lemma goes_word (h : ∀ c ∈ text, endsWord c = false) (chars : List Char) :
    Goes (.word chars) text (.word (text.reverse ++ chars)) := by
  induction text generalizing chars with
  | nil => exact .nil
  | cons c text ih =>
    obtain ⟨hc, htext⟩ := List.forall_mem_cons.1 h
    have hstep : step (.word chars) c = goOn (.word (c :: chars)) := by simp [step, hc]
    rw [List.reverse_cons, List.append_assoc, List.singleton_append]
    exact .cons hstep (ih htext (c :: chars))

/-- A word in front of a character that ends it. -/
lemma spellsBefore_word (hne : text ≠ []) (h : ∀ c ∈ text, endsWord c = false)
    (hend : endsWord d = true) : SpellsBefore d text [.word text] := by
  obtain ⟨c, rest, rfl⟩ := List.exists_cons_of_ne_nil hne
  obtain ⟨hc, hrest⟩ := List.forall_mem_cons.1 h
  have hstart : step .idle c = goOn (.word [c]) := by
    simp [step, goOn, startToken_of_not_endsWord hc]
  have hgoes := Goes.cons hstart (goes_word hrest [c])
  refine hgoes.spellsBefore ?_
  simp [step, hend]

/-- Spaces in front of a character that is no blank. -/
lemma spellsBefore_spaces (n : Nat) (hend : isBlankChar d = false) :
    SpellsBefore d (List.replicate (n + 1) ' ') [.blank (List.replicate (n + 1) ' ')] := by
  have hgoes (n : Nat) (chars : List Char) : Goes (.blank chars) (List.replicate n ' ')
      (.blank (List.replicate n ' ' ++ chars)) := by
    induction n generalizing chars with
    | zero => exact .nil
    | succ n ih =>
      have hcomm : List.replicate (n + 1) ' ' ++ chars = List.replicate n ' ' ++ ' ' :: chars := by
        rw [List.replicate_succ', List.append_assoc, List.singleton_append]
      rw [hcomm, List.replicate_succ]
      exact .cons rfl (ih (' ' :: chars))
  have hstart : step .idle ' ' = goOn (.blank [' ']) := rfl
  have hspaces := Goes.cons hstart (hgoes n [' '])
  refine hspaces.spellsBefore ?_
  rw [← List.replicate_succ', step, hend, List.reverse_replicate]
  rfl

end Toml

end RequestRouting
