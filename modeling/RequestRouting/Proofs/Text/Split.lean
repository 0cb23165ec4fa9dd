import Mathlib.Data.List.Infix
import Mathlib.Tactic.Lemma
import RequestRouting.Text.Split

/-!
# Texts between delimiters

A text is split at every match of a character, and splitting is the inverse of joining.  With a
delimiter it is split at the first match, and what is behind that match is split again.  The
delimiter may have any number of characters but none, so that its matches could overlap; the one
that begins first counts.

## Main definitions

* `Splits` — a text has been split into chunks.
* `Trims` — a text has been freed of the delimiters at its ends.

## Main results

* `intercalate_splitOnChar`, `splitOnChar_intercalate` — joining undoes splitting, and splitting
  undoes joining if no piece has the mark.
* `splitOnText_eq_iff` — the chunks of a text are these and no others.
* `Splits.intercalate_eq` — joined by the delimiter they are the text.
* `trimText_eq_iff` — so is what is left of a text between the delimiters at its ends.
-/

set_option autoImplicit false

namespace RequestRouting

/-! ## Stripping -/

/-- What is stripped off a text was in front of the rest. -/
lemma eq_append_of_stripStart? {piece text rest : List Char}
    (h : stripStart? piece text = some rest) : text = piece ++ rest := by
  fun_induction stripStart? piece text with
  | case1 text =>
    cases h
    rfl
  | case2 => cases h
  | case3 piece c text ih => rw [ih h, List.cons_append]
  | case4 => cases h

/-- What is in front of a text can be stripped off. -/
lemma stripStart?_append (piece rest : List Char) :
    stripStart? piece (piece ++ rest) = some rest := by
  induction piece with
  | nil => rfl
  | cons c piece ih => simpa [stripStart?] using ih

/-- What is left in front of the end of a text. -/
lemma stripEnd?_eq_some {piece text rest : List Char} :
    stripEnd? piece text = some rest ↔ text = rest ++ piece := by
  simp only [stripEnd?, Option.map_eq_some_iff]
  constructor
  · rintro ⟨reversed, h, rfl⟩
    simpa using congrArg List.reverse (eq_append_of_stripStart? h)
  · rintro rfl
    exact ⟨rest.reverse, by rw [List.reverse_append, stripStart?_append], by simp⟩

/-! ## Splitting at a character -/

section Character

variable {mark : Char} {piece before : List Char}

/-- There is always a piece of a text. -/
lemma splitOnChar_ne_nil (mark : Char) (text : List Char) : splitOnChar mark text ≠ [] := by
  fun_induction splitOnChar mark text <;> simp

/-- The pieces of a text with the marks between them are the text. -/
lemma intercalate_splitOnChar (mark : Char) (text : List Char) :
    [mark].intercalate (splitOnChar mark text) = text := by
  fun_induction splitOnChar mark text with
  | case1 => rfl
  | case2 rest ih =>
    rw [List.intercalate_cons_of_ne_nil (splitOnChar_ne_nil _ _), ih]
    rfl
  | case3 c rest _ hsplit => exact absurd hsplit (splitOnChar_ne_nil _ _)
  | case4 c rest _ first more hsplit ih =>
    rw [hsplit] at ih
    rw [List.intercalate_cons_cons_left, ih]

/-- A character of a text is the mark, or it belongs to one of the pieces. -/
lemma mem_splitOnChar_of_mem {mark c : Char} {text : List Char} (h : c ∈ text) :
    c = mark ∨ ∃ piece ∈ splitOnChar mark text, c ∈ piece := by
  fun_induction splitOnChar mark text with
  | case1 => cases h
  | case2 rest ih =>
    rcases List.mem_cons.1 h with rfl | hrest
    · exact .inl rfl
    · obtain rfl | ⟨piece, hpiece, hc⟩ := ih hrest
      · exact .inl rfl
      · exact .inr ⟨piece, List.mem_cons_of_mem _ hpiece, hc⟩
  | case3 c' rest _ hsplit => exact absurd hsplit (splitOnChar_ne_nil _ _)
  | case4 c' rest _ first more hsplit ih =>
    simp only [hsplit, List.exists_mem_cons_iff] at ih
    rw [List.exists_mem_cons_iff, List.mem_cons]
    rcases List.mem_cons.1 h with rfl | hrest
    · exact .inr (.inl (.inl rfl))
    · exact (ih hrest).imp_right (Or.imp_left .inr)

/-- No piece has the mark. -/
lemma notMem_of_mem_splitOnChar {text : List Char} (h : piece ∈ splitOnChar mark text) :
    mark ∉ piece := by
  fun_induction splitOnChar mark text generalizing piece with
  | case1 => simp_all
  | case2 rest ih =>
    rcases List.mem_cons.1 h with rfl | hrest
    · exact List.not_mem_nil
    · exact ih hrest
  | case3 c rest _ hsplit => exact absurd hsplit (splitOnChar_ne_nil _ _)
  | case4 c rest hc first more hsplit ih =>
    rw [hsplit] at ih
    rcases List.mem_cons.1 h with rfl | hmore
    · have hfirst := ih List.mem_cons_self
      simp_all [eq_comm]
    · exact ih (List.mem_cons_of_mem _ hmore)

/-- The pieces are made of characters of the text. -/
lemma mem_of_mem_splitOnChar {text : List Char} {c : Char} (h : piece ∈ splitOnChar mark text)
    (hc : c ∈ piece) : c ∈ text := by
  fun_induction splitOnChar mark text generalizing piece with
  | case1 => simp_all
  | case2 rest ih =>
    rcases List.mem_cons.1 h with rfl | hrest
    · cases hc
    · exact List.mem_cons_of_mem _ (ih hrest hc)
  | case3 d rest _ hsplit => exact absurd hsplit (splitOnChar_ne_nil _ _)
  | case4 d rest _ first more hsplit ih =>
    rw [hsplit] at ih
    rcases List.mem_cons.1 h with rfl | hmore
    · rcases List.mem_cons.1 hc with rfl | hfirst
      · exact List.mem_cons_self
      · exact List.mem_cons_of_mem _ (ih List.mem_cons_self hfirst)
    · exact List.mem_cons_of_mem _ (ih (List.mem_cons_of_mem _ hmore) hc)

/-- Without the mark there is one piece. -/
lemma splitOnChar_of_notMem (h : mark ∉ piece) : splitOnChar mark piece = [piece] := by
  induction piece with
  | nil => rfl
  | cons c rest ih =>
    obtain ⟨hne, hrest⟩ := not_or.1 (mt List.mem_cons.2 h)
    rw [splitOnChar, if_neg (Ne.symm hne), ih hrest]

/-- The first piece ends at the first mark. -/
lemma splitOnChar_append_cons (h : mark ∉ piece) (rest : List Char) :
    splitOnChar mark (piece ++ mark :: rest) = piece :: splitOnChar mark rest := by
  induction piece with
  | nil => rw [List.nil_append, splitOnChar, if_pos rfl]
  | cons c piece ih =>
    obtain ⟨hne, hpiece⟩ := not_or.1 (mt List.mem_cons.2 h)
    rw [List.cons_append, splitOnChar, if_neg (Ne.symm hne), ih hpiece]

/-- Splitting undoes joining, if no piece has the mark. -/
lemma splitOnChar_intercalate {pieces : List (List Char)} (hne : pieces ≠ [])
    (h : ∀ piece ∈ pieces, mark ∉ piece) :
    splitOnChar mark ([mark].intercalate pieces) = pieces := by
  induction pieces with
  | nil => exact absurd rfl hne
  | cons piece pieces ih =>
    obtain ⟨hpiece, hpieces⟩ := List.forall_mem_cons.1 h
    cases pieces with
    | nil => rw [List.intercalate_singleton, splitOnChar_of_notMem hpiece]
    | cons next more =>
      rw [List.intercalate_cons_of_ne_nil (List.cons_ne_nil _ _), List.append_assoc,
        List.singleton_append, splitOnChar_append_cons hpiece, ih (List.cons_ne_nil _ _) hpieces]

/-- A text is split at its first mark. -/
lemma splitFirst?_append_cons (h : mark ∉ before) (after : List Char) :
    splitFirst? mark (before ++ mark :: after) = some (before, after) := by
  induction before with
  | nil => rw [List.nil_append, splitFirst?, if_pos rfl]
  | cons c before ih =>
    obtain ⟨hne, hbefore⟩ := not_or.1 (mt List.mem_cons.2 h)
    rw [List.cons_append, splitFirst?, if_neg (Ne.symm hne), ih hbefore, Option.map_some]

/-- A text without the mark is not split. -/
lemma splitFirst?_eq_none (h : mark ∉ piece) : splitFirst? mark piece = none := by
  induction piece with
  | nil => rfl
  | cons c rest ih =>
    obtain ⟨hne, hrest⟩ := not_or.1 (mt List.mem_cons.2 h)
    rw [splitFirst?, if_neg (Ne.symm hne), ih hrest, Option.map_none]

/-- The two sides of a mark, with the mark between them, are the text. -/
lemma eq_of_splitFirst? {text after : List Char}
    (h : splitFirst? mark text = some (before, after)) :
    text = before ++ mark :: after := by
  induction text generalizing before with
  | nil => cases h
  | cons c rest ih =>
    rw [splitFirst?] at h
    split at h
    · rename_i hc
      cases h
      rw [hc, List.nil_append]
    · obtain ⟨⟨front, back⟩, hrest, heq⟩ := Option.map_eq_some_iff.1 h
      cases heq
      rw [ih hrest, List.cons_append]

end Character

variable {delimiter text : List Char}

/-! ## Chunks -/

/-- A text has been split into chunks: it has no match of the delimiter and is a chunk as a whole,
or it is cut at the match that begins first and split behind that match. -/
inductive Splits (delimiter : List Char) : List Char → List (List Char) → Prop where
  | whole (text : List Char) (hnone : ∀ before after, text ≠ before ++ delimiter ++ after) :
    Splits delimiter text [text]
  | cut (chunk rest : List Char) {chunks : List (List Char)}
      (hfirst : ∀ before after, chunk ++ delimiter ++ rest = before ++ delimiter ++ after →
        chunk.length ≤ before.length)
      (h : Splits delimiter rest chunks) :
    Splits delimiter (chunk ++ delimiter ++ rest) (chunk :: chunks)

/-- A text is split in one way at most. -/
lemma Splits.unique {chunks chunks' : List (List Char)} (h : Splits delimiter text chunks)
    (h' : Splits delimiter text chunks') : chunks = chunks' := by
  induction h generalizing chunks' with
  | whole text hnone =>
    cases h' with
    | whole => rfl
    | cut chunk rest => exact absurd rfl (hnone chunk rest)
  | @cut chunk rest chunks hfirst h ih =>
    generalize htext : chunk ++ delimiter ++ rest = text at h'
    cases h' with
    | whole _ hnone => exact absurd htext.symm (hnone chunk rest)
    | @cut chunk' rest' chunks' hfirst' h' =>
      have hlength : chunk.length = chunk'.length :=
        Nat.le_antisymm (hfirst _ _ htext) (hfirst' _ _ htext.symm)
      rw [List.append_assoc, List.append_assoc] at htext
      obtain ⟨rfl, hrest⟩ := List.append_inj htext hlength
      obtain rfl := List.append_cancel_left hrest
      rw [ih h']

/-- Splitting a text of which the beginning is known to have no match splits it as a whole.

**Proof sketch.** Induction along the text.  A match in front of the text is the one that begins
first, since none begins in the chunk so far.  If there is none, the next character joins the
chunk. -/
lemma splits_splitFrom (hne : delimiter ≠ []) (chunk text : List Char)
    (hchunk : ∀ before after, chunk.reverse ++ text = before ++ delimiter ++ after →
      chunk.length ≤ before.length) :
    Splits delimiter (chunk.reverse ++ text) (splitFrom delimiter chunk text) := by
  have hpos := List.length_pos_iff.2 hne
  fun_induction splitFrom delimiter chunk text with
  | case1 chunk =>
    rw [List.append_nil] at hchunk ⊢
    refine .whole _ fun before after h => ?_
    have hle := hchunk before after h
    have hlength := congrArg List.length h
    simp only [List.length_reverse, List.length_append] at hlength
    omega
  | case2 chunk c rest after hstrip hempty => exact absurd (List.isEmpty_iff.1 hempty) hne
  | case3 chunk c rest after hstrip hempty ih =>
    rw [eq_append_of_stripStart? hstrip, ← List.append_assoc] at hchunk ⊢
    refine .cut _ _ (by simpa using hchunk) ?_
    simpa using ih fun _ _ _ => Nat.zero_le _
  | case4 chunk c rest hstrip ih =>
    have htext : (c :: chunk).reverse ++ rest = chunk.reverse ++ c :: rest := by simp
    rw [htext] at ih
    refine ih fun before after h => ?_
    have hle := hchunk before after h
    by_contra hlt
    have hlength : chunk.reverse.length = before.length := by
      rw [List.length_reverse]
      rw [List.length_cons] at hlt
      omega
    rw [List.append_assoc] at h
    obtain ⟨-, hrest⟩ := List.append_inj h hlength
    rw [hrest, stripStart?_append] at hstrip
    cases hstrip

/-- **The chunks of a text** are those into which it is split, and no others. -/
theorem splitOnText_eq_iff (hne : delimiter ≠ []) {chunks : List (List Char)} :
    splitOnText delimiter text = chunks ↔ Splits delimiter text chunks := by
  have hsplits : Splits delimiter text (splitOnText delimiter text) := by
    have hempty : delimiter.isEmpty = false := by simpa using hne
    rw [splitOnText, hempty]
    exact splits_splitFrom hne [] text fun _ _ _ => Nat.zero_le _
  constructor
  · rintro rfl
    exact hsplits
  · exact hsplits.unique

namespace Splits

variable {chunks : List (List Char)}

/-- There is at least one chunk. -/
lemma ne_nil (h : Splits delimiter text chunks) : chunks ≠ [] := by
  cases h <;> exact List.cons_ne_nil _ _

/-- **The chunks, joined by the delimiter, are the text.** -/
theorem intercalate_eq (h : Splits delimiter text chunks) :
    delimiter.intercalate chunks = text := by
  induction h with
  | whole text _ => exact List.intercalate_singleton
  | @cut chunk rest chunks _ h ih =>
    obtain ⟨first, others, rfl⟩ := List.exists_cons_of_ne_nil h.ne_nil
    rw [List.intercalate_cons_cons, ih]

/-- The first chunk is empty only if the text begins with the delimiter, or is empty. -/
lemma eq_nil_or_prefix (h : Splits delimiter text chunks) (hfirst : chunks.head? = some []) :
    text = [] ∨ delimiter <+: text := by
  cases h with
  | whole => exact .inl (Option.some.inj hfirst)
  | cut chunk rest _ h =>
    obtain rfl : chunk = [] := Option.some.inj hfirst
    exact .inr (List.prefix_append delimiter rest)

/-- The last chunk is empty only if the text ends with the delimiter, or is empty.

**Proof sketch.** Induction on the splitting.  The last chunk is that of the rest behind the first
match; if this rest is empty, then the match ends the text. -/
lemma eq_nil_or_suffix (h : Splits delimiter text chunks) (hlast : chunks.getLast? = some []) :
    text = [] ∨ delimiter <:+ text := by
  induction h with
  | whole => exact .inl (Option.some.inj hlast)
  | @cut chunk rest chunks _ h ih =>
    obtain ⟨first, others, rfl⟩ := List.exists_cons_of_ne_nil h.ne_nil
    rw [List.getLast?_cons_cons] at hlast
    rcases ih hlast with rfl | hsuffix
    · rw [List.append_nil]
      exact .inr (List.suffix_append chunk delimiter)
    · exact .inr (hsuffix.trans (List.suffix_append (chunk ++ delimiter) rest))

end Splits

/-! ## Trimming -/

/-- Copies of a delimiter, one after another. -/
def copies (count : Nat) (delimiter : List Char) : List Char :=
  (List.replicate count delimiter).flatten

/-- A text has been freed of the delimiters at its ends: of all those at its beginning, and then of
all those at the end of the rest. -/
def Trims (delimiter text rest : List Char) : Prop :=
  ∃ front back, text = copies front delimiter ++ (rest ++ copies back delimiter) ∧
    ¬ delimiter <+: rest ++ copies back delimiter ∧ ¬ delimiter <:+ rest

/-- What has been freed of delimiters does not begin with one: the copies behind it could not help
with that. -/
lemma Trims.not_prefix {rest : List Char} (h : Trims delimiter text rest) :
    ¬ delimiter <+: rest := by
  obtain ⟨front, back, -, hfront, -⟩ := h
  exact fun hbegins => hfront (hbegins.trans (List.prefix_append rest _))

/-- Copies are the same from their end. -/
lemma reverse_copies (count : Nat) (delimiter : List Char) :
    (copies count delimiter).reverse = copies count delimiter.reverse := by
  simp [copies, List.reverse_flatten]

/-- All copies at the beginning of a text are taken away. -/
lemma exists_trimStartText (hne : delimiter ≠ []) (text : List Char) :
    ∃ count, text = copies count delimiter ++ trimStartText delimiter text ∧
      ¬ delimiter <+: trimStartText delimiter text := by
  fun_induction trimStartText delimiter text with
  | case1 text hstrip =>
    refine ⟨0, rfl, ?_⟩
    rintro ⟨rest, rfl⟩
    rw [stripStart?_append] at hstrip
    cases hstrip
  | case2 text rest hstrip hempty => exact absurd (List.isEmpty_iff.1 hempty) hne
  | case3 text rest hstrip hempty ih =>
    obtain ⟨count, hrest, hnot⟩ := ih
    refine ⟨count + 1, ?_, hnot⟩
    rw [eq_append_of_stripStart? hstrip, copies, List.replicate_succ, List.flatten_cons,
      List.append_assoc]
    exact congrArg _ hrest

/-- What is left behind the copies is left in one way only. -/
lemma copies_append_inj {count count' : Nat} {rest rest' : List Char}
    (h : copies count delimiter ++ rest = copies count' delimiter ++ rest')
    (hrest : ¬ delimiter <+: rest) (hrest' : ¬ delimiter <+: rest') : rest = rest' := by
  induction count generalizing count' with
  | zero =>
    cases count' with
    | zero => exact h
    | succ count' =>
      refine absurd ⟨copies count' delimiter ++ rest', ?_⟩ hrest
      rw [← List.append_assoc]
      exact h.symm
  | succ count ih =>
    cases count' with
    | zero =>
      refine absurd ⟨copies count delimiter ++ rest, ?_⟩ hrest'
      rw [← List.append_assoc]
      exact h
    | succ count' =>
      simp only [copies, List.replicate_succ, List.flatten_cons, List.append_assoc] at h
      exact ih (List.append_cancel_left h)

/-- **What is left of a text between the delimiters at its ends** is the rest that has been freed of
them, and nothing else. -/
theorem trimText_eq_iff (hne : delimiter ≠ []) {rest : List Char} :
    trimText delimiter text = rest ↔ Trims delimiter text rest := by
  have hne' : delimiter.reverse ≠ [] := by simpa using hne
  obtain ⟨front, htext, hfront⟩ := exists_trimStartText hne text
  obtain ⟨back, hmiddle, hback⟩ :=
    exists_trimStartText hne' (trimStartText delimiter text).reverse
  -- Seen from the end, the copies at the end are copies at the beginning.
  have hmiddle : trimStartText delimiter text =
      trimText delimiter text ++ copies back delimiter := by
    rw [← List.reverse_inj, List.reverse_append, reverse_copies]
    simpa [trimText, trimEndText] using hmiddle
  have hback : ¬ delimiter.reverse <+: (trimText delimiter text).reverse := by
    simpa [trimText, trimEndText] using hback
  have htrims : Trims delimiter text (trimText delimiter text) := by
    refine ⟨front, back, ?_, ?_, List.reverse_prefix.not.1 hback⟩
    · rw [← hmiddle]
      exact htext
    · rwa [← hmiddle]
  constructor
  · rintro rfl
    exact htrims
  · rintro ⟨front', back', htext', hfront', hback'⟩
    have hsame := copies_append_inj (htext.symm.trans htext') hfront hfront'
    rw [hmiddle, ← List.reverse_inj, List.reverse_append, List.reverse_append, reverse_copies,
      reverse_copies] at hsame
    exact List.reverse_inj.1
      (copies_append_inj hsame hback (List.reverse_prefix.not.2 hback'))

end RequestRouting
