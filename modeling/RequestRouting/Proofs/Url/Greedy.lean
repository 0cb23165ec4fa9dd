import Mathlib.Data.List.Lex
import RequestRouting.Proofs.Url.Match

/-!
# The matcher prefers long pieces

A path can often be cut in several ways: `a-b-c` is `{x}-{y}` with `a` and `b-c`, and with `a-b` and
`c`.  Of all the ways in which no piece is empty the matcher finds the one whose first piece is as
long as possible, then the one whose second piece is, and so on.

## Main definitions

* `Template.Prefers` — some pieces are the preferred ones among all that a path can be cut into.

## Main results

* `Template.cut_eq_some_iff` — the matcher finds the preferred pieces, and nothing else.
* `Template.isSome_cut_iff` — it finds some if and only if there are any.
-/

set_option autoImplicit false

namespace RequestRouting

namespace Template

/-- Some pieces of a path are not empty, and of all such pieces they have the greatest lengths: the
first of them if they differ in the first, else the second, and so on. -/
structure Prefers (segments : List Segment) (pieces : List (List Char)) (path : List Char) :
    Prop where
  cuts : Cuts segments pieces path
  nonempty : [] ∉ pieces
  /-- Lists of lengths are ordered lexicographically. -/
  greatest : ∀ other, Cuts segments other path → [] ∉ other →
    other.map List.length ≤ pieces.map List.length

/-- The lengths of the pieces tell where a path is cut. -/
lemma Cuts.eq_of_lengths {segments : List Segment} {pieces other : List (List Char)}
    {path : List Char} (h : Cuts segments pieces path) (hother : Cuts segments other path)
    (hlengths : pieces.map List.length = other.map List.length) : pieces = other := by
  generalize hpath : path = path' at hother
  induction h generalizing other path' with
  | nil =>
    cases hother
    rfl
  | literal text h ih =>
    obtain _ | @⟨_, _, _, _, hother⟩ := hother
    exact ih hlengths _ (List.append_cancel_left hpath) hother
  | slot index hslash h ih =>
    obtain _ | _ | @⟨_, _, _, _, _, _, hother⟩ := hother
    obtain ⟨hfirst, hrest⟩ := List.cons.inj hlengths
    obtain ⟨rfl, hlater⟩ := List.append_inj hpath hfirst
    rw [ih hrest _ hlater hother]

/-- The lengths that the matcher tries go down. -/
lemma pairwise_downFrom (n : ℕ) : (downFrom n).Pairwise (· > ·) := by
  simp only [downFrom, List.pairwise_map, List.pairwise_reverse]
  exact List.pairwise_lt_range.imp fun hlt => Nat.succ_lt_succ hlt

/-- No other pieces of the path are preferred to those that the matcher finds.

**Proof sketch.** Induction on the segments.  At a slot every greater length was tried before and
gave nothing, so that there is no way to cut the path with a longer piece; with a piece of the same
length the rest of the path is the same. -/
theorem lengths_le_of_cut {segments : List Segment} {path : List Char}
    {pieces other : List (List Char)} (h : cut segments path = some pieces)
    (hother : Cuts segments other path) (hne : [] ∉ other) :
    other.map List.length ≤ pieces.map List.length := by
  induction hother generalizing pieces with
  | nil =>
    cases h
    exact le_rfl
  | literal text _ ih =>
    simp only [cut, stripStart?_append] at h
    exact ih h hne
  | @slot index piece segments later path hslash hcuts ih =>
    obtain ⟨hpiece, hlater⟩ := not_or.1 (mt List.mem_cons.2 hne)
    simp only [cut] at h
    obtain ⟨longer, length, shorter, hall, hfound, hfailed⟩ := List.findSome?_eq_some_iff.1 h
    obtain ⟨rest, hrest, rfl⟩ := Option.map_eq_some_iff.1 hfound
    have hlength : length ∈ downFrom ((piece ++ path).takeWhile (· ≠ '/')).length :=
      hall ▸ List.mem_append_right _ (List.mem_cons_self ..)
    have htake : ((piece ++ path).take length).length = length :=
      List.length_take_of_le ((mem_downFrom.1 hlength).2.trans (List.takeWhile_prefix _).length_le)
    -- the piece that is given is among those that the matcher tries, and gives something
    have hmem : piece.length ∈ downFrom ((piece ++ path).takeWhile (· ≠ '/')).length := by
      refine mem_downFrom.2 ⟨List.length_pos_iff.2 fun hnil => hpiece hnil.symm, ?_⟩
      rw [takeWhile_append hslash, List.length_append]
      omega
    have hgives : piece.length ∉ longer := by
      intro hlonger
      have hnone := hfailed _ hlonger
      have hsome := isSome_cut hcuts hlater
      rw [List.drop_left, Option.map_eq_none_iff] at hnone
      rw [hnone] at hsome
      cases hsome
    rw [List.map_cons, List.map_cons, htake]
    rw [hall, List.mem_append, List.mem_cons] at hmem
    obtain hlonger | heq | hshorter := hmem
    · exact absurd hlonger hgives
    · rw [← heq, List.drop_left] at hrest
      exact heq ▸ List.cons_le_cons _ (ih hrest hlater)
    · have hpairwise := pairwise_downFrom ((piece ++ path).takeWhile (· ≠ '/')).length
      rw [hall] at hpairwise
      have hlt := List.rel_of_pairwise_cons (List.pairwise_append.1 hpairwise).2.1 hshorter
      exact le_of_lt (List.Lex.rel hlt)

/-- **The matcher finds the preferred pieces, and nothing else.** -/
theorem cut_eq_some_iff {segments : List Segment} {path : List Char} {pieces : List (List Char)} :
    cut segments path = some pieces ↔ Prefers segments pieces path := by
  constructor
  · intro h
    obtain ⟨hcuts, hne⟩ := cuts_of_cut h
    exact ⟨hcuts, hne, fun other hother hnil => lengths_le_of_cut h hother hnil⟩
  · intro h
    obtain ⟨found, hfound⟩ := Option.isSome_iff_exists.1 (isSome_cut h.cuts h.nonempty)
    obtain ⟨hcuts, hne⟩ := cuts_of_cut hfound
    have hlengths := le_antisymm (h.greatest found hcuts hne)
      (lengths_le_of_cut hfound h.cuts h.nonempty)
    rw [hfound, hcuts.eq_of_lengths h.cuts hlengths]

/-- **The matcher finds pieces if and only if there are any** that are not empty. -/
theorem isSome_cut_iff {segments : List Segment} {path : List Char} :
    (cut segments path).isSome = true ↔ ∃ pieces, Cuts segments pieces path ∧ [] ∉ pieces := by
  constructor
  · intro h
    obtain ⟨pieces, hpieces⟩ := Option.isSome_iff_exists.1 h
    exact ⟨pieces, cuts_of_cut hpieces⟩
  · rintro ⟨pieces, hcuts, hne⟩
    exact isSome_cut hcuts hne

end Template

end RequestRouting
