import Mathlib.Data.List.TakeWhile
import Mathlib.Tactic.Lemma
import RequestRouting.Proofs.Text.Split
import RequestRouting.Url.Match

/-!
# Cutting paths

A path that is made of the literal text of a template and of pieces without slashes can be cut into
such pieces again.  If slashes of the literal text stand between the slots, there is only one way to
cut it, and the matcher finds that one unless a piece is empty.

## Main definitions

* `Template.Cuts` — a path is the text of some segments with pieces in the place of the slots.
* `Template.SlashSeparated` — a slash stands in the literal text between any two consecutive slots.
* `Template.separatedFrom` — the decision procedure for it.

## Main results

* `Template.Cuts.unique` — with slashes in between, the pieces are determined by the path.
* `Template.cuts_of_cut`, `Template.isSome_cut` — the matcher finds pieces that are not empty, if
  there are any.
* `Template.cut_eq` — what the matcher answers for a path that is cut into given pieces.
-/

set_option autoImplicit false

namespace RequestRouting

namespace Template

/-! ## Pieces of a path -/

/-- A path is the text of some segments with pieces in the place of the slots.  The pieces have no
slash, and may be empty. -/
inductive Cuts : List Segment → List (List Char) → List Char → Prop where
  | nil : Cuts [] [] []
  | literal (text : String) {segments : List Segment} {pieces : List (List Char)}
      {path : List Char} (h : Cuts segments pieces path) :
    Cuts (.literal text :: segments) pieces (text.toList ++ path)
  | slot (index : Nat) {piece : List Char} {segments : List Segment} {pieces : List (List Char)}
      {path : List Char} (hslash : '/' ∉ piece) (h : Cuts segments pieces path) :
    Cuts (.slot index :: segments) (piece :: pieces) (piece ++ path)

/-- A piece without slashes belongs to the text in front of the first slash. -/
lemma takeWhile_append {piece : List Char} (hslash : '/' ∉ piece) (rest : List Char) :
    (piece ++ rest).takeWhile (· ≠ '/') = piece ++ rest.takeWhile (· ≠ '/') := by
  refine List.takeWhile_append_of_pos fun c hc => decide_eq_true ?_
  rintro rfl
  exact hslash hc

/-! ## Slashes between slots -/

/-- Some literal text among segments has a slash. -/
def HasSlash (segments : List Segment) : Prop :=
  ∃ text, .literal text ∈ segments ∧ '/' ∈ text.toList

/-- A slash stands in the literal text between any two consecutive slots. -/
def SlashSeparated (template : Template) : Prop :=
  ∀ before between after i j,
    template.segments = before ++ .slot i :: (between ++ .slot j :: after) →
    (∀ k, .slot k ∉ between) → HasSlash between

/-- Whether a slash stands between any two consecutive slots of some segments.  The first argument
tells whether there has been a slot in front of them, and no slash since. -/
def separatedFrom : Bool → List Segment → Bool
  | _, [] => true
  | pending, .literal text :: segments =>
    separatedFrom (pending && !text.toList.contains '/') segments
  | pending, .slot _ :: segments => !pending && separatedFrom true segments

/-- From a slot without a slash since, the next slot is not reached. -/
lemma not_separatedFrom_true {between : List Segment} {j : Nat} {after : List Segment}
    (hslot : ∀ k, .slot k ∉ between) (hslash : ¬ HasSlash between) :
    separatedFrom true (between ++ .slot j :: after) = false := by
  induction between with
  | nil => rfl
  | cons segment rest ih =>
    cases segment with
    | slot k => exact absurd (List.mem_cons_self ..) (hslot k)
    | literal text =>
      have htext : '/' ∉ text.toList := fun hmem => hslash ⟨text, List.mem_cons_self .., hmem⟩
      have hrest := ih (fun k hk => hslot k (List.mem_cons_of_mem _ hk))
        fun ⟨other, hother, hmem⟩ => hslash ⟨other, List.mem_cons_of_mem _ hother, hmem⟩
      simpa [separatedFrom, htext] using hrest

/-- What is separated from some point on is separated from any later point on. -/
lemma separatedFrom_of_append {before segments : List Segment} {pending : Bool}
    (h : separatedFrom pending (before ++ segments) = true) :
    ∃ later, separatedFrom later segments = true := by
  induction before generalizing pending with
  | nil => exact ⟨pending, h⟩
  | cons segment rest ih =>
    cases segment with
    | literal text => exact ih h
    | slot k => exact ih (Bool.and_eq_true_iff.1 h).2

/-- The decision procedure accepts segments in which a slash stands between consecutive slots, and
between the slot in front of them and their first. -/
lemma separatedFrom_of_slashes {segments : List Segment} {pending : Bool}
    (hfirst : pending = true → ∀ between after j, segments = between ++ .slot j :: after →
      (∀ k, .slot k ∉ between) → HasSlash between)
    (hrest : ∀ before between after i j,
      segments = before ++ .slot i :: (between ++ .slot j :: after) →
      (∀ k, .slot k ∉ between) → ∃ text, .literal text ∈ between ∧ '/' ∈ text.toList) :
    separatedFrom pending segments = true := by
  induction segments generalizing pending with
  | nil => rfl
  | cons segment rest ih =>
    have hlater : ∀ before between after i j,
        rest = before ++ .slot i :: (between ++ .slot j :: after) →
        (∀ k, .slot k ∉ between) → HasSlash between :=
      fun before between after i j heq =>
        hrest (segment :: before) between after i j (by rw [heq, List.cons_append])
    cases segment with
    | literal text =>
      refine ih (fun hpending between after j heq hslot => ?_) hlater
      simp only [Bool.and_eq_true, Bool.not_eq_true', List.contains_eq_mem,
        decide_eq_false_iff_not] at hpending
      have hslot' : ∀ k, .slot k ∉ .literal text :: between := by simpa using hslot
      obtain ⟨other, hother, hslash⟩ := hfirst hpending.1 (.literal text :: between) after j
        (by rw [heq, List.cons_append]) hslot'
      rcases List.mem_cons.1 hother with hother | hother
      · cases hother
        exact absurd hslash hpending.2
      · exact ⟨other, hother, hslash⟩
    | slot k =>
      cases pending with
      | true =>
        obtain ⟨text, htext, -⟩ := hfirst rfl [] rest k rfl (fun _ => List.not_mem_nil)
        cases htext
      | false =>
        refine ih (fun _ between after j heq hslot => ?_) hlater
        exact hrest [] between after k j (by rw [heq, List.nil_append]) hslot

/-- The decision procedure decides. -/
theorem slashSeparated_iff {template : Template} :
    template.SlashSeparated ↔ separatedFrom false template.segments = true := by
  constructor
  · intro h
    exact separatedFrom_of_slashes (fun hfalse => by cases hfalse) h
  · intro h before between after i j heq hslot
    refine Classical.byContradiction fun hnone => ?_
    rw [heq] at h
    obtain ⟨later, hlater⟩ := separatedFrom_of_append h
    have htrue := (Bool.and_eq_true_iff.1 hlater).2
    rw [not_separatedFrom_true hslot hnone] at htrue
    cases htrue

instance (template : Template) : Decidable template.SlashSeparated :=
  decidable_of_iff _ slashSeparated_iff.symm

/-! ## Uniqueness -/

/-- Two pieces in front of one path are equal, if the same segments follow with a slash before their
first slot.

**Proof sketch.** Induction on the segments.  Literal text without a slash makes both pieces longer.
At the first slash the path has the same text in front of it either way; and if there is none, the
rest of the path is the same literal text either way. -/
lemma Cuts.piece_eq {segments : List Segment} (hsep : separatedFrom true segments = true)
    {piece piece' path path' : List Char} {pieces pieces' : List (List Char)}
    (hslash : '/' ∉ piece) (hslash' : '/' ∉ piece') (h : Cuts segments pieces path)
    (h' : Cuts segments pieces' path') (heq : piece ++ path = piece' ++ path') :
    piece = piece' := by
  induction segments generalizing piece piece' path path' with
  | nil =>
    cases h
    cases h'
    exact List.append_cancel_right heq
  | cons segment rest ih =>
    cases segment with
    | slot k => cases hsep
    | literal text =>
      obtain _ | @⟨_, _, _, path, h⟩ := h
      obtain _ | @⟨_, _, _, path', h'⟩ := h'
      by_cases hmem : '/' ∈ text.toList
      · obtain ⟨front, back, htext, hfront⟩ := List.eq_append_cons_of_mem hmem
        have htake := congrArg (List.takeWhile (· ≠ '/')) heq
        rw [htext, takeWhile_append hslash, takeWhile_append hslash', List.append_assoc,
          List.append_assoc, takeWhile_append hfront, takeWhile_append hfront] at htake
        simp only [List.cons_append, List.takeWhile_cons, ne_eq, not_true_eq_false, decide_false,
          Bool.false_eq_true, ↓reduceIte, List.append_nil] at htake
        exact List.append_cancel_right htake
      · have hrest : separatedFrom true rest = true := by simpa [separatedFrom, hmem] using hsep
        have hlonger : '/' ∉ piece ++ text.toList := by simp [hslash, hmem]
        have hlonger' : '/' ∉ piece' ++ text.toList := by simp [hslash', hmem]
        refine List.append_cancel_right (ih hrest hlonger hlonger' h h' ?_)
        rw [List.append_assoc, List.append_assoc]
        exact heq

/-- **With a slash between consecutive slots the pieces are determined by the path.** -/
theorem Cuts.unique {segments : List Segment} {pending : Bool}
    (hsep : separatedFrom pending segments = true) {path : List Char}
    {pieces pieces' : List (List Char)} (h : Cuts segments pieces path)
    (h' : Cuts segments pieces' path) : pieces = pieces' := by
  generalize hpath : path = path' at h'
  induction h generalizing pending pieces' path' with
  | nil =>
    cases h'
    rfl
  | literal text h ih =>
    obtain _ | @⟨_, _, _, path, h'⟩ := h'
    exact ih hsep _ (List.append_cancel_left hpath) h'
  | slot index hslash h ih =>
    obtain _ | _ | @⟨_, _, _, _, _, hslash', h'⟩ := h'
    obtain ⟨-, hrest⟩ := Bool.and_eq_true_iff.1 hsep
    obtain rfl := piece_eq hrest hslash hslash' h h' hpath
    rw [ih hrest _ (List.append_cancel_left hpath) h']

/-! ## The matcher -/

/-- The lengths that the matcher tries for a piece. -/
lemma mem_downFrom {n length : Nat} : length ∈ downFrom n ↔ 0 < length ∧ length ≤ n := by
  simp only [downFrom, List.mem_map, List.mem_reverse, List.mem_range]
  constructor
  · rintro ⟨k, hk, rfl⟩
    omega
  · rintro ⟨hpos, hle⟩
    exact ⟨length - 1, by omega, by omega⟩

/-- What is in front of the first slash has no slash, however much of it is taken. -/
lemma slash_notMem_take {path : List Char} {length : Nat}
    (h : length ≤ (path.takeWhile (· ≠ '/')).length) : '/' ∉ path.take length := by
  intro hmem
  have hsplit : path.takeWhile (· ≠ '/') ++ path.dropWhile (· ≠ '/') = path :=
    List.takeWhile_append_dropWhile
  rw [← hsplit, List.take_append_of_le_length h] at hmem
  have hne := List.mem_takeWhile_imp (List.mem_of_mem_take hmem)
  simp at hne

/-- What the matcher finds are pieces of the path that are not empty.

**Proof sketch.** Induction on the segments, along the recursion of the matcher. -/
theorem cuts_of_cut {segments : List Segment} {path : List Char} {pieces : List (List Char)}
    (h : cut segments path = some pieces) : Cuts segments pieces path ∧ [] ∉ pieces := by
  induction segments generalizing path pieces with
  | nil =>
    cases path with
    | nil =>
      cases h
      exact ⟨.nil, List.not_mem_nil⟩
    | cons c path => cases h
  | cons segment rest ih =>
    cases segment with
    | literal text =>
      simp only [cut] at h
      split at h
      · next later hstrip =>
        obtain ⟨hcuts, hne⟩ := ih h
        rw [eq_append_of_stripStart? hstrip]
        exact ⟨.literal text hcuts, hne⟩
      · cases h
    | slot index =>
      simp only [cut] at h
      obtain ⟨length, hlength, hcut⟩ := List.exists_of_findSome?_eq_some h
      obtain ⟨hpos, hle⟩ := mem_downFrom.1 hlength
      obtain ⟨later, hlater, rfl⟩ := Option.map_eq_some_iff.1 hcut
      obtain ⟨hcuts, hne⟩ := ih hlater
      have hslot := Cuts.slot index (slash_notMem_take hle) hcuts
      rw [List.take_append_drop] at hslot
      refine ⟨hslot, ?_⟩
      rintro hmem
      obtain hnil | hmem := List.mem_cons.1 hmem
      · have htake : (path.take length).length = length :=
          List.length_take_of_le (hle.trans (List.takeWhile_prefix _).length_le)
        rw [← hnil, List.length_nil] at htake
        omega
      · exact hne hmem

/-- The matcher finds pieces, if the path has pieces that are not empty.

**Proof sketch.** Induction on the segments.  For a slot the length of its piece is among those that
the matcher tries. -/
theorem isSome_cut {segments : List Segment} {path : List Char} {pieces : List (List Char)}
    (h : Cuts segments pieces path) (hne : [] ∉ pieces) : (cut segments path).isSome = true := by
  induction h with
  | nil => rfl
  | literal text h ih =>
    simp only [cut, stripStart?_append]
    exact ih hne
  | @slot index piece segments pieces path hslash h ih =>
    obtain ⟨hpiece, hrest⟩ := not_or.1 (mt List.mem_cons.2 hne)
    have hpos : 0 < piece.length := List.length_pos_iff.2 fun hnil => hpiece hnil.symm
    simp only [cut, List.findSome?_isSome_iff]
    refine ⟨piece.length, mem_downFrom.2 ⟨hpos, ?_⟩, ?_⟩
    · rw [takeWhile_append hslash, List.length_append]
      omega
    · simpa using ih hrest

/-- **What the matcher answers for a path with given pieces.**  It finds those pieces, unless one of
them is empty; then it finds nothing. -/
theorem cut_eq {segments : List Segment} {pending : Bool}
    (hsep : separatedFrom pending segments = true) {path : List Char} {pieces : List (List Char)}
    (h : Cuts segments pieces path) :
    cut segments path = if [] ∈ pieces then none else some pieces := by
  cases hcut : cut segments path with
  | none =>
    split
    · rfl
    · next hne =>
      have hsome := isSome_cut h hne
      rw [hcut] at hsome
      cases hsome
  | some found =>
    obtain ⟨hfound, hne⟩ := cuts_of_cut hcut
    obtain rfl := h.unique hsep hfound
    rw [if_neg hne]

end Template

end RequestRouting
