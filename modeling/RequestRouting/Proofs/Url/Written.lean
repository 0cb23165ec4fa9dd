import RequestRouting.Proofs.Rule.Compilation
import RequestRouting.Proofs.Url.Source
import RequestRouting.Url.Build

/-!
# Patterns written out piece by piece

A pattern text may be written out as literal characters and as property paths between braces.  It is
read to its end, its placeholders have these property paths, and what the template is filled to can
be told from the pieces.

## Main definitions

* `PropertyPath.Spelled` — a property path can be written between braces.
* `Template.Piece` — a literal character, or a property path between braces.
* `Template.fillPieces` — the pieces with texts in the place of the property paths.

## Main results

* `Template.spelled_of_compile` — the property paths of a compiled template are spelled.
* `Template.exists_scan_pieces`, `Template.eq_pieces_of_compile` — what pieces are read as.
* `Template.compile_eq_matcherTooLarge` — too many placeholders.
-/

set_option autoImplicit false

namespace RequestRouting

/-! ## Property paths -/

/-- A property path can be written between braces, where it is read back. -/
def PropertyPath.Spelled (path : PropertyPath) : Prop :=
  Template.readPath path.text.toList = .ok path

instance (path : PropertyPath) : Decidable path.Spelled :=
  inferInstanceAs (Decidable (Template.readPath path.text.toList = .ok path))

/-- Property paths that are spelled can be told apart by their texts. -/
lemma PropertyPath.Spelled.eq_of_text {path other : PropertyPath} (h : path.Spelled)
    (hother : other.Spelled) (htext : path.text = other.text) : path = other := by
  have hread := h
  rw [Spelled, htext, hother] at hread
  exact (Except.ok.inj hread).symm

namespace Template

/-- A property path is written with points and the characters of names. -/
lemma of_mem_of_readPath {inner : List Char} {path : PropertyPath}
    (h : readPath inner = .ok path) {c : Char} (hc : c ∈ inner) :
    c = '.' ∨ isNameChar c = true := by
  unfold readPath at h
  split at h
  · cases h
  · refine (mem_splitOnChar_of_mem hc).imp_right ?_
    rintro ⟨piece, hpiece, hmem⟩
    cases hnames : (splitOnChar '.' inner).mapM readName with
    | error fault =>
      rw [hnames] at h
      cases h
    | ok names =>
      obtain ⟨name, -, hname⟩ := exists_mem_of_forall₂ (mapM_eq_ok.1 hnames) hpiece
      unfold readName at hname
      split at hname
      · cases hname
      · split at hname
        · next hall => exact List.all_eq_true.1 hall c hmem
        · cases hname

/-- A property path is written without braces. -/
lemma braces_notMem_of_readPath {inner : List Char} {path : PropertyPath}
    (h : readPath inner = .ok path) {c : Char} (hc : c ∈ inner) : c ≠ '\x7b' ∧ c ≠ '\x7d' := by
  rcases of_mem_of_readPath h hc with rfl | hname
  · decide
  · constructor <;> rintro rfl <;> revert hname <;> decide

/-- What has been read between braces is spelled. -/
lemma spelled_of_readPath {inner : List Char} {path : PropertyPath}
    (h : readPath inner = .ok path) : path.Spelled := by
  rw [PropertyPath.Spelled, toList_text_of_readPath h, h]

/-- Making a segment of literal text adds no placeholder. -/
lemma Draft.placeholders_closeLiteral (draft : Draft) :
    draft.closeLiteral.placeholders = draft.placeholders := by
  unfold closeLiteral
  split <;> rfl

/-- The reading of a pattern text adds only property paths that are spelled. -/
lemma spelled_of_scan {draft : Draft} {placeholder : Option (Nat × List Char)} {text : List Char}
    {template : Template} (hdraft : ∀ placeholder ∈ draft.placeholders, placeholder.path.Spelled)
    (h : scan draft placeholder text = .ok template) :
    ∀ placeholder ∈ template.placeholders, placeholder.path.Spelled := by
  fun_induction scan draft placeholder text with
  | case1 draft =>
    cases h
    simpa [Draft.finish, Draft.placeholders_closeLiteral] using hdraft
  | case3 draft rest ih => exact ih hdraft h
  | case5 draft c rest _ _ ih => exact ih hdraft h
  | case6 draft start inner rest path hpath ih =>
    refine ih ?_ h
    simp only [Draft.addPlaceholder, Draft.placeholders_closeLiteral, List.forall_mem_cons]
    exact ⟨spelled_of_readPath hpath, hdraft⟩
  | case9 draft start inner c rest _ _ ih => exact ih hdraft h
  | case2 | case4 | case7 | case8 => cases h

/-- The property paths of a compiled template are spelled. -/
theorem spelled_of_compile {pattern : String} {template : Template}
    (h : compile pattern = .ok template) :
    ∀ placeholder ∈ template.placeholders, placeholder.path.Spelled :=
  spelled_of_scan (List.forall_mem_nil _) (scan_of_compile h)

/-! ## Drafts with texts in the place of slots -/

namespace Draft

variable {values : List String}

/-- The text of a draft, with texts in the place of its slots. -/
def fill (draft : Draft) (values : List String) : List Char :=
  draft.segments.reverse.flatMap (fun segment => (fillSegment values segment).toList) ++
    draft.literal.reverse

/-- Making a segment of literal text changes nothing. -/
lemma fill_closeLiteral (draft : Draft) : draft.closeLiteral.fill values = draft.fill values := by
  unfold closeLiteral
  split
  · rfl
  · simp [fill, fillSegment]

/-- A character is added at the end. -/
lemma fill_addChar (draft : Draft) (c : Char) :
    (draft.addChar c).fill values = draft.fill values ++ [c] := by
  simp [fill, addChar]

/-- A placeholder adds the next one of the texts. -/
lemma fill_addPlaceholder (draft : Draft) (path : PropertyPath) :
    (draft.addPlaceholder path).fill values =
      draft.fill values ++ ((values[draft.placeholders.length]?).getD "").toList := by
  rw [← fill_closeLiteral draft, ← placeholders_closeLiteral draft]
  have hliteral := literal_closeLiteral draft
  simp [fill, addPlaceholder, hliteral, fillSegment]

/-- The finished template is filled to the same text. -/
lemma fill_finish (draft : Draft) : (draft.finish.fill values).toList = draft.fill values := by
  rw [← fill_closeLiteral, fill, literal_closeLiteral]
  simp only [finish, Template.fill, String.toList_join, List.flatMap_map, List.reverse_nil,
    List.append_nil]

end Draft

/-! ## Pieces -/

/-- A piece of a pattern text. -/
inductive Piece where
  /-- A character that stands for itself. -/
  | char (c : Char)
  /-- A property path between braces. -/
  | placeholder (path : PropertyPath)

namespace Piece

/-- How a piece is written. -/
def source : Piece → List Char
  | char c => [c]
  | placeholder path => '\x7b' :: (path.text.toList ++ ['\x7d'])

/-- A piece is read as it is meant. -/
def Proper : Piece → Prop
  | char c => c ≠ '\x7b' ∧ c ≠ '\x7d'
  | placeholder path => path.Spelled

/-- The property path of a placeholder. -/
def path? : Piece → Option PropertyPath
  | char _ => none
  | placeholder path => some path

end Piece

/-- The pieces with texts in the place of the property paths. -/
def fillPieces : List Piece → List String → List Char
  | [], _ => []
  | .char c :: rest, values => c :: fillPieces rest values
  | .placeholder _ :: rest, values => (values.headD "").toList ++ fillPieces rest values.tail

/-- Text without braces is read up to its end, if a placeholder has been opened. -/
lemma exists_scan_inner {inner : List Char} (hinner : ∀ c ∈ inner, c ≠ '\x7b' ∧ c ≠ '\x7d')
    (draft : Draft) (start : Nat) (seen rest : List Char) :
    ∃ position, scan draft (some (start, seen)) (inner ++ rest) =
      scan { draft with position := position } (some (start, inner.reverse ++ seen)) rest := by
  induction inner generalizing draft seen with
  | nil => exact ⟨draft.position, rfl⟩
  | cons c inner ih =>
    obtain ⟨⟨hopen, hclose⟩, hrest⟩ := List.forall_mem_cons.1 hinner
    obtain ⟨position, hscan⟩ := ih hrest (draft.advance c) (c :: seen)
    refine ⟨position, ?_⟩
    rw [List.cons_append, scan, if_neg hclose, if_neg hopen, hscan]
    simp [Draft.advance]

/-- A property path between braces is added as a placeholder. -/
lemma exists_scan_placeholder {path : PropertyPath} (hpath : path.Spelled) (draft : Draft)
    (rest : List Char) :
    ∃ position, scan draft none ((Piece.placeholder path).source ++ rest) =
      scan ({ draft with position := position }.addPlaceholder path) none rest := by
  have hinner : ∀ c ∈ path.text.toList, c ≠ '\x7b' ∧ c ≠ '\x7d' := fun c =>
    braces_notMem_of_readPath hpath
  obtain ⟨position, hscan⟩ := exists_scan_inner hinner (draft.advance '\x7b') draft.position []
    ('\x7d' :: rest)
  refine ⟨({ draft with position := position }.advance '\x7d').position, ?_⟩
  have hread : readPath (path.text.toList.reverse ++ []).reverse = .ok path := by
    rw [List.append_nil, List.reverse_reverse, hpath]
  rw [Piece.source, List.cons_append, List.append_assoc, List.singleton_append, scan, if_pos rfl,
    hscan, scan, if_pos rfl, hread]
  rfl

/-- **The reading of pieces adds them to the draft.**

**Proof sketch.** Induction on the pieces.  The draft counts the placeholders, and the next one is
filled with the text that has the number of them as its index. -/
lemma exists_scan_pieces {pieces : List Piece} (hpieces : ∀ piece ∈ pieces, piece.Proper)
    (draft : Draft) :
    ∃ template, scan draft none (pieces.flatMap Piece.source) = .ok template ∧
      template.placeholders.map Placeholder.path =
        (draft.placeholders.map Placeholder.path).reverse ++ pieces.filterMap Piece.path? ∧
      ∀ values, (template.fill values).toList =
        draft.fill values ++ fillPieces pieces (values.drop draft.placeholders.length) := by
  induction pieces generalizing draft with
  | nil =>
    refine ⟨draft.finish, rfl, ?_, fun values => ?_⟩
    · simp [Draft.finish, Draft.placeholders_closeLiteral]
    · rw [Draft.fill_finish, fillPieces, List.append_nil]
  | cons piece rest ih =>
    obtain ⟨hpiece, hrest⟩ := List.forall_mem_cons.1 hpieces
    cases piece with
    | char c =>
      obtain ⟨template, hscan, hpaths, hfill⟩ := ih hrest (draft.addChar c)
      refine ⟨template, ?_, hpaths, fun values => ?_⟩
      · rw [List.flatMap_cons, Piece.source, List.singleton_append, scan, if_neg hpiece.1,
          if_neg hpiece.2, hscan]
      · rw [hfill, Draft.fill_addChar, List.append_assoc]
        rfl
    | placeholder path =>
      obtain ⟨position, hopen⟩ := exists_scan_placeholder hpiece draft (rest.flatMap Piece.source)
      obtain ⟨template, hscan, hpaths, hfill⟩ :=
        ih hrest ({ draft with position := position }.addPlaceholder path)
      refine ⟨template, ?_, ?_, fun values => ?_⟩
      · rw [List.flatMap_cons, hopen, hscan]
      · rw [hpaths]
        simp [Draft.addPlaceholder, Draft.placeholders_closeLiteral, Piece.path?]
      · rw [hfill, Draft.fill_addPlaceholder, List.append_assoc, fillPieces]
        simp [Draft.addPlaceholder, Draft.placeholders_closeLiteral, Draft.fill]

/-- **The template of a pattern that is written out piece by piece**: its placeholders have the
property paths of the pieces, and it is filled as the pieces are. -/
theorem eq_pieces_of_compile {pieces : List Piece} (hpieces : ∀ piece ∈ pieces, piece.Proper)
    {pattern : String} (hpattern : pattern.toList = pieces.flatMap Piece.source)
    {template : Template} (h : compile pattern = .ok template) :
    template.placeholders.map Placeholder.path = pieces.filterMap Piece.path? ∧
      ∀ values, (template.fill values).toList = fillPieces pieces values := by
  obtain ⟨read, hscan, hpaths, hfill⟩ := exists_scan_pieces hpieces .start
  obtain rfl : read = template := by
    rw [← hpattern, scan_of_compile h] at hscan
    exact (Except.ok.inj hscan).symm
  exact ⟨hpaths, hfill⟩

/-- **A pattern with too many placeholders does not compile**, since its matcher is too large. -/
theorem compile_eq_matcherTooLarge {pieces : List Piece}
    (hpieces : ∀ piece ∈ pieces, piece.Proper) {pattern : String}
    (hpattern : pattern.toList = pieces.flatMap Piece.source)
    (hmany : maxMatcherSize < 1040 * (pieces.filterMap Piece.path?).length) :
    compile pattern = .error .matcherTooLarge := by
  obtain ⟨template, hscan, hpaths, -⟩ := exists_scan_pieces hpieces .start
  have hlength : template.placeholders.length = (pieces.filterMap Piece.path?).length := by
    rw [← List.length_map, hpaths]
    rfl
  refine compile_eq_error.2 (.inr ⟨template, hpattern ▸ hscan, ?_, rfl⟩)
  unfold matcherSize
  omega

end Template

end RequestRouting
