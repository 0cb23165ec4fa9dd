import Mathlib.Data.List.Basic
import RequestRouting.Proofs.Text.Split
import RequestRouting.Proofs.Url.Template

/-!
# Templates keep their text

Nothing of a pattern text is lost when it is compiled: the segments of the template, with every slot
as its property path between braces, are the text again.

## Main definitions

* `Template.Draft.source` — the pattern text that a draft stands for.

## Main results

* `Template.source_of_scan` — the reading of a pattern text adds what it reads to the draft.
* `Template.source_of_compile` — the pattern text that a compiled template stands for.
-/

set_option autoImplicit false

namespace RequestRouting

namespace Template

/-! ## Placeholders -/

/-- The names of a property path have the characters that were read. -/
lemma map_toList_of_readName {pieces : List (List Char)} {names : List String}
    (h : pieces.mapM readName = .ok names) : names.map String.toList = pieces := by
  induction pieces generalizing names with
  | nil =>
    cases h
    rfl
  | cons piece pieces ih =>
    rw [List.mapM_cons] at h
    cases hname : readName piece with
    | error fault =>
      rw [hname] at h
      cases h
    | ok name =>
      cases hnames : pieces.mapM readName with
      | error fault =>
        rw [hname, hnames] at h
        cases h
      | ok rest =>
        rw [hname, hnames] at h
        cases h
        have htext : name.toList = piece := by
          unfold readName at hname
          split at hname
          · cases hname
          · split at hname
            · cases hname
              exact String.toList_ofList
            · cases hname
        rw [List.map_cons, htext, ih hnames]

/-- A property path has the text that was read. -/
lemma toList_text_of_readPath {inner : List Char} {path : PropertyPath}
    (h : readPath inner = .ok path) : path.text.toList = inner := by
  unfold readPath at h
  split at h
  · cases h
  · cases hnames : (splitOnChar '.' inner).mapM readName with
    | error fault =>
      rw [hnames] at h
      cases h
    | ok names =>
      rw [hnames] at h
      cases h
      rw [PropertyPath.text, String.toList_intercalate, map_toList_of_readName hnames]
      exact intercalate_splitOnChar '.' inner

/-- Literal text stands for itself. -/
@[simp] lemma segmentSource_literal (placeholders : List Placeholder) (text : String) :
    segmentSource placeholders (.literal text) = text := rfl

/-- Later placeholders have no influence on the text of a segment. -/
lemma segmentSource_append {placeholders : List Placeholder} {segment : Segment}
    (h : ∀ index, segment.slot? = some index → index < placeholders.length)
    (later : List Placeholder) :
    segmentSource (placeholders ++ later) segment = segmentSource placeholders segment := by
  cases segment with
  | literal text => rfl
  | slot index => rw [segmentSource, segmentSource, List.getElem?_append_left (h index rfl)]

namespace Draft

/-- The pattern text that a draft stands for. -/
def source (draft : Draft) : List Char :=
  draft.segments.reverse.flatMap (fun segment =>
    (segmentSource draft.placeholders.reverse segment).toList) ++ draft.literal.reverse

/-- Making a segment of literal text changes nothing. -/
lemma source_closeLiteral (draft : Draft) : draft.closeLiteral.source = draft.source := by
  unfold closeLiteral
  split
  · rfl
  · simp [source]

/-- After that there is no other literal text. -/
lemma literal_closeLiteral (draft : Draft) : draft.closeLiteral.literal = [] := by
  unfold closeLiteral
  split
  · next hempty => exact List.isEmpty_iff.1 hempty
  · rfl

/-- A character is added at the end. -/
lemma source_addChar (draft : Draft) (c : Char) :
    (draft.addChar c).source = draft.source ++ [c] := by
  simp [source, addChar]

/-- A placeholder is added at the end. -/
lemma source_addPlaceholder {draft : Draft} (h : draft.InOrder) (path : PropertyPath) :
    (draft.addPlaceholder path).source =
      draft.source ++ '\x7b' :: (path.text.toList ++ ['\x7d']) := by
  have hclosed := h.closeLiteral
  rw [← source_closeLiteral draft]
  generalize hdraft : draft.closeLiteral = closed at hclosed
  have hliteral : closed.literal = [] := hdraft ▸ literal_closeLiteral draft
  have hearlier : closed.segments.reverse.flatMap (fun segment =>
      (segmentSource (closed.placeholders.reverse ++ [⟨closed.placeholders.length + 1, path⟩])
        segment).toList) =
      closed.segments.reverse.flatMap fun segment =>
        (segmentSource closed.placeholders.reverse segment).toList := by
    refine List.flatMap_congr fun segment hsegment => ?_
    rw [segmentSource_append]
    intro index hslot
    have hmem : index ∈ slots closed.segments.reverse :=
      List.mem_filterMap.2 ⟨segment, hsegment, hslot⟩
    rw [hclosed] at hmem
    simpa using hmem
  have hnew : segmentSource (closed.placeholders.reverse ++
      [⟨closed.placeholders.length + 1, path⟩]) (.slot closed.placeholders.length) =
      "\x7b" ++ path.text ++ "\x7d" := by
    simp [segmentSource]
  simp [source, addPlaceholder, hdraft, hearlier, hliteral, hnew]

/-- The finished template stands for the same text. -/
lemma source_finish (draft : Draft) : draft.finish.source.toList = draft.source := by
  rw [← source_closeLiteral, source, literal_closeLiteral]
  simp only [finish, Template.source, String.toList_join, List.flatMap_map, List.reverse_nil,
    List.append_nil]

end Draft

/-- The text of a placeholder that is not closed yet. -/
def openSource : Option (Nat × List Char) → List Char
  | none => []
  | some (_, inner) => '\x7b' :: inner.reverse

/-- **The reading of a pattern text adds what it reads to the draft.**

**Proof sketch.** Induction on the text.  Where a placeholder is closed, its property path has the
text between the braces. -/
theorem source_of_scan {draft : Draft} {placeholder : Option (Nat × List Char)} {text : List Char}
    {template : Template} (hdraft : draft.InOrder)
    (h : scan draft placeholder text = .ok template) :
    template.source.toList = draft.source ++ openSource placeholder ++ text := by
  fun_induction scan draft placeholder text with
  | case1 draft =>
    cases h
    simp [openSource, Draft.source_finish]
  | case3 draft rest ih =>
    rw [ih (hdraft.advance _) h]
    simp [openSource, Draft.source, Draft.advance]
  | case5 draft c rest _ _ ih =>
    rw [ih (hdraft.addChar c) h, Draft.source_addChar]
    simp [openSource]
  | case6 draft start inner rest path hpath ih =>
    rw [ih ((hdraft.advance _).addPlaceholder path) h,
      Draft.source_addPlaceholder (hdraft.advance _), toList_text_of_readPath hpath]
    simp [openSource, Draft.source, Draft.advance]
  | case9 draft start inner c rest _ _ ih =>
    rw [ih (hdraft.advance c) h]
    simp [openSource, Draft.source, Draft.advance]
  | case2 | case4 | case7 | case8 => cases h

/-- **Compiling loses nothing of a pattern text.** -/
theorem source_of_compile {pattern : String} {template : Template}
    (h : compile pattern = .ok template) : template.source = pattern :=
  String.toList_inj.1 (source_of_scan .start (scan_of_compile h))

end Template

end RequestRouting
