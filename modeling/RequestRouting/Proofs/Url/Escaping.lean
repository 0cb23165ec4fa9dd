import RequestRouting.Proofs.Url.Build

/-!
# Encoded values add no structure to URLs

When values are encoded, a URL is made of the literal text of its pattern and of pieces of
unreserved characters and escapes in the place of the slots.  So all its other marks, such as
slashes and question marks, are those of the literal text; and each piece tells its value.

## Main definitions

* `Template.literalChars` — the literal text of a template, without its slots.

## Main results

* `Template.Cuts.filter_eq` — characters that the pieces do not have are those of the literal text,
  in their order.
* `UrlPattern.build_escaped` — what a URL with encoded values is made of.
-/

set_option autoImplicit false

namespace RequestRouting

/-- The characters of literal text; a slot has none of its own. -/
def Segment.literalChars : Segment → List Char
  | .literal text => text.toList
  | .slot _ => []

namespace Template

/-- The literal text of a template, without its slots. -/
def literalChars (template : Template) : List Char :=
  template.segments.flatMap Segment.literalChars

/-- **Characters that the pieces of a path do not have are those of the literal text**, in their
order. -/
theorem Cuts.filter_eq {segments : List Segment} {pieces : List (List Char)} {path : List Char}
    (h : Cuts segments pieces path) {keep : Char → Bool}
    (hkeep : ∀ piece ∈ pieces, ∀ c ∈ piece, keep c = false) :
    path.filter keep = (segments.flatMap Segment.literalChars).filter keep := by
  induction h with
  | nil => rfl
  | literal text _ ih =>
    rw [List.flatMap_cons, List.filter_append, List.filter_append, ih hkeep]
    rfl
  | @slot index piece segments _ _ _ _ ih =>
    obtain ⟨hpiece, hrest⟩ := List.forall_mem_cons.1 hkeep
    have hnone : piece.filter keep = [] :=
      List.filter_eq_nil_iff.2 fun c hc => by simp [hpiece c hc]
    rw [List.filter_append, hnone, List.nil_append, ih hrest]
    rfl

/-- A mark that no piece of a path has occurs as often as in the literal text. -/
lemma Cuts.count_eq {template : Template} {pieces : List (List Char)} {path : List Char}
    (h : Cuts template.segments pieces path) {mark : Char}
    (hmark : ∀ piece ∈ pieces, mark ∉ piece) :
    path.count mark = template.literalChars.count mark := by
  have hkeep : ∀ piece ∈ pieces, ∀ c ∈ piece, (c == mark) = false := by
    intro piece hpiece c hc
    refine beq_eq_false_iff_ne.2 ?_
    rintro rfl
    exact hmark piece hpiece hc
  simp only [List.count, List.countP_eq_length_filter, h.filter_eq hkeep, literalChars]

end Template

namespace UrlPattern

/-- **Encoded values add no structure to a URL.**  Let a URL be built with encoded values.  Then it
is the literal text of the pattern with a piece in the place of each slot.  The piece is made of
unreserved characters and of escapes, it is the encoded form of the text to which the placeholder
leads, and of no other text.  Every character that is neither unreserved nor the percent sign
occurs in the URL as often as in the literal text.

**Proof sketch.** Encoded texts have no slash, so the filled template is cut into them.  They have
no other reserved character than the percent sign, and the text is found by decoding. -/
theorem build_escaped {pattern : UrlPattern} {params : Json} {url : String}
    (hbuild : pattern.build params true = .ok url) :
    ∃ template pieces, pattern.template = .ok template ∧
      Template.Cuts template.segments pieces url.toList ∧
      List.Forall₂ (fun placeholder piece => Percent.Encoded piece ∧
          ∃ text, placeholder.path.Reads params text ∧
            ∀ other, (Percent.encode other).toList = piece ↔ other = text)
        template.placeholders pieces ∧
      ∀ mark, mark ∉ Percent.unreserved → mark ≠ '%' →
        url.toList.count mark = template.literalChars.count mark := by
  obtain ⟨template, texts, hcompiles, hreads, rfl⟩ := build_eq_ok.1 hbuild
  rw [if_pos rfl]
  have hcuts := Template.cuts_fill_encode (Template.slots_of_compile hcompiles)
    hreads.length_eq.symm
  refine ⟨template, _, hcompiles, hcuts, ?_, fun mark hmark hpercent => hcuts.count_eq ?_⟩
  · rw [List.map_map, List.forall₂_map_right_iff]
    refine hreads.imp fun placeholder text hread => ⟨?_, text, hread, fun other => ?_⟩
    · rw [Function.comp_apply, Percent.toList_encode]
      exact Percent.encoded_encodeChars text.toList
    · rw [Function.comp_apply, String.toList_inj, Percent.encode_injective.eq_iff]
  · rw [List.map_map, List.forall_mem_map]
    exact fun text _ => Percent.notMem_encode hmark hpercent text

/-- A pattern with marks of its own around two placeholders. -/
def searchPattern : UrlPattern := ⟨"search", "/find?q=\x7bq\x7d&full=100%/\x7bplace.city\x7d"⟩

/-- Parameters for `searchPattern` whose texts have marks, a character of two octets, and what looks
like an escape. -/
def searchParams : Json :=
  .object [("place", .object [("city", .string "Kraków %2F")]), ("q", .string "a/b?c=d&e")]

/-- The URL has the two slashes and the question mark of its pattern. -/
theorem build_escaped_searchPattern :
    searchPattern.build searchParams true =
      .ok "/find?q=a%2Fb%3Fc%3Dd%26e&full=100%/Krak%C3%B3w%20%252F" ∧
    "/find?q=a%2Fb%3Fc%3Dd%26e&full=100%/Krak%C3%B3w%20%252F".toList.count '/' = 2 ∧
    "/find?q=a%2Fb%3Fc%3Dd%26e&full=100%/Krak%C3%B3w%20%252F".toList.count '?' = 1 := by
  have hbuild : searchPattern.build searchParams true =
      .ok "/find?q=a%2Fb%3Fc%3Dd%26e&full=100%/Krak%C3%B3w%20%252F" := by rfl
  obtain ⟨template, pieces, hcompiles, -, -, hcount⟩ := build_escaped hbuild
  have hliteral : template.literalChars = "/find?q=&full=100%/".toList := by
    cases hcompiles
    rfl
  refine ⟨hbuild, ?_, ?_⟩
  · rw [hcount '/' (by decide) (by decide), hliteral]
    rfl
  · rw [hcount '?' (by decide) (by decide), hliteral]
    rfl

end UrlPattern

end RequestRouting
