import Mathlib.Data.List.Forall2
import RequestRouting.Proofs.Text.Percent
import RequestRouting.Proofs.Url.Match
import RequestRouting.Proofs.Url.Template
import RequestRouting.Url.Pattern

/-!
# Built URLs match back

A URL that has been built from a template with encoded texts is cut into those texts again, as long
as slashes of the template stand between its slots: encoded texts have no slashes of their own.

## Main definitions

* `PropertyPath.Reads` — a property path leads to a scalar with the given text.

## Main results

* `Template.cuts_fill` — a template with texts in the place of its slots is cut into the texts.
* `UrlPattern.match?_build` — a built URL matches the texts that it was built from.
-/

set_option autoImplicit false

namespace RequestRouting

/-! ## Filled templates -/

namespace Template

/-- The texts from `k` on are the pieces of the segments whose slots are numbered from `k` on.

**Proof sketch.** Induction on the segments; the first slot among them has the number `k`. -/
lemma cuts_fillSegments {values : List String} (hslash : ∀ value ∈ values, '/' ∉ value.toList)
    {segments : List Segment} {k : Nat}
    (hslots : slots segments = List.range' k (values.length - k)) :
    Cuts segments ((values.drop k).map String.toList)
      (String.join (segments.map (fillSegment values))).toList := by
  induction segments generalizing k with
  | nil =>
    have hlength : values.length - k = 0 := by simpa using congrArg List.length hslots.symm
    rw [List.drop_eq_nil_of_le (by omega)]
    exact .nil
  | cons segment rest ih =>
    rw [List.map_cons, String.join_cons, String.toList_append]
    cases segment with
    | literal text => exact .literal text (ih hslots)
    | slot index =>
      have hlength : values.length - k ≠ 0 := by
        intro hzero
        simp [hzero] at hslots
      have hlt : k < values.length := by omega
      have hnext : values.length - k = values.length - (k + 1) + 1 := by omega
      rw [slots_cons_slot, hnext, List.range'_succ] at hslots
      obtain ⟨rfl, hrest⟩ := List.cons.inj hslots
      rw [List.drop_eq_getElem_cons hlt, List.map_cons]
      have hvalue : fillSegment values (.slot index) = values[index] := by
        simp [fillSegment, List.getElem?_eq_getElem hlt]
      rw [hvalue]
      exact .slot index (hslash _ (List.getElem_mem hlt)) (ih hrest)

/-- A template with texts in the place of its slots is cut into the texts. -/
theorem cuts_fill {template : Template} {values : List String}
    (hslots : slots template.segments = List.range values.length)
    (hslash : ∀ value ∈ values, '/' ∉ value.toList) :
    Cuts template.segments (values.map String.toList) (template.fill values).toList := by
  rw [List.range_eq_range'] at hslots
  exact cuts_fillSegments (k := 0) hslash hslots

end Template

/-! ## Encoded texts -/

namespace Template

/-- A template with encoded texts in the place of its slots is cut into them. -/
lemma cuts_fill_encode {template : Template}
    (hslots : slots template.segments = List.range template.placeholders.length)
    {texts : List String} (hlength : texts.length = template.placeholders.length) :
    Cuts template.segments ((texts.map Percent.encode).map String.toList)
      (template.fill (texts.map Percent.encode)).toList := by
  have hslash : ∀ value ∈ texts.map Percent.encode, '/' ∉ value.toList := by
    intro value hvalue
    obtain ⟨text, -, rfl⟩ := List.mem_map.1 hvalue
    rw [Percent.toList_encode]
    exact Percent.slash_notMem_encodeChars text.toList
  have hnumbers : slots template.segments = List.range (texts.map Percent.encode).length := by
    rw [hslots, List.length_map, hlength]
  exact cuts_fill hnumbers hslash

/-- **A template filled with encoded texts matches the texts**, unless one of them is empty; then it
does not match.

**Proof sketch.** The encoded texts are pieces of the filled template, since they have no slashes.
The slashes of the template leave no other pieces, so these are the ones that the matcher finds. -/
theorem match?_fill {template : Template}
    (hslots : slots template.segments = List.range template.placeholders.length)
    (hseparated : template.SlashSeparated) {texts : List String}
    (hlength : texts.length = template.placeholders.length) :
    template.match? (template.fill (texts.map Percent.encode)) =
      if "" ∈ texts then none
      else some ⟨(template.placeholders.map Placeholder.path).zip texts⟩ := by
  have hcuts := cuts_fill_encode hslots hlength
  rw [match?, cut_eq (slashSeparated_iff.1 hseparated) hcuts]
  simp only [Percent.nil_mem_map_encode]
  split
  · rfl
  · have hpieces : (texts.map Percent.encode).map String.toList =
        texts.map fun text => (Percent.encode text).toList := List.map_map
    simp only [Option.map_some, hpieces, List.zip_map_right, List.map_map, List.zip_map_left]
    refine congrArg (some <| PatternMatch.mk ·) (List.map_congr_left fun entry _ => ?_)
    exact congrArg (Prod.mk entry.1.path) (Percent.decode_encode entry.2)

end Template

/-! ## Patterns -/

/-- A property path leads through a bag of parameters to a scalar with the given text. -/
def PropertyPath.Reads (path : PropertyPath) (params : Json) (text : String) : Prop :=
  ∃ value, follow params path.names = .ok value ∧ value.display? = some text

/-- A property path that leads to a scalar is resolved to its text. -/
lemma PropertyPath.Reads.resolve_eq {path : PropertyPath} {params : Json} {text : String}
    (h : path.Reads params text) (pattern : String) : path.resolve pattern params = .ok text := by
  obtain ⟨value, hfollow, hdisplay⟩ := h
  simp [resolve, hfollow, hdisplay]

/-- A property path leads to at most one text. -/
lemma PropertyPath.Reads.text_eq {path : PropertyPath} {params : Json} {text other : String}
    (h : path.Reads params text) (hother : path.Reads params other) : text = other :=
  Except.ok.inj ((h.resolve_eq "").symm.trans (hother.resolve_eq ""))

/-- If the property paths of all placeholders lead to scalars, then there are the texts of these. -/
lemma PropertyPath.exists_reads {placeholders : List Placeholder} {params : Json}
    (h : ∀ placeholder ∈ placeholders, ∃ text, placeholder.path.Reads params text) :
    ∃ texts, List.Forall₂ (fun placeholder text => placeholder.path.Reads params text)
      placeholders texts := by
  induction placeholders with
  | nil => exact ⟨[], .nil⟩
  | cons placeholder rest ih =>
    obtain ⟨⟨text, htext⟩, hrest⟩ := List.forall_mem_cons.1 h
    obtain ⟨texts, htexts⟩ := ih hrest
    exact ⟨text :: texts, .cons htext htexts⟩

/-- If the property paths of all placeholders lead to scalars, then a template is resolved to their
texts. -/
lemma Template.resolve_eq {template : Template} {params : Json} {texts : List String}
    (h : List.Forall₂ (fun placeholder text => placeholder.path.Reads params text)
      template.placeholders texts) (pattern : String) :
    template.resolve pattern params = .ok texts := by
  unfold resolve
  generalize template.placeholders = placeholders at h
  induction h with
  | nil => rfl
  | cons hfirst _ ih =>
    rw [List.mapM_cons, hfirst.resolve_eq pattern, ih]
    rfl

namespace UrlPattern

/-- If the property paths of all placeholders lead to scalars, then the URL is built from their
encoded texts. -/
lemma build_eq_fill {pattern : UrlPattern} {template : Template}
    (hcompiles : pattern.template = .ok template) {params : Json} {texts : List String}
    (h : List.Forall₂ (fun placeholder text => placeholder.path.Reads params text)
      template.placeholders texts) :
    pattern.build params true = .ok (template.fill (texts.map Percent.encode)) := by
  rw [build, hcompiles]
  change template.build pattern.text params true = _
  rw [Template.build, Template.resolve_eq h]
  rfl

/-- **A URL that is built with encoded texts matches back to the texts.**  Let slashes stand between
the slots of a pattern that compiles.  If the property path of every placeholder leads to a scalar,
then the URL is built, and it matches the texts of the scalars, unless one of them is empty; then it
does not match.

**Proof sketch.** The template is resolved to the texts, and the slots of a compiled template are
the indices of its placeholders; so this is the round trip of the template. -/
theorem match?_build {pattern : UrlPattern} {template : Template}
    (hcompiles : pattern.template = .ok template) (hseparated : template.SlashSeparated)
    {params : Json}
    (hscalars : ∀ placeholder ∈ template.placeholders,
      ∃ text, placeholder.path.Reads params text) :
    ∃ texts url,
      List.Forall₂ (fun placeholder text => placeholder.path.Reads params text)
        template.placeholders texts ∧
      pattern.build params true = .ok url ∧
      pattern.match? url = .ok (if "" ∈ texts then none
        else some ⟨(template.placeholders.map Placeholder.path).zip texts⟩) := by
  obtain ⟨texts, hreads⟩ := PropertyPath.exists_reads hscalars
  have hslots : Template.slots template.segments = List.range template.placeholders.length :=
    Template.slots_of_compile hcompiles
  refine ⟨texts, template.fill (texts.map Percent.encode), hreads, ?_, ?_⟩
  · rw [build, hcompiles]
    change template.build pattern.text params true = _
    rw [Template.build, Template.resolve_eq hreads]
    rfl
  · rw [match?, hcompiles, ← Template.match?_fill hslots hseparated hreads.length_eq.symm]
    rfl

/-- A pattern with two placeholders. -/
def albumPattern : UrlPattern := ⟨"album", "/of/\x7bowner.name\x7d/no-\x7bid\x7d.html"⟩

/-- The template of `albumPattern`. -/
def albumTemplate : Template where
  placeholders := [⟨1, ⟨["owner", "name"]⟩⟩, ⟨2, ⟨["id"]⟩⟩]
  segments := [.literal "/of/", .slot 0, .literal "/no-", .slot 1, .literal ".html"]
  printFormat := "/of/%1$s/no-%2$s.html"

/-- Parameters for `albumPattern`, with a name that has a slash and a space. -/
def albumParameters : Json :=
  .object [("id", .int 7), ("owner", .object [("name", .string "Zoë / 50 %")])]

/-- The name and the number match back. -/
theorem match?_build_albumPattern :
    albumPattern.template = .ok albumTemplate ∧ albumTemplate.SlashSeparated ∧
    ∃ texts url,
      List.Forall₂ (fun placeholder text => placeholder.path.Reads albumParameters text)
        albumTemplate.placeholders texts ∧
      albumPattern.build albumParameters true = .ok url ∧
      albumPattern.match? url = .ok (if "" ∈ texts then none
        else some ⟨(albumTemplate.placeholders.map Placeholder.path).zip texts⟩) := by
  have hcompiles : albumPattern.template = .ok albumTemplate := by rfl
  have hseparated : albumTemplate.SlashSeparated := by decide
  have hscalars : ∀ placeholder ∈ albumTemplate.placeholders,
      ∃ text, placeholder.path.Reads albumParameters text := by
    simp only [albumTemplate, List.forall_mem_cons]
    exact ⟨⟨_, _, rfl, rfl⟩, ⟨_, _, rfl, rfl⟩, List.forall_mem_nil _⟩
  exact ⟨hcompiles, hseparated, match?_build hcompiles hseparated hscalars⟩

end UrlPattern

end RequestRouting
