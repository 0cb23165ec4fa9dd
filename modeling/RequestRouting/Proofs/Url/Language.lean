import RequestRouting.Proofs.Url.Matcher
import RequestRouting.Proofs.Url.Source
import RequestRouting.Url.Pattern

/-!
# The language of a URL pattern

A pattern that compiles matches the paths that consist of its literal text with pieces in the place
of the placeholders, and no others.  The match has the decoded pieces, where long pieces in front
are preferred.

## Main results

* `UrlPattern.match?_language` — what a pattern matches, and what the match holds.
-/

set_option autoImplicit false

namespace RequestRouting

namespace Template

/-- There are as many pieces as slots. -/
lemma Cuts.length_eq {segments : List Segment} {pieces : List (List Char)} {path : List Char}
    (h : Cuts segments pieces path) : pieces.length = (slots segments).length := by
  induction h with
  | nil => rfl
  | literal text _ ih => exact ih
  | slot index _ _ ih => exact congrArg (· + 1) ih

/-- The match of a path has one value for every placeholder, in their order: its decoded piece. -/
structure Holds (template : Template) (found : PatternMatch) (pieces : List (List Char)) :
    Prop where
  paths : found.values.map Prod.fst = template.placeholders.map Placeholder.path
  texts : found.values.map Prod.snd =
    pieces.map fun piece => Percent.decode (String.ofList piece)

/-- What the matcher makes of the pieces of a path holds them. -/
lemma holds_zip {template : Template} {pieces : List (List Char)}
    (h : pieces.length = template.placeholders.length) :
    template.Holds ⟨(template.placeholders.zip pieces).map fun (placeholder, piece) =>
      (placeholder.path, String.ofList (Percent.decodeChars piece))⟩ pieces where
  paths := by
    have hfirst : (template.placeholders.zip pieces).map Prod.fst = template.placeholders :=
      List.map_fst_zip (Nat.le_of_eq h.symm)
    calc _ = ((template.placeholders.zip pieces).map Prod.fst).map Placeholder.path := by
          rw [List.map_map, List.map_map]
          rfl
      _ = _ := by rw [hfirst]
  texts := by
    have hsecond : (template.placeholders.zip pieces).map Prod.snd = pieces :=
      List.map_snd_zip (Nat.le_of_eq h)
    calc _ = ((template.placeholders.zip pieces).map Prod.snd).map
          fun piece => String.ofList (Percent.decodeChars piece) := by
          rw [List.map_map, List.map_map]
          rfl
      _ = _ := by simp [hsecond, Percent.decode]

/-- The pieces determine what holds them. -/
lemma Holds.unique {template : Template} {found found' : PatternMatch}
    {pieces : List (List Char)} (h : template.Holds found pieces)
    (h' : template.Holds found' pieces) : found = found' := by
  have hvalues := List.zip_of_prod h.paths h.texts
  have hvalues' := List.zip_of_prod h'.paths h'.texts
  obtain ⟨values⟩ := found
  exact congrArg PatternMatch.mk (hvalues.trans hvalues'.symm)

/-- A path matches a template by the pieces that are preferred. -/
theorem match?_eq_some_iff {template : Template}
    (hslots : slots template.segments = List.range template.placeholders.length) {path : String}
    {found : PatternMatch} :
    template.match? path = some found ↔
      ∃ pieces, Prefers template.segments pieces path.toList ∧ template.Holds found pieces := by
  have hholds : ∀ {pieces}, cut template.segments path.toList = some pieces →
      template.Holds ⟨(template.placeholders.zip pieces).map fun (placeholder, piece) =>
        (placeholder.path, String.ofList (Percent.decodeChars piece))⟩ pieces := by
    intro pieces hcut
    refine holds_zip ?_
    rw [(cuts_of_cut hcut).1.length_eq, hslots, List.length_range]
  rw [match?, Option.map_eq_some_iff]
  constructor
  · rintro ⟨pieces, hcut, rfl⟩
    exact ⟨pieces, cut_eq_some_iff.1 hcut, hholds hcut⟩
  · rintro ⟨pieces, hprefers, hfound⟩
    have hcut := cut_eq_some_iff.2 hprefers
    exact ⟨pieces, hcut, (hholds hcut).unique hfound⟩

end Template

namespace UrlPattern

/-- **What a pattern matches.**  Let a pattern compile.  The segments of its template are its text,
literal text with the placeholders in their order.  A path matches if and only if it consists of the
literal text with pieces in the place of the placeholders, none of them empty and none with a slash.
If there are several such ways to cut the path, then the first piece is as long as possible, then
the second, and so on.  The match has one value for every placeholder, in their order: its piece,
decoded.  The regular expression of the template is well formed, and unless it is too large the
captures of its leftmost match are the pieces.

**Proof sketch.** The matcher tries the lengths of a piece from the greatest on.  The regular
expression is read as the sequence of its atoms; its code tries the same lengths in the same order,
and a search that marks the places it has seen finds what a search without marks finds. -/
theorem match?_language {pattern : UrlPattern} {template : Template}
    (hcompiles : pattern.template = .ok template) (path : String) :
    template.source = pattern.text ∧
    Template.slots template.segments = List.range template.placeholders.length ∧
    ∃ result, pattern.match? path = .ok result ∧
      (result.isSome = true ↔
        ∃ pieces, Template.Cuts template.segments pieces path.toList ∧ [] ∉ pieces) ∧
      (∀ found, result = some found ↔
        ∃ pieces, Template.Prefers template.segments pieces path.toList ∧
          template.Holds found pieces) ∧
      (Regex.compileUnbounded template.pattern = .error .tooLarge ∨
        ∃ regex, Regex.compileUnbounded template.pattern = .ok regex ∧
          template.matchWith? regex path = result) := by
  have hslots : Template.slots template.segments = List.range template.placeholders.length :=
    Template.slots_of_compile hcompiles
  refine ⟨Template.source_of_compile hcompiles, hslots, template.match? path,
    by rw [match?, hcompiles]; rfl, ?_, fun found => Template.match?_eq_some_iff hslots, ?_⟩
  · rw [← Template.isSome_cut_iff, Template.match?, Option.isSome_map]
  · cases hregex : Regex.compileUnbounded template.pattern with
    | ok regex => exact .inr ⟨regex, rfl, Template.matchWith?_eq hregex path⟩
    | error e =>
      refine .inl ?_
      rw [Template.compileUnbounded_pattern] at hregex
      split at hregex
      · cases hregex
      · exact hregex.symm

/-- A pattern whose placeholders stand in one segment, with literal text that has a meaning of its
own in regular expressions. -/
def filePattern : UrlPattern := ⟨"file", "/^{base}-{part}.{type}"⟩

/-- The template of `filePattern`. -/
def fileTemplate : Template where
  placeholders := [⟨1, ⟨["base"]⟩⟩, ⟨2, ⟨["part"]⟩⟩, ⟨3, ⟨["type"]⟩⟩]
  segments := [.literal "/^", .slot 0, .literal "-", .slot 1, .literal ".", .slot 2]
  printFormat := "/^%1$s-%2$s.%3$s"

/-- Of the two ways to cut the path the one with the longer first piece is taken. -/
theorem match?_language_filePattern :
    filePattern.template = .ok fileTemplate ∧
    fileTemplate.match? "/^a-b-c%2Dd.e" = some ⟨[(⟨["base"]⟩, "a-b"), (⟨["part"]⟩, "c-d"),
      (⟨["type"]⟩, "e")]⟩ ∧
    fileTemplate.source = filePattern.text ∧
    Template.slots fileTemplate.segments = List.range fileTemplate.placeholders.length ∧
    ∃ result, filePattern.match? "/^a-b-c%2Dd.e" = .ok result ∧
      (result.isSome = true ↔ ∃ pieces,
        Template.Cuts fileTemplate.segments pieces "/^a-b-c%2Dd.e".toList ∧ [] ∉ pieces) ∧
      (∀ found, result = some found ↔
        ∃ pieces, Template.Prefers fileTemplate.segments pieces "/^a-b-c%2Dd.e".toList ∧
          fileTemplate.Holds found pieces) ∧
      (Regex.compileUnbounded fileTemplate.pattern = .error .tooLarge ∨
        ∃ regex, Regex.compileUnbounded fileTemplate.pattern = .ok regex ∧
          fileTemplate.matchWith? regex "/^a-b-c%2Dd.e" = result) := by
  have hcompiles : filePattern.template = .ok fileTemplate := by rfl
  exact ⟨hcompiles, by decide, match?_language hcompiles "/^a-b-c%2Dd.e"⟩

end UrlPattern

end RequestRouting
