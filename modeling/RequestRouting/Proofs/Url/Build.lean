import RequestRouting.Proofs.Rule.Compilation
import RequestRouting.Proofs.Url.RoundTrip

/-!
# When URLs are built

A URL is built from a pattern if the pattern compiles and the property path of every placeholder
leads to a scalar; it is then the template with the texts of these scalars in the place of its
slots.

## Main results

* `PropertyPath.resolve_eq_ok`, `Template.resolve_eq_ok` — when placeholders are resolved.
* `UrlPattern.build_eq_ok` — when a URL is built, and what it is.
-/

set_option autoImplicit false

namespace RequestRouting

/-- A property path is resolved to the text of the scalar to which it leads. -/
lemma PropertyPath.resolve_eq_ok {path : PropertyPath} {pattern : String} {params : Json}
    {text : String} : path.resolve pattern params = .ok text ↔ path.Reads params text := by
  constructor
  · intro h
    unfold resolve at h
    split at h
    · cases h
    · next value hfollow =>
      split at h
      · next hdisplay =>
        cases h
        exact ⟨value, hfollow, hdisplay⟩
      · cases h
  · exact fun h => h.resolve_eq pattern

/-- The placeholders of a template are resolved one after another. -/
lemma Template.resolve_eq_ok {template : Template} {pattern : String} {params : Json}
    {texts : List String} : template.resolve pattern params = .ok texts ↔
      List.Forall₂ (fun placeholder text => placeholder.path.Reads params text)
        template.placeholders texts := by
  simp only [resolve, mapM_eq_ok, PropertyPath.resolve_eq_ok]

/-- **When a URL is built, and what it is.** -/
theorem UrlPattern.build_eq_ok {pattern : UrlPattern} {params : Json} {escape : Bool}
    {url : String} : pattern.build params escape = .ok url ↔
      ∃ template texts, pattern.template = .ok template ∧
        List.Forall₂ (fun placeholder text => placeholder.path.Reads params text)
          template.placeholders texts ∧
        template.fill (if escape then texts.map Percent.encode else texts) = url := by
  simp only [build, Template.build, bind_eq_ok, Template.resolve_eq_ok, Except.ok.injEq,
    exists_and_left]

end RequestRouting
