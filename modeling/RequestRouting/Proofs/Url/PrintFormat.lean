import RequestRouting.Proofs.Number.Decimal
import RequestRouting.Proofs.Url.Build
import RequestRouting.Proofs.Url.Written

/-!
# Print formats

The print format of a pattern is read from left to right: `%%` is a percent sign, `%N$s` is the
value with number `N`, and any other character stands for itself.  Read in this way, with the texts
of the placeholders as the values, it gives the URL that is built from the pattern, whatever the
literal text looks like.

## Main definitions

* `PrintFormat.Place`, `PrintFormat.render` — the reader of print formats.
* `PrintFormat.print?` — a print format with values in the place of its directives.
* `PrintFormat.Prints` — a piece of a format that can be read on its own.

## Main results

* `PrintFormat.prints_char`, `PrintFormat.prints_percent`, `PrintFormat.prints_directive` — the
  pieces of which formats are made.
* `Template.print?_printFormat` — the format of a compiled template gives the filled template.
* `UrlPattern.print?_build` — the print format agrees with the URLs that are built.
-/

set_option autoImplicit false

namespace RequestRouting

namespace PrintFormat

/-! ## Reading print formats -/

/-- Where the reading of a print format stands. -/
inductive Place where
  /-- Outside of directives. -/
  | text
  /-- Behind a percent sign and some digits. -/
  | percent (digits : List Char)
  /-- Behind the dollar sign after some digits. -/
  | dollar (digits : List Char)

/-- The value with the number that some digits spell; the first one has the number one. -/
def value? (values : List String) (digits : List Char) : Option String :=
  (readNatural? digits).bind fun number => if number = 0 then none else values[number - 1]?

/-- Reads the rest of a print format.  There is no result if a directive is malformed, or if there
is no value with its number. -/
def render (values : List String) : Place → List Char → Option (List Char)
  | .text, [] => some []
  | .text, c :: rest =>
    if c = '%' then render values (.percent []) rest
    else (render values .text rest).map (c :: ·)
  | .percent digits, c :: rest =>
    if c = '%' ∧ digits = [] then (render values .text rest).map (c :: ·)
    else if c.isDigit then render values (.percent (digits ++ [c])) rest
    else if c = '$' then render values (.dollar digits) rest
    else none
  | .dollar digits, c :: rest =>
    if c = 's' then
      (value? values digits).bind fun value =>
        (render values .text rest).map (value.toList ++ ·)
    else none
  | .percent _, [] | .dollar _, [] => none

/-- A print format with values in the place of its directives. -/
def print? (format : String) (values : List String) : Option String :=
  (render values .text format.toList).map String.ofList

/-! ## Pieces of print formats -/

variable {values : List String}

/-- A piece of a format that can be read on its own, and what it prints. -/
def Prints (values : List String) (format printed : List Char) : Prop :=
  ∀ rest, render values .text (format ++ rest) = (render values .text rest).map (printed ++ ·)

/-- Nothing prints nothing. -/
lemma Prints.nil : Prints values [] [] := fun rest => by simp

/-- Pieces print one after another. -/
lemma Prints.append {format printed later laterPrinted : List Char}
    (h : Prints values format printed) (hlater : Prints values later laterPrinted) :
    Prints values (format ++ later) (printed ++ laterPrinted) := by
  intro rest
  rw [List.append_assoc, h, hlater, Option.map_map]
  simp [Function.comp_def]

/-- A character that is no percent sign prints itself. -/
lemma prints_char {c : Char} (h : c ≠ '%') : Prints values [c] [c] := by
  intro rest
  rw [List.singleton_append, render, if_neg h]
  rfl

/-- Two percent signs print one. -/
lemma prints_percent : Prints values ['%', '%'] ['%'] := by
  intro rest
  rw [List.cons_append, List.singleton_append, render, if_pos rfl, render, if_pos ⟨rfl, rfl⟩]
  rfl

/-- Digits behind a percent sign are collected. -/
lemma render_digits {more : List Char} (hmore : ∀ c ∈ more, c.isDigit = true)
    (digits rest : List Char) :
    render values (.percent digits) (more ++ rest) =
      render values (.percent (digits ++ more)) rest := by
  induction more generalizing digits with
  | nil => rw [List.append_nil, List.nil_append]
  | cons c more ih =>
    obtain ⟨hc, hmore⟩ := List.forall_mem_cons.1 hmore
    have hpercent : ¬ (c = '%' ∧ digits = []) := by
      rintro ⟨rfl, -⟩
      revert hc
      decide
    rw [List.cons_append, render, if_neg hpercent, if_pos hc, ih hmore, List.append_assoc,
      List.singleton_append]

/-- The digits of a number name the value with that number. -/
lemma value?_toDigits (values : List String) (index : Nat) :
    value? values (Nat.toDigits 10 (index + 1)) = values[index]? := by
  have hread : readNatural? (Nat.toDigits 10 (index + 1)) = some (index + 1) := by
    rw [readNatural?, if_neg, ofDigits_toDigits]
    simpa [Nat.toDigits_ne_nil] using fun c hc => isDigit_of_mem_toDigits hc
  rw [value?, hread]
  simp

/-- A directive prints the value that has its number. -/
lemma prints_directive {index : Nat} {value : String} (h : values[index]? = some value) :
    Prints values ('%' :: (Nat.toDigits 10 (index + 1) ++ ['$', 's'])) value.toList := by
  intro rest
  rw [List.cons_append, List.append_assoc, render, if_pos rfl,
    render_digits fun c hc => isDigit_of_mem_toDigits hc, List.nil_append]
  simp only [List.cons_append, List.nil_append, render, value?_toDigits, h]
  simp

/-- A directive needs a value with its number. -/
example : print? "%2$s-%1$s" ["a", "b"] = some "b-a" ∧ print? "%2$s-%1$s" ["a"] = none := by decide

end PrintFormat

namespace Template

open PrintFormat

variable {values : List String}

namespace Draft

/-- The format of a draft prints the text to which the draft is filled, as long as there is a value
for each of its placeholders. -/
def Printed (values : List String) (draft : Draft) : Prop :=
  draft.placeholders.length ≤ values.length →
    Prints values draft.format.reverse (draft.fill values)

/-- Before the first character there is nothing to print. -/
lemma Printed.start : Draft.start.Printed values := fun _ => .nil

/-- A literal character is printed as it is; for a percent sign the format has two. -/
lemma Printed.addChar {draft : Draft} (h : draft.Printed values) (c : Char) :
    (draft.addChar c).Printed values := by
  intro hlength
  rw [fill_addChar]
  unfold Draft.addChar
  split
  · next hpercent =>
    rw [hpercent, List.reverse_cons, List.reverse_cons, List.append_assoc]
    exact (h hlength).append prints_percent
  · next hpercent =>
    rw [List.reverse_cons]
    exact (h hlength).append (prints_char hpercent)

/-- Making a segment of literal text adds nothing to the format. -/
lemma format_closeLiteral (draft : Draft) : draft.closeLiteral.format = draft.format := by
  unfold closeLiteral
  split <;> rfl

/-- A placeholder is printed as the value that has its number. -/
lemma Printed.addPlaceholder {draft : Draft} (h : draft.Printed values) (path : PropertyPath) :
    (draft.addPlaceholder path).Printed values := by
  intro hlength
  have hlt : draft.placeholders.length < values.length := by
    simpa [Draft.addPlaceholder, placeholders_closeLiteral, Nat.succ_le_iff] using hlength
  obtain ⟨value, hvalue⟩ : ∃ value, values[draft.placeholders.length]? = some value :=
    ⟨_, List.getElem?_eq_getElem hlt⟩
  have hformat : (draft.addPlaceholder path).format.reverse = draft.format.reverse ++
      '%' :: (Nat.toDigits 10 (draft.placeholders.length + 1) ++ ['$', 's']) := by
    simp [Draft.addPlaceholder, placeholders_closeLiteral, format_closeLiteral]
  rw [fill_addPlaceholder, hformat, hvalue]
  exact (h hlt.le).append (prints_directive hvalue)

end Draft

/-- **The reading of a pattern text keeps its print format up with its segments.** -/
theorem prints_of_scan {draft : Draft} {placeholder : Option (Nat × List Char)} {text : List Char}
    {template : Template} (hdraft : draft.Printed values)
    (h : scan draft placeholder text = .ok template)
    (hlength : template.placeholders.length ≤ values.length) :
    Prints values template.printFormat.toList (template.fill values).toList := by
  fun_induction scan draft placeholder text with
  | case1 draft =>
    cases h
    rw [Draft.fill_finish, Draft.finish, String.toList_ofList, Draft.format_closeLiteral]
    apply hdraft
    simpa [Draft.finish, Draft.placeholders_closeLiteral] using hlength
  | case3 draft rest ih => exact ih hdraft h
  | case5 draft c rest _ _ ih => exact ih (hdraft.addChar c) h
  | case6 draft start inner rest path _ ih =>
    have hadvance : (draft.advance '\x7d').Printed values := hdraft
    exact ih (hadvance.addPlaceholder path) h
  | case9 draft start inner c rest _ _ ih => exact ih hdraft h
  | case2 | case4 | case7 | case8 => cases h

/-- **The format of a compiled template gives the filled template**, if there is a value for each
placeholder. -/
theorem print?_printFormat {pattern : String} {template : Template}
    (h : compile pattern = .ok template)
    (hlength : template.placeholders.length ≤ values.length) :
    print? template.printFormat values = some (template.fill values) := by
  have hprints := prints_of_scan .start (scan_of_compile h) hlength []
  rw [List.append_nil] at hprints
  simp [print?, hprints, render]

end Template

namespace UrlPattern

open PrintFormat

/-- **The print format agrees with the URLs that are built.**  Let a URL be built from a pattern
with the plain texts of the placeholders.  Then the print format of the pattern can be read to its
end with these texts as the values, and it gives that URL; and with the encoded texts as the values
it gives the URL that is built with encoded texts.

**Proof sketch.** While the pattern text is scanned, each literal character and each placeholder is
added to the format and to the segments at once.  In the format it is a piece that can be read on
its own: a percent sign is followed by another one, and the digits of a directive by a dollar sign.
-/
theorem print?_build {pattern : UrlPattern} {params : Json} {url : String}
    (hbuild : pattern.build params false = .ok url) :
    ∃ template format texts escaped,
      pattern.template = .ok template ∧ pattern.printFormat = .ok format ∧
      List.Forall₂ (fun placeholder text => placeholder.path.Reads params text)
        template.placeholders texts ∧
      print? format texts = some url ∧
      pattern.build params true = .ok escaped ∧
      print? format (texts.map Percent.encode) = some escaped := by
  obtain ⟨template, texts, hcompiles, hreads, rfl⟩ := build_eq_ok.1 hbuild
  have hformat : pattern.printFormat = .ok template.printFormat := by
    rw [printFormat, hcompiles]
    rfl
  have hlength : template.placeholders.length = texts.length := hreads.length_eq
  refine ⟨template, template.printFormat, texts, template.fill (texts.map Percent.encode),
    hcompiles, hformat, hreads, ?_, build_eq_ok.2 ⟨template, texts, hcompiles, hreads, rfl⟩, ?_⟩
  · exact Template.print?_printFormat hcompiles hlength.le
  · exact Template.print?_printFormat hcompiles (by rw [List.length_map, hlength])

/-- A pattern with percent signs beside its placeholders, and with literal text that looks like a
directive. -/
def salePattern : UrlPattern := ⟨"sale", "/50%/%1$s/\x7bitem\x7d%\x7bshop.name\x7d5"⟩

/-- Parameters for `salePattern`. -/
def saleParameters : Json :=
  .object [("item", .string "%2$s"), ("shop", .object [("name", .string "A/B")])]

/-- Neither the literal text nor the texts of the placeholders are mistaken for directives. -/
theorem print?_build_salePattern :
    salePattern.build saleParameters false = .ok "/50%/%1$s/%2$s%A/B5" ∧
    (∃ template format texts escaped,
      salePattern.template = .ok template ∧ salePattern.printFormat = .ok format ∧
      List.Forall₂ (fun placeholder text => placeholder.path.Reads saleParameters text)
        template.placeholders texts ∧
      print? format texts = some "/50%/%1$s/%2$s%A/B5" ∧
      salePattern.build saleParameters true = .ok escaped ∧
      print? format (texts.map Percent.encode) = some escaped) ∧
    salePattern.printFormat = .ok "/50%%/%%1$s/%1$s%%%2$s5" := by
  have hbuild : salePattern.build saleParameters false = .ok "/50%/%1$s/%2$s%A/B5" := by rfl
  exact ⟨hbuild, print?_build hbuild, by rfl⟩

end UrlPattern

end RequestRouting
