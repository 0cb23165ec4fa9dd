import Mathlib.Tactic.Lemma
import RequestRouting.Url.Template

/-!
# Templates number their slots in order

The reading of a pattern text keeps count: the slots of the segments that are finished are numbered
from zero on, one for each placeholder.  So the slots of a compiled template are the indices of its
placeholders, in order.

## Main definitions

* `Template.slots` — the numbers of the slots among some segments.
* `Template.Draft.InOrder` — the slots of a draft are numbered in order.

## Main results

* `Template.slots_of_scan` — the reading of a pattern text keeps the slots in order.
* `Template.compile_eq_ok`, `Template.compile_eq_error` — a pattern text compiles as it is read,
  unless the matcher of the template is too large.
* `Template.slots_of_compile` — the slots of a compiled template.
-/

set_option autoImplicit false

namespace RequestRouting

/-- The number of a slot; literal text has none. -/
def Segment.slot? : Segment → Option Nat
  | .literal _ => none
  | .slot index => some index

namespace Template

/-- The numbers of the slots among some segments, in their order. -/
def slots (segments : List Segment) : List Nat := segments.filterMap Segment.slot?

/-- No segments have no slots. -/
@[simp] lemma slots_nil : slots [] = [] := rfl

/-- Literal text is no slot. -/
@[simp] lemma slots_cons_literal (text : String) (segments : List Segment) :
    slots (.literal text :: segments) = slots segments := rfl

/-- A slot comes with its number. -/
@[simp] lemma slots_cons_slot (index : Nat) (segments : List Segment) :
    slots (.slot index :: segments) = index :: slots segments := rfl

/-- The slots of some segments come before those of the later ones. -/
lemma slots_append (segments later : List Segment) :
    slots (segments ++ later) = slots segments ++ slots later :=
  List.filterMap_append

namespace Draft

/-- The slots of a draft are numbered in order, one for each placeholder. -/
def InOrder (draft : Draft) : Prop :=
  slots draft.segments.reverse = List.range draft.placeholders.length

/-- Making a segment of literal text keeps the slots in order. -/
lemma InOrder.closeLiteral {draft : Draft} (h : draft.InOrder) : draft.closeLiteral.InOrder := by
  unfold Draft.closeLiteral
  split
  · exact h
  · unfold InOrder at h ⊢
    simpa [slots_append] using h

/-- Moving past a character adds no slot. -/
lemma InOrder.advance {draft : Draft} (h : draft.InOrder) (c : Char) : (draft.advance c).InOrder :=
  h

/-- A literal character adds no slot. -/
lemma InOrder.addChar {draft : Draft} (h : draft.InOrder) (c : Char) : (draft.addChar c).InOrder :=
  h

/-- A new placeholder gets the next number. -/
lemma InOrder.addPlaceholder {draft : Draft} (h : draft.InOrder) (path : PropertyPath) :
    (draft.addPlaceholder path).InOrder := by
  have hclosed := h.closeLiteral
  unfold InOrder at hclosed ⊢
  simp only [Draft.addPlaceholder, List.reverse_cons, slots_append, hclosed, List.length_cons,
    List.range_succ]
  rfl

/-- The slots of the finished template are those of the draft. -/
lemma InOrder.finish {draft : Draft} (h : draft.InOrder) :
    slots draft.finish.segments = List.range draft.finish.placeholders.length := by
  have hclosed := h.closeLiteral
  simpa [InOrder, Draft.finish] using hclosed

end Draft

/-- **The reading of a pattern text keeps the slots in order.**

**Proof sketch.** Induction on the text.  Only the closing brace of a placeholder adds a slot, and
characters change neither the segments nor the placeholders. -/
theorem slots_of_scan {draft : Draft} {placeholder : Option (Nat × List Char)} {text : List Char}
    {template : Template} (hdraft : draft.InOrder)
    (h : scan draft placeholder text = .ok template) :
    slots template.segments = List.range template.placeholders.length := by
  fun_induction scan draft placeholder text with
  | case1 draft =>
    cases h
    exact hdraft.finish
  | case2 => cases h
  | case3 draft rest ih => exact ih (hdraft.advance _) h
  | case4 => cases h
  | case5 draft c rest _ _ ih => exact ih (hdraft.addChar c) h
  | case6 draft start inner rest path _ ih => exact ih ((hdraft.advance _).addPlaceholder path) h
  | case7 => cases h
  | case8 => cases h
  | case9 draft start inner c rest _ _ ih => exact ih (hdraft.advance c) h

/-- A pattern text compiles to the template that is read of it, if its matcher is not too large. -/
lemma compile_eq_ok {pattern : String} {template : Template} :
    compile pattern = .ok template ↔
      scan .start none pattern.toList = .ok template ∧ template.matcherSize ≤ maxMatcherSize := by
  unfold compile
  cases scan .start none pattern.toList with
  | error located => simp
  | ok read =>
    dsimp only
    split
    · next hlarge =>
      simp only [reduceCtorEq, Except.ok.injEq, false_iff, not_and, Nat.not_le]
      rintro rfl
      exact hlarge
    · next hsmall =>
      simp only [Except.ok.injEq, iff_self_and]
      rintro rfl
      exact Nat.le_of_not_lt hsmall

/-- The template of a pattern text is what is read of it. -/
lemma scan_of_compile {pattern : String} {template : Template}
    (h : compile pattern = .ok template) : scan .start none pattern.toList = .ok template :=
  (compile_eq_ok.1 h).1

/-- A pattern text that cannot be read does not compile, and the error tells where and why; nor does
one whose matcher is too large. -/
lemma compile_eq_error {pattern : String} {e : UrlError} :
    compile pattern = .error e ↔
      (∃ position fault, scan .start none pattern.toList = .error (position, fault) ∧
        .invalidPattern pattern position fault = e) ∨
      ∃ template, scan .start none pattern.toList = .ok template ∧
        maxMatcherSize < template.matcherSize ∧ .matcherTooLarge = e := by
  unfold compile
  cases scan .start none pattern.toList with
  | error located => simp [Prod.ext_iff, and_assoc]
  | ok template => by_cases hlarge : maxMatcherSize < template.matcherSize <;> simp [hlarge]

/-- The slots of a draft without a character are in order. -/
lemma Draft.InOrder.start : Draft.start.InOrder := rfl

/-- The slots of a compiled template are the indices of its placeholders, in order. -/
theorem slots_of_compile {pattern : String} {template : Template}
    (h : compile pattern = .ok template) :
    slots template.segments = List.range template.placeholders.length :=
  slots_of_scan .start (scan_of_compile h)

end Template

end RequestRouting
