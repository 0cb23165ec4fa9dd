import Mathlib.Tactic.Lemma
import RequestRouting.Url.Pattern

/-!
# Templates that are kept

A pattern is compiled when an operation first needs its template, and the template is kept until
the text is replaced.  The answers do not tell: whatever has been done with a pattern, and however
often its text has been replaced, the next operation answers what it answers on a new pattern with
the same text.  A text that does not compile leaves nothing behind.

## Main definitions

* `CachedPattern.Faithful` — a template that has been kept is that of the text.
* `PatternOperation`, `PatternAnswer` — what can be done with a pattern, and what comes back.
* `UrlPattern.answer` — the answer of an operation for which the text is compiled anew.
* `CachedPattern.perform`, `CachedPattern.after` — one operation, and many of them.
* `PatternOperation.textAfter` — the text that operations leave in force.

## Main results

* `CachedPattern.Faithful.perform_eq` — what one operation answers, and what it leaves.
* `CachedPattern.never_stale` — no operation meets the template of an earlier text.
-/

set_option autoImplicit false

namespace RequestRouting

/-! ## Faithful patterns -/

namespace CachedPattern

/-- The template that has been kept, if any, is that of the text. -/
def Faithful (cached : CachedPattern) : Prop :=
  ∀ template ∈ cached.compiled, Template.compile cached.pattern.text = .ok template

variable {cached : CachedPattern}

/-- No template has been kept of a new pattern. -/
lemma faithful_new (name text : String) : (new name text).Faithful := by
  intro template h
  cases h

/-- The template of a pattern that is compiled at once is kept. -/
lemma faithful_parse {name text : String} (h : parse name text = .ok cached) : cached.Faithful := by
  intro template htemplate
  unfold parse at h
  cases hcompile : Template.compile text with
  | error cause =>
    rw [hcompile] at h
    cases h
  | ok compiled =>
    rw [hcompile] at h
    cases h
    cases htemplate
    exact hcompile

/-- A pattern that is compiled at once has the name and the text that are given. -/
lemma pattern_parse {name text : String} (h : parse name text = .ok cached) :
    cached.pattern = ⟨name, text⟩ := by
  unfold parse at h
  cases hcompile : Template.compile text with
  | error cause =>
    rw [hcompile] at h
    cases h
  | ok compiled =>
    rw [hcompile] at h
    cases h
    rfl

/-- A pattern is used with the template of its text, which is kept. -/
lemma Faithful.use_eq {α : Type} (h : cached.Faithful) {template : Template}
    (hcompile : Template.compile cached.pattern.text = .ok template)
    (operation : Template → Except UrlError α) :
    cached.use operation = (operation template, { cached with compiled := some template }) := by
  obtain ⟨pattern, _ | kept⟩ := cached
  · simp only [use, hcompile]
  · obtain rfl : kept = template := Except.ok.inj ((h kept rfl).symm.trans hcompile)
    rfl

/-- A text that does not compile has left nothing behind: the pattern is a new one. -/
lemma Faithful.eq_new (h : cached.Faithful) {cause : UrlError}
    (hcompile : Template.compile cached.pattern.text = .error cause) :
    cached = new cached.pattern.name cached.pattern.text := by
  obtain ⟨pattern, _ | kept⟩ := cached
  · rfl
  · have hkept : Template.compile pattern.text = .ok kept := h kept rfl
    rw [hcompile] at hkept
    cases hkept

/-- Whether a template has been kept or not, the answer is that of the text. -/
lemma Faithful.use_fst {α : Type} (h : cached.Faithful)
    (operation : Template → Except UrlError α) :
    (cached.use operation).1 = Template.compile cached.pattern.text >>= operation := by
  cases hcompile : Template.compile cached.pattern.text with
  | ok template =>
    rw [h.use_eq hcompile]
    rfl
  | error cause =>
    rw [h.eq_new hcompile]
    simp only [use, new, hcompile]
    rfl

/-- However often a pattern is used, it stays faithful. -/
lemma Faithful.use {α : Type} (h : cached.Faithful) (operation : Template → Except UrlError α) :
    (cached.use operation).2.Faithful := by
  obtain ⟨pattern, _ | kept⟩ := cached
  · unfold CachedPattern.use
    cases hcompile : Template.compile pattern.text with
    | error cause => exact h
    | ok template =>
      rintro _ ⟨⟩
      exact hcompile
  · exact h

/-- Using a pattern changes neither its name nor its text. -/
lemma pattern_use {α : Type} (cached : CachedPattern)
    (operation : Template → Except UrlError α) :
    (cached.use operation).2.pattern = cached.pattern := by
  obtain ⟨pattern, _ | kept⟩ := cached
  · unfold CachedPattern.use
    cases Template.compile pattern.text <;> rfl
  · rfl

end CachedPattern

/-! ## Operations -/

/-- An operation on a pattern. -/
inductive PatternOperation where
  | setText (text : String)
  | placeholders
  | printFormat
  | build (params : Json) (escape : Bool)
  | match? (path : String)

/-- The answer of an operation. -/
inductive PatternAnswer where
  /-- The text has been replaced. -/
  | replaced
  | placeholders (result : Except UrlError (List Placeholder))
  | printFormat (result : Except UrlError String)
  | url (result : Except UrlError String)
  | found (result : Except UrlError (Option PatternMatch))

/-- The answer of an operation, with the text compiled for it alone. -/
def UrlPattern.answer (pattern : UrlPattern) : PatternOperation → PatternAnswer
  | .setText _ => .replaced
  | .placeholders => .placeholders pattern.placeholders
  | .printFormat => .printFormat pattern.printFormat
  | .build params escape => .url (pattern.build params escape)
  | .match? path => .found (pattern.match? path)

namespace PatternOperation

/-- The text after an operation. -/
def newText (text : String) : PatternOperation → String
  | .setText later => later
  | _ => text

/-- The text that operations leave in force: the last one that has been set, or else the one that
there was before. -/
def textAfter (text : String) (operations : List PatternOperation) : String :=
  operations.foldl newText text

end PatternOperation

namespace CachedPattern

/-- Does an operation. -/
def perform (cached : CachedPattern) : PatternOperation → PatternAnswer × CachedPattern
  | .setText text => (.replaced, cached.setText text)
  | .placeholders => cached.placeholders.map .placeholders id
  | .printFormat => cached.printFormat.map .printFormat id
  | .build params escape => (cached.build params escape).map .url id
  | .match? path => (cached.match? path).map .found id

/-- A pattern after some operations. -/
def after (cached : CachedPattern) (operations : List PatternOperation) : CachedPattern :=
  operations.foldl (fun cached operation => (cached.perform operation).2) cached

variable {cached : CachedPattern}

/-- An operation answers what it answers with the text compiled for it alone. -/
theorem Faithful.perform_eq (h : cached.Faithful) (operation : PatternOperation) :
    (cached.perform operation).1 = cached.pattern.answer operation := by
  cases operation with
  | setText text => rfl
  | placeholders =>
    have hanswer : cached.placeholders.1 = cached.pattern.placeholders := by
      unfold CachedPattern.placeholders UrlPattern.placeholders UrlPattern.template
      rw [h.use_fst]
      cases Template.compile cached.pattern.text <;> rfl
    exact congrArg PatternAnswer.placeholders hanswer
  | printFormat =>
    have hanswer : cached.printFormat.1 = cached.pattern.printFormat := by
      unfold CachedPattern.printFormat UrlPattern.printFormat UrlPattern.template
      rw [h.use_fst]
      cases Template.compile cached.pattern.text <;> rfl
    exact congrArg PatternAnswer.printFormat hanswer
  | build params escape => exact congrArg PatternAnswer.url (h.use_fst _)
  | match? path =>
    have hanswer : (cached.match? path).1 = cached.pattern.match? path := by
      unfold CachedPattern.match? UrlPattern.match? UrlPattern.template
      rw [h.use_fst]
      cases Template.compile cached.pattern.text <;> rfl
    exact congrArg PatternAnswer.found hanswer

/-- After an operation, a pattern is faithful to the text that is then in force. -/
lemma Faithful.perform (h : cached.Faithful) (operation : PatternOperation) :
    (cached.perform operation).2.Faithful := by
  cases operation with
  | setText text => exact faithful_new cached.pattern.name text
  | placeholders => exact h.use _
  | printFormat => exact h.use _
  | build params escape => exact h.use _
  | match? path => exact h.use _

/-- An operation replaces the text of a pattern or leaves it, and never touches the name. -/
lemma pattern_perform (cached : CachedPattern) (operation : PatternOperation) :
    (cached.perform operation).2.pattern =
      ⟨cached.pattern.name, operation.newText cached.pattern.text⟩ := by
  cases operation with
  | setText text => rfl
  | placeholders => exact cached.pattern_use _
  | printFormat => exact cached.pattern_use _
  | build params escape => exact cached.pattern_use _
  | match? path => exact cached.pattern_use _

/-- However long a pattern has been in use, it is faithful. -/
lemma Faithful.after (h : cached.Faithful) (operations : List PatternOperation) :
    (cached.after operations).Faithful := by
  induction operations generalizing cached with
  | nil => exact h
  | cons operation rest ih => exact ih (h.perform operation)

/-- A pattern in use has its name still, and the text that was set last. -/
lemma pattern_after (cached : CachedPattern) (operations : List PatternOperation) :
    (cached.after operations).pattern =
      ⟨cached.pattern.name, PatternOperation.textAfter cached.pattern.text operations⟩ := by
  induction operations generalizing cached with
  | nil => rfl
  | cons operation rest ih =>
    refine (ih (cached.perform operation).2).trans ?_
    rw [pattern_perform]
    rfl

/-! ## Never stale -/

/-- **No operation meets the template of an earlier text.**  Take a pattern that has just been made,
compiled or not, and do anything with it.  Then it has its name and the text that was set last; each
operation answers what it answers on a new pattern with that text, which is what the text itself
gives; if the text does not compile, the pattern is a new one in every respect; and if the text is
replaced, the pattern is a new one with the later text, whatever the earlier text was.

**Proof sketch.** A template that has been kept is that of the text.  This holds of a pattern that
has just been made, and each operation keeps it; so the answer of an operation depends on the text
alone. -/
theorem never_stale {name text : String} {start : CachedPattern}
    (hstart : start = new name text ∨ parse name text = .ok start)
    (operations : List PatternOperation) :
    let current := PatternOperation.textAfter text operations
    let pattern := start.after operations
    pattern.pattern = ⟨name, current⟩ ∧
    (∀ next : PatternOperation,
      (pattern.perform next).1 = ((new name current).perform next).1 ∧
      (pattern.perform next).1 = UrlPattern.answer ⟨name, current⟩ next) ∧
    (∀ cause, Template.compile current = .error cause → pattern = new name current) ∧
    ∀ later, (pattern.perform (.setText later)).2 = new name later := by
  intro current pattern
  have hfaithful : start.Faithful := by
    rcases hstart with rfl | hparse
    · exact faithful_new name text
    · exact faithful_parse hparse
  have hpattern : start.pattern = ⟨name, text⟩ := by
    rcases hstart with rfl | hparse
    · rfl
    · exact pattern_parse hparse
  have hnow : pattern.pattern = ⟨name, current⟩ := by
    rw [pattern_after, hpattern]
  have hanswer : ∀ next, (pattern.perform next).1 = UrlPattern.answer ⟨name, current⟩ next := by
    intro next
    rw [(hfaithful.after operations).perform_eq, hnow]
  refine ⟨hnow, fun next => ⟨?_, hanswer next⟩, fun cause hcause => ?_, fun later => ?_⟩
  · rw [hanswer, (faithful_new name current).perform_eq]
    rfl
  · have hcompile : Template.compile pattern.pattern.text = .error cause := by rwa [hnow]
    have hnew : pattern = new pattern.pattern.name pattern.pattern.text :=
      (hfaithful.after operations).eq_new hcompile
    rwa [hnow] at hnew
  · show CachedPattern.mk { pattern.pattern with text := later } none = new name later
    rw [hnow]
    rfl

/-- Operations on a pattern whose text is replaced by one that does not compile, and then by another
one that does. -/
def renamingSteps : List PatternOperation :=
  [.printFormat, .setText "/users/\x7bid", .match? "/users/1", .setText "/people/\x7bname\x7d"]

/-- Neither the template of the first text nor the failure of the second one is met again. -/
theorem never_stale_renamingSteps :
    ∃ start, parse "user" "/users/\x7bid\x7d" = .ok start ∧
      start.compiled ≠ none ∧
      (start.after renamingSteps).pattern = ⟨"user", "/people/\x7bname\x7d"⟩ ∧
      ((start.after renamingSteps).perform .printFormat).1 =
        .printFormat (.ok "/people/%1$s") ∧
      ((start.after (renamingSteps.take 2)).perform (.match? "/users/1")).1 =
        .found (.error (.invalidPattern "/users/\x7bid" 7 .unterminated)) := by
  have hparse : ∃ start, parse "user" "/users/\x7bid\x7d" = .ok start ∧ start.compiled ≠ none := by
    refine ⟨_, rfl, by simp⟩
  obtain ⟨start, hparse, hcompiled⟩ := hparse
  obtain ⟨hpattern, hanswer, -⟩ := never_stale (.inr hparse) renamingSteps
  obtain ⟨-, hbroken, -⟩ := never_stale (.inr hparse) (renamingSteps.take 2)
  refine ⟨start, hparse, hcompiled, hpattern, ?_, ?_⟩
  · rw [(hanswer .printFormat).2]
    rfl
  · rw [(hbroken (.match? "/users/1")).2]
    rfl

end CachedPattern

end RequestRouting
