import RequestRouting.Url.Build
import RequestRouting.Url.Match

/-!
# Named URL patterns

A pattern has a name and a text.  Its template is compiled when an operation first needs it, and
kept until the text is replaced; a text that does not compile is compiled again every time.

## Main definitions

* `UrlPattern` — a name and a text, and the operations on them.
* `CachedPattern` — a pattern together with the template that an earlier operation has compiled.
-/

set_option autoImplicit false

namespace RequestRouting

/-- A pattern: a name and a text, which may be malformed. -/
structure UrlPattern where
  name : String
  text : String
  deriving DecidableEq

namespace UrlPattern

/-- The template of the text. -/
def template (pattern : UrlPattern) : Except UrlError Template := Template.compile pattern.text

/-- A pattern whose text is known to compile. -/
def parse (name text : String) : Except UrlError UrlPattern := do
  let _ ← Template.compile text
  .ok ⟨name, text⟩

/-- The placeholders, in the order of the text. -/
def placeholders (pattern : UrlPattern) : Except UrlError (List Placeholder) :=
  pattern.template.map Template.placeholders

/-- The text as a print format. -/
def printFormat (pattern : UrlPattern) : Except UrlError String :=
  pattern.template.map Template.printFormat

/-- The URL for a bag of parameters. -/
def build (pattern : UrlPattern) (params : Json) (escape : Bool) : Except UrlError String := do
  (← pattern.template).build pattern.text params escape

/-- The values that a path gives to the placeholders. -/
def match? (pattern : UrlPattern) (path : String) : Except UrlError (Option PatternMatch) :=
  pattern.template.map fun template => template.match? path

end UrlPattern

/-- A pattern with a template that has been compiled before. -/
structure CachedPattern where
  pattern : UrlPattern
  compiled : Option Template

namespace CachedPattern

/-- A pattern that no operation has used. -/
def new (name text : String) : CachedPattern := ⟨⟨name, text⟩, none⟩

/-- A pattern that is compiled at once. -/
def parse (name text : String) : Except UrlError CachedPattern :=
  (Template.compile text).map fun template => ⟨⟨name, text⟩, some template⟩

/-- Replaces the text and forgets the template of the old one. -/
def setText (cached : CachedPattern) (text : String) : CachedPattern :=
  ⟨{ cached.pattern with text := text }, none⟩

/-- Uses the template, which is compiled if it has not been before, and is kept if it compiles. -/
def use {α : Type} (cached : CachedPattern) (operation : Template → Except UrlError α) :
    Except UrlError α × CachedPattern :=
  match cached.compiled with
  | some template => (operation template, cached)
  | none =>
    match Template.compile cached.pattern.text with
    | .ok template => (operation template, { cached with compiled := some template })
    | .error e => (.error e, cached)

/-- The placeholders, in the order of the text. -/
def placeholders (cached : CachedPattern) : Except UrlError (List Placeholder) × CachedPattern :=
  cached.use fun template => .ok template.placeholders

/-- The text as a print format. -/
def printFormat (cached : CachedPattern) : Except UrlError String × CachedPattern :=
  cached.use fun template => .ok template.printFormat

/-- The URL for a bag of parameters. -/
def build (cached : CachedPattern) (params : Json) (escape : Bool) :
    Except UrlError String × CachedPattern :=
  cached.use fun template => template.build cached.pattern.text params escape

/-- The values that a path gives to the placeholders. -/
def match? (cached : CachedPattern) (path : String) :
    Except UrlError (Option PatternMatch) × CachedPattern :=
  cached.use fun template => .ok (template.match? path)

end CachedPattern

end RequestRouting
