import RequestRouting.Scalar
import RequestRouting.Text.Percent
import RequestRouting.Url.Template

/-!
# Building URLs from templates

A bag of parameters gives every placeholder a value: the names of its property path lead through
objects by key and through arrays by index to a scalar.

## Main definitions

* `PropertyPath.resolve` — the text of a placeholder's value in a bag.
* `Template.fill` — a template with texts in the place of its slots.
* `Template.build` — the URL for a bag of parameters.
-/

set_option autoImplicit false

namespace RequestRouting

/-- The natural number spelled by decimal digits. -/
def readNatural? (text : List Char) : Option Nat :=
  if text.isEmpty || !text.all Char.isDigit then none else some (ofDigits text)

namespace PropertyPath

/-- The value one name further.  Nothing is further than a scalar, and null counts as absent. -/
def stepInto (value : Json) (name : String) : Option Json :=
  let next := match value with
    | .object fields => Fields.get? name fields
    | .array items => (readNatural? name.toList).bind fun index => items[index]?
    | _ => none
  next.filter fun value => !value.isNull

/-- Follows names; the error is the first name without a value. -/
def follow (value : Json) : List String → Except String Json
  | [] => .ok value
  | name :: rest =>
    match stepInto value name with
    | some next => follow next rest
    | none => .error name

/-- The text of a placeholder's value in a bag of parameters. -/
def resolve (path : PropertyPath) (pattern : String) (params : Json) : Except UrlError String :=
  match follow params path.names with
  | .error name => .error (.missingParameter pattern path.text name)
  | .ok value =>
    match value.display? with
    | some text => .ok text
    | none => .error (.unprintableParameter pattern path.text)

end PropertyPath

namespace Template

/-- The texts of all placeholders; the leftmost one without a text gives the error. -/
def resolve (template : Template) (pattern : String) (params : Json) :
    Except UrlError (List String) :=
  template.placeholders.mapM fun placeholder => placeholder.path.resolve pattern params

/-- The text of a segment, given the texts of the slots. -/
def fillSegment (values : List String) : Segment → String
  | .literal text => text
  | .slot index => (values[index]?).getD ""

/-- A template with texts in the place of its slots. -/
def fill (template : Template) (values : List String) : String :=
  String.join (template.segments.map (fillSegment values))

/-- The URL for a bag of parameters.  The texts of the slots are percent-encoded if `escape` is
set; literal text never is. -/
def build (template : Template) (pattern : String) (params : Json) (escape : Bool) :
    Except UrlError String := do
  let values ← template.resolve pattern params
  .ok (template.fill (if escape then values.map Percent.encode else values))

end Template

end RequestRouting
