import RequestRouting.Text.Percent
import RequestRouting.Text.Split
import RequestRouting.Url.Template

/-!
# Matching paths against templates

A path matches a template if it is the literal text of the template with a piece that is not empty
and has no slash in the place of every slot.  Of several ways to cut a path, the one with the
longest first piece is taken, then the longest second piece, and so on.

## Main definitions

* `Template.cut` — the pieces of a path in the place of the slots.
* `PatternMatch`, `Template.match?` — the percent-decoded pieces with their property paths.
-/

set_option autoImplicit false

namespace RequestRouting

/-- The values that a path gives to the placeholders of a template, in their order. -/
structure PatternMatch where
  values : List (PropertyPath × String)
  deriving DecidableEq

namespace PatternMatch

/-- The value of the first placeholder with the given dotted name. -/
def get? (found : PatternMatch) (name : String) : Option String :=
  (found.values.find? fun entry => entry.1.text = name).map Prod.snd

end PatternMatch

namespace Template

/-- The numbers from `n` down to one. -/
def downFrom (n : Nat) : List Nat := (List.range n).reverse.map (· + 1)

/-- The pieces of a path in the place of the slots: the longest possible piece for the first slot,
then for the second, and so on. -/
def cut : List Segment → List Char → Option (List (List Char))
  | [], [] => some []
  | [], _ :: _ => none
  | .literal text :: segments, path =>
    match stripStart? text.toList path with
    | some rest => cut segments rest
    | none => none
  | .slot _ :: segments, path =>
    (downFrom (path.takeWhile (· ≠ '/')).length).findSome? fun length =>
      (cut segments (path.drop length)).map (path.take length :: ·)

/-- The values that a path gives to the placeholders. -/
def match? (template : Template) (path : String) : Option PatternMatch :=
  (cut template.segments path.toList).map fun pieces =>
    ⟨(template.placeholders.zip pieces).map fun (placeholder, piece) =>
      (placeholder.path, String.ofList (Percent.decodeChars piece))⟩

end Template

end RequestRouting
