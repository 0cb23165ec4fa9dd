import RequestRouting.Regex.Basic
import RequestRouting.Url.Match

/-!
# Regular expressions of templates

A template can be matched by a regular expression: its literal text, escaped, with a group in the
place of every slot, between the two ends of the path.

## Main definitions

* `Template.pattern` — the regular expression of a template.
* `Template.matchWith?` — the values that a path gives to the placeholders, by the captures of a
  compiled regular expression.
-/

set_option autoImplicit false

namespace RequestRouting

/-- The part of a regular expression for a segment. -/
def Segment.pattern : Segment → List Char
  | .literal text => Regex.escape text.toList
  | .slot _ => ['(', '[', '^', '/', ']', '+', ')']

namespace Template

/-- The regular expression of a template. -/
def pattern (template : Template) : String :=
  String.ofList ('^' :: (template.segments.flatMap Segment.pattern ++ ['$']))

/-- The values that a path gives to the placeholders, by the captures of a compiled regular
expression: the first group captures the value of the first placeholder, and so on. -/
def matchWith? (template : Template) (regex : Regex.Compiled) (path : String) :
    Option PatternMatch :=
  (regex.captures? path).map fun captures =>
    ⟨(template.placeholders.zip captures).map fun (placeholder, capture) =>
      (placeholder.path, Percent.decode (capture.getD ""))⟩

end Template

end RequestRouting
