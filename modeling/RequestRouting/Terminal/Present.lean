import RequestRouting.Json.Printer
import RequestRouting.Scalar
import RequestRouting.Terminal.Style

/-!
# Presenting results

Results are shown as text for a reader, or as indented JSON.

## Main definitions

* `OutputFormat` — the two ways to show a result.
* `Presentable` — results that can be shown.
* `present` — a result as text.
-/

set_option autoImplicit false

namespace RequestRouting

/-- The ways to show a result. -/
inductive OutputFormat where
  | human
  | json
  deriving DecidableEq

namespace OutputFormat

/-- The name of a format. -/
def name : OutputFormat → String
  | .human => "human"
  | .json => "json"

/-- The format with the given name. -/
def ofName? (text : String) : Option OutputFormat :=
  if text = "human" then some .human else if text = "json" then some .json else none

end OutputFormat

/-- Results that can be shown. -/
class Presentable (α : Type) where
  /-- The result as a JSON value, its fields in the order in which they are shown. -/
  toJson : α → Json
  /-- The result as text, with or without colours. -/
  render : Bool → α → String

/-- A result as text. -/
def present {α : Type} [Presentable α] (format : OutputFormat) (colours : Bool) (result : α) :
    String :=
  match format with
  | .human => Presentable.render colours result
  | .json => (Presentable.toJson result).pretty ++ "\n"

/-- A value in running text: scalars as they are, all else as JSON. -/
def renderValue (value : Json) : String := value.display?.getD value.compact

/-- Values in running text. -/
def renderValues (values : List Json) : String := ", ".intercalate (values.map renderValue)

end RequestRouting
