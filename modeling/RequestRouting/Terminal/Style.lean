import RequestRouting.Text.Split

/-!
# Styled text

Text in the colours of a terminal.

## Main definitions

* `Style` — bold text and colours.
* `paint` — a text in a style, or plain where there are no colours.
* `padRight`, `padLeft` — a text with blanks up to a width.
-/

set_option autoImplicit false

namespace RequestRouting

/-- How a text is shown. -/
inductive Style where
  | bold
  | red
  | green
  | cyan
  | faint
  /-- Bold and yellow. -/
  | warning
  deriving DecidableEq

/-- The sequence that begins a style. -/
def Style.opening : Style → String
  | .bold => "\x1b[1m"
  | .red => "\x1b[31m"
  | .green => "\x1b[32m"
  | .cyan => "\x1b[36m"
  | .faint => "\x1b[90m"
  | .warning => "\x1b[1;33m"

/-- The sequence that ends every style. -/
def styleReset : String := "\x1b[0m"

/-- A text in a style.  Where the text itself ends all styles, the style begins anew. -/
def paint (colours : Bool) (style : Style) (text : String) : String :=
  if colours then
    let pieces := (splitOnText styleReset.toList text.toList).map String.ofList
    style.opening ++ (styleReset ++ style.opening).intercalate pieces ++ styleReset
  else text

/-- Blanks. -/
def blanks (count : Nat) : String := String.ofList (List.replicate count ' ')

/-- A text followed by blanks up to a width. -/
def padRight (width : Nat) (text : String) : String := text ++ blanks (width - text.length)

/-- A text after blanks up to a width. -/
def padLeft (width : Nat) (text : String) : String := blanks (width - text.length) ++ text

end RequestRouting
