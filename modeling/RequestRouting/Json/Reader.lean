import RequestRouting.Json.Token

/-!
# Reading JSON

A pushdown reader over the tokens of a text: the containers that are still open are a list of
frames, and every token moves the reader one step.

## Main definitions

* `Json.Frame`, `Json.Reader` — an open container, and the state between two tokens.
* `Json.Reader.step` — the effect of one token.
* `Json.parse?` — the value that a text spells; the last field of a repeated name stays, and
  containers nest at most 127 deep.
-/

set_option autoImplicit false

namespace RequestRouting

namespace Json

/-- A container that is still open. -/
inductive Frame where
  /-- An array with its items so far, in reverse. -/
  | array (items : List Json)
  /-- An object with its fields so far, and the name whose value is being read. -/
  | object (fields : List (String × Json)) (name : String)

/-- What the reader waits for. -/
inductive Expected where
  | value
  | valueOrClose
  | commaOrClose
  | name
  | nameOrClose
  | colon
  | nothing
  deriving DecidableEq

/-- The state between two tokens. -/
structure Reader where
  /-- The open containers, innermost first. -/
  frames : List Frame
  /-- What may come next. -/
  expected : Expected
  /-- The finished value. -/
  result : Option Json

namespace Reader

/-- Before the first token. -/
def start : Reader := ⟨[], .value, none⟩

/-- The greatest number of containers that may be open at once. -/
def maxDepth : Nat := 127

/-- Hands a finished value to the innermost open container. -/
def complete (reader : Reader) (value : Json) : Reader :=
  match reader.frames with
  | [] => ⟨[], .nothing, some value⟩
  | .array items :: rest => ⟨.array (value :: items) :: rest, .commaOrClose, none⟩
  | .object fields name :: rest =>
    ⟨.object (Fields.insert name value fields) name :: rest, .commaOrClose, none⟩

/-- Whether a value may start here. -/
def wantsValue (reader : Reader) : Bool :=
  reader.expected = .value || reader.expected = .valueOrClose

/-- Opens a container. -/
def openFrame (reader : Reader) (frame : Frame) (expected : Expected) : Option Reader :=
  if reader.wantsValue && reader.frames.length < maxDepth then
    some ⟨frame :: reader.frames, expected, none⟩
  else none

/-- Closes the innermost container. -/
def close (reader : Reader) (isArray : Bool) : Option Reader :=
  match isArray, reader.frames with
  | true, .array items :: rest =>
    if reader.expected = .valueOrClose || reader.expected = .commaOrClose then
      some (complete ⟨rest, .value, none⟩ (.array items.reverse))
    else none
  | false, .object fields _ :: rest =>
    if reader.expected = .nameOrClose || reader.expected = .commaOrClose then
      some (complete ⟨rest, .value, none⟩ (.object fields))
    else none
  | _, _ => none

/-- The effect of one token. -/
def step (reader : Reader) : Token → Option Reader
  | .openArray => reader.openFrame (.array []) .valueOrClose
  | .openObject => reader.openFrame (.object [] "") .nameOrClose
  | .closeArray => reader.close true
  | .closeObject => reader.close false
  | .comma =>
    if reader.expected = .commaOrClose then
      match reader.frames with
      | .array _ :: _ => some { reader with expected := .value }
      | .object _ _ :: _ => some { reader with expected := .name }
      | [] => none
    else none
  | .colon =>
    if reader.expected = .colon then some { reader with expected := .value } else none
  | .scalar value => if reader.wantsValue then some (reader.complete value) else none
  | .string text =>
    if reader.wantsValue then some (reader.complete (.string text))
    else if reader.expected = .name || reader.expected = .nameOrClose then
      match reader.frames with
      | .object fields _ :: rest => some ⟨.object fields text :: rest, .colon, none⟩
      | _ => none
    else none

/-- The state after a list of tokens. -/
def run (reader : Reader) (tokens : List Token) : Option Reader := tokens.foldlM step reader

end Reader

/-- The value that a text spells. -/
def parse? (text : String) : Option Json := do
  let tokens ← tokens? text
  let reader ← Reader.start.run tokens
  reader.result

end Json

end RequestRouting
