import RequestRouting.Toml.Scalar
import RequestRouting.Toml.Token
import RequestRouting.Toml.Tree

/-!
# Reading TOML

## Main definitions

* `Toml.readKey?` — a dotted key.
* `Toml.readValue?` — a value.
* `Toml.readLines?` — the statements of a document.
* `Toml.parse?` — the document that a text spells.

## Implementation notes

Every call consumes a token or uses up fuel, so as much fuel as there are tokens is enough.
-/

set_option autoImplicit false

namespace RequestRouting

namespace Toml

/-- Leaves out blanks. -/
def skipBlanks : List Token → List Token
  | .blank _ :: rest => skipBlanks rest
  | rest => rest

/-- Leaves out blanks and line ends. -/
def skipLines : List Token → List Token
  | .blank _ :: rest => skipLines rest
  | .newline :: rest => skipLines rest
  | rest => rest

/-- The characters of bare keys. -/
def isKeyChar (c : Char) : Bool := c.isAlphanum || c == '_' || c == '-'

/-- One part of a key. -/
def readKeyPart? : List Token → Option (String × List Token)
  | .word chars :: rest =>
    if chars.all isKeyChar then some (String.ofList chars, rest) else none
  | .text value false :: rest => some (value, rest)
  | _ => none

/-- The parts of a key: those before the last one, and the last one. -/
def readKey? : Nat → List Token → Option (List String × String × List Token)
  | 0, _ => none
  | fuel + 1, tokens => do
    let (part, rest) ← readKeyPart? (skipBlanks tokens)
    match skipBlanks rest with
    | .dot :: rest =>
      let (path, key, rest) ← readKey? fuel rest
      some (part :: path, key, rest)
    | rest => some ([], part, rest)

/-- The text of an unquoted scalar, which extends over words and points. -/
def spanScalar : List Token → List Char × List Token
  | .word chars :: rest =>
    let (more, rest) := spanScalar rest
    (chars ++ more, rest)
  | .dot :: rest =>
    let (more, rest) := spanScalar rest
    ('.' :: more, rest)
  | rest => ([], rest)

/-- Whether a text is a date and nothing else. -/
def isDate (text : List Char) : Bool :=
  match readDate? text with
  | some (_, []) => true
  | _ => false

/-- An unquoted scalar.  A single space may separate a date from a time. -/
def readUnquoted? (tokens : List Token) : Option (Node × List Token) :=
  let (text, rest) := spanScalar tokens
  match rest with
  | .blank [' '] :: .word (c :: chars) :: more =>
    if isDate text && c.isDigit then
      let (time, rest) := spanScalar (.word (c :: chars) :: more)
      (readScalar? (text ++ ' ' :: time)).map fun node => (node, rest)
    else (readScalar? text).map fun node => (node, rest)
  | rest => (readScalar? text).map fun node => (node, rest)

mutual

/-- A value. -/
def readValue? : Nat → List Token → Option (Node × List Token)
  | 0, _ => none
  | fuel + 1, tokens =>
    match tokens with
    | .text value _ :: rest => some (.text value, rest)
    | .openBracket :: rest => do
      let (items, rest) ← readItems? fuel (skipLines rest)
      some (.array items, rest)
    | .openBrace :: rest =>
      match skipBlanks rest with
      | .closeBrace :: rest => some (.table [], rest)
      | rest => do
        let (assignments, rest) ← readPairs? fuel rest
        some (← inlineTable? assignments, rest)
    | tokens => readUnquoted? tokens

/-- The items of an array up to its closing bracket. -/
def readItems? : Nat → List Token → Option (List Node × List Token)
  | 0, _ => none
  | fuel + 1, tokens =>
    match tokens with
    | .closeBracket :: rest => some ([], rest)
    | tokens => do
      let (item, rest) ← readValue? fuel tokens
      match skipLines rest with
      | .closeBracket :: rest => some ([item], rest)
      | .comma :: rest =>
        let (items, rest) ← readItems? fuel (skipLines rest)
        some (item :: items, rest)
      | _ => none

/-- The assignments of an inline table up to its closing brace. -/
def readPairs? : Nat → List Token → Option (List Assignment × List Token)
  | 0, _ => none
  | fuel + 1, tokens => do
    let (path, key, rest) ← readKey? fuel tokens
    match rest with
    | .equals :: rest =>
      let (node, rest) ← readValue? fuel (skipBlanks rest)
      match skipBlanks rest with
      | .closeBrace :: rest => some ([⟨path, key, node⟩], rest)
      | .comma :: rest =>
        let (assignments, rest) ← readPairs? fuel rest
        some (⟨path, key, node⟩ :: assignments, rest)
      | _ => none
    | _ => none

end

/-- The tokens after the end of a line. -/
def endLine? (tokens : List Token) : Option (List Token) :=
  match skipBlanks tokens with
  | [] => some []
  | .newline :: rest => some rest
  | _ => none

/-- A statement. -/
inductive Statement where
  | assign (assignment : Assignment)
  | header (path : List String) (key : String) (isArray : Bool)

/-- A header, without its opening brackets, up to the end of its line. -/
def readHeader? (isArray : Bool) (tokens : List Token) : Option (Statement × List Token) := do
  let (path, key, rest) ← readKey? tokens.length tokens
  match isArray, rest with
  | false, .closeBracket :: rest => some (.header path key false, ← endLine? rest)
  | true, .closeBracket :: .closeBracket :: rest => some (.header path key true, ← endLine? rest)
  | _, _ => none

/-- An assignment up to the end of its line. -/
def readAssignment? (tokens : List Token) : Option (Statement × List Token) := do
  let (path, key, rest) ← readKey? tokens.length tokens
  match rest with
  | .equals :: rest =>
    let (node, rest) ← readValue? rest.length (skipBlanks rest)
    some (.assign ⟨path, key, node⟩, ← endLine? rest)
  | _ => none

/-- The statements of a document. -/
def readLines? : Nat → List Token → Option (List Statement)
  | fuel, tokens =>
    match skipLines tokens, fuel with
    | [], _ => some []
    | _, 0 => none
    | .openBracket :: .openBracket :: rest, fuel + 1 => do
      let (statement, rest) ← readHeader? true rest
      some (statement :: (← readLines? fuel rest))
    | .openBracket :: rest, fuel + 1 => do
      let (statement, rest) ← readHeader? false rest
      some (statement :: (← readLines? fuel rest))
    | tokens, fuel + 1 => do
      let (statement, rest) ← readAssignment? tokens
      some (statement :: (← readLines? fuel rest))

/-- Collects statements into the assignments before the first header, and sections. -/
def splitSections : List Statement → List Assignment × List Section
  | [] => ([], [])
  | .assign assignment :: rest =>
    let (assignments, sections) := splitSections rest
    (assignment :: assignments, sections)
  | .header path key isArray :: rest =>
    let (assignments, sections) := splitSections rest
    ([], ⟨path, key, isArray, assignments⟩ :: sections)

/-- The document that a text spells. -/
def parse? (text : String) : Option Node := do
  let tokens ← tokens? text
  let statements ← readLines? tokens.length tokens
  let (assignments, sections) := splitSections statements
  build? assignments sections

end Toml

end RequestRouting
