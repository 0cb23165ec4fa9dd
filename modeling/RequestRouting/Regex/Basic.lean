import RequestRouting.Regex.Reader
import RequestRouting.Regex.Search
import RequestRouting.Text.Utf8

/-!
# Compiled regular expressions

The interface of the conditions to regular expressions: a pattern of bounded length is compiled
once, and then gives the captures of its leftmost match in any text.

## Main definitions

* `Regex.Error` — why a pattern is refused, and `Regex.Error.message`.
* `Regex.Compiled` — a compiled pattern.
* `Regex.compile` — compiles a pattern.
* `Regex.Compiled.captures?` — what the groups of the leftmost match captured.
-/

set_option autoImplicit false

namespace RequestRouting

namespace Regex

/-- The greatest length of a pattern in bytes. -/
def maxLength : Nat := 500

/-- The greatest size of a compiled pattern in bytes. -/
def maxWeight : Nat := 10000000

/-- Why a pattern is refused. -/
inductive Error where
  /-- The pattern is too long. -/
  | tooLong
  /-- The pattern is no regular expression. -/
  | malformed
  /-- The compiled pattern would be too large. -/
  | tooLarge
  deriving DecidableEq

/-- The message of an error. -/
def Error.message : Error → String
  | .tooLong => "Pattern exceeds maximum length of " ++ toString maxLength ++ " characters"
  | .malformed => "regex parse error: the pattern is no regular expression"
  | .tooLarge => "Compiled regex exceeds size limit of " ++ toString maxWeight ++ " bytes."

/-- A compiled pattern. -/
structure Compiled where
  /-- The text of the pattern. -/
  source : String
  /-- The number of capture groups. -/
  groupCount : Nat
  /-- The program that searches for the pattern. -/
  program : Program

instance : Inhabited Compiled := ⟨⟨"", 0, Expr.empty.program⟩⟩

/-- Compiles a pattern whose length does not matter. -/
def compileUnbounded (pattern : String) : Except Error Compiled :=
  match read? pattern.toList with
  | none => .error .malformed
  | some expr =>
    if expr.weight ≤ maxWeight then .ok ⟨pattern, expr.groupCount, expr.program⟩
    else .error .tooLarge

/-- Compiles a pattern. -/
def compile (pattern : String) : Except Error Compiled :=
  if pattern.utf8ByteSize ≤ maxLength then compileUnbounded pattern else .error .tooLong

/-- The text between two slots. -/
def sliceOf (text : Array Char) (slots : Array (Option Nat)) (group : Nat) : Option String :=
  match (slots[2 * group]?).join, (slots[2 * group + 1]?).join with
  | some first, some last => some (String.ofList (text.extract first last).toList)
  | _, _ => none

namespace Compiled

/-- What the groups of the leftmost match in a text captured, in the order of the groups; `none`
for a group that took no part. -/
def captures? (regex : Compiled) (text : String) : Option (List (Option String)) :=
  let chars := text.toList.toArray
  (regex.program.search chars regex.groupCount).map fun slots =>
    (List.range regex.groupCount).map fun group => sliceOf chars slots (group + 1)

/-- Whether a pattern occurs in a text. -/
def isMatch (regex : Compiled) (text : String) : Bool := (regex.captures? text).isSome

/-- Every match has as many captures as the pattern has groups. -/
theorem length_of_captures? {regex : Compiled} {text : String} {groups : List (Option String)}
    (h : regex.captures? text = some groups) : groups.length = regex.groupCount := by
  obtain ⟨slots, _, rfl⟩ := Option.map_eq_some_iff.1 h
  simp

end Compiled

/-- A compiled pattern keeps its text. -/
theorem source_of_compile {pattern : String} {regex : Compiled} (h : compile pattern = .ok regex) :
    regex.source = pattern := by
  unfold compile compileUnbounded at h
  split at h
  · split at h
    · cases h
    · split at h
      · cases h
        rfl
      · cases h
  · cases h

end Regex

end RequestRouting
