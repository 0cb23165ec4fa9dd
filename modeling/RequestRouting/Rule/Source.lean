import RequestRouting.Rule.Table
import RequestRouting.Toml.Reader

/-!
# Rule tables in text form

## Main definitions

* `checkPattern` — whether a regular expression of a rule table is acceptable.
* `RuleTable.ofText` — the rule table that a TOML text holds, with all its regular expressions
  checked.
-/

set_option autoImplicit false

namespace RequestRouting

/-- Checks a regular expression of a rule table. -/
def checkPattern (pattern : String) : Except LoadFault Unit :=
  if Regex.maxLength < Utf8.size pattern.toList then .error (.patternTooLong pattern)
  else match Regex.compile pattern with
    | .ok _ => .ok ()
    | .error cause => .error (.badPattern cause)

/-- Checks regular expressions one after another. -/
def checkPatterns : List String → Except LoadFault Unit
  | [] => .ok ()
  | pattern :: rest =>
    match checkPattern pattern with
    | .ok () => checkPatterns rest
    | .error fault => .error fault

/-- The rule table that a TOML text holds. -/
def RuleTable.ofText (text : String) : Except LoadFault RuleTable :=
  match (Toml.parse? text).bind (RuleTable.ofNode? .toml) with
  | none => .error .malformed
  | some table =>
    match checkPatterns (table.rules.flatMap RuleSpec.regexPatterns) with
    | .ok () => .ok table
    | .error fault => .error fault

end RequestRouting
