/-!
# Parameter scopes and dispatch modes

The two small choices that request parameters and rule tables spell by name.

## Main definitions

* `Scope` — which parameters of a request a name refers to.
* `DispatchMode` — whether a dispatch stops at the first rule that matches.
* `Scope.parse?`, `DispatchMode.parse?` — reading a name in any case.
-/

set_option autoImplicit false

namespace RequestRouting

/-- A text with its ASCII letters in lower case. -/
def asciiLower (text : String) : String := String.ofList (text.toList.map Char.toLower)

/-- A text with its ASCII letters in upper case. -/
def asciiUpper (text : String) : String := String.ofList (text.toList.map Char.toUpper)

/-- Which parameters of a request a name refers to. -/
inductive Scope where
  /-- The query string. -/
  | get
  /-- The request body. -/
  | post
  /-- Both; the body hides the query string. -/
  | both
  deriving DecidableEq, Inhabited

namespace Scope

/-- The scope that is meant where none is given. -/
def byDefault : Scope := .both

/-- The name of a scope. -/
def name : Scope → String
  | .get => "get"
  | .post => "post"
  | .both => "both"

/-- The scope with exactly the given name. -/
def ofName? (text : String) : Option Scope :=
  if text = "get" then some .get
  else if text = "post" then some .post
  else if text = "both" then some .both
  else none

/-- The scope with the given name, in any case. -/
def parse? (text : String) : Option Scope := ofName? (asciiLower text)

/-- A scope is found by its name. -/
@[simp] theorem ofName?_name (scope : Scope) : ofName? scope.name = some scope := by
  cases scope <;> decide

end Scope

/-- Whether a dispatch stops at the first rule that matches. -/
inductive DispatchMode where
  /-- Stop at the first rule that matches. -/
  | first
  /-- Attempt every rule. -/
  | all
  deriving DecidableEq, Inhabited

namespace DispatchMode

/-- The mode that is meant where none is given. -/
def byDefault : DispatchMode := .first

/-- The name of a mode. -/
def name : DispatchMode → String
  | .first => "first"
  | .all => "all"

/-- The mode with exactly the given name. -/
def ofName? (text : String) : Option DispatchMode :=
  if text = "first" then some .first else if text = "all" then some .all else none

/-- The mode with the given name, in any case. -/
def parse? (text : String) : Option DispatchMode := ofName? (asciiLower text)

/-- A mode is found by its name. -/
@[simp] theorem ofName?_name (mode : DispatchMode) : ofName? mode.name = some mode := by
  cases mode <;> decide

end DispatchMode

end RequestRouting
