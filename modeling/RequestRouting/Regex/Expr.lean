import RequestRouting.Regex.CharSet

/-!
# Regular expressions

## Main definitions

* `Regex.Look` — conditions on the surroundings of a position.
* `Regex.Expr` — regular expressions with capture groups, preference among alternatives and
  counted repetition.
* `Regex.Expr.canBeEmpty`, `Regex.Expr.onlyEmpty` — whether an expression can match the empty
  text, and nothing else.
* `Regex.Expr.groupCount` — the number of capture groups.
* `Regex.Expr.weight` — an estimate of the size of the compiled form in bytes.
-/

set_option autoImplicit false

namespace RequestRouting

namespace Regex

/-- A condition on the surroundings of a position. -/
inductive Look where
  | textStart
  | textEnd
  | lineStart
  | lineEnd
  /-- Like `lineStart`, where a carriage return ends a line too. -/
  | lineStartCrlf
  /-- Like `lineEnd`, where a carriage return ends a line too. -/
  | lineEndCrlf
  | wordBoundary (ascii : Bool)
  | notWordBoundary (ascii : Bool)
  | wordStart (ascii : Bool)
  | wordEnd (ascii : Bool)
  | wordStartHalf (ascii : Bool)
  | wordEndHalf (ascii : Bool)
  deriving DecidableEq

/-- A regular expression. -/
inductive Expr where
  /-- The empty text. -/
  | empty
  /-- A character of a set. -/
  | chars (set : CharSet)
  /-- The empty text at a position with the right surroundings. -/
  | look (condition : Look)
  /-- A capture group. -/
  | group (index : Nat) (body : Expr)
  /-- One expression after another. -/
  | cat (first second : Expr)
  /-- One of two expressions, preferably the first. -/
  | alt (first second : Expr)
  /-- Repetition between two bounds, preferably often if `greedy` is set. -/
  | repeated (least : Nat) (most : Option Nat) (greedy : Bool) (body : Expr)
  deriving Inhabited

namespace Expr

/-- Whether an expression can match the empty text. -/
def canBeEmpty : Expr → Bool
  | .empty | .look _ => true
  | .chars _ => false
  | .group _ body => body.canBeEmpty
  | .cat first second => first.canBeEmpty && second.canBeEmpty
  | .alt first second => first.canBeEmpty || second.canBeEmpty
  | .repeated least _ _ body => least = 0 || body.canBeEmpty

/-- Whether an expression matches nothing but the empty text. -/
def onlyEmpty : Expr → Bool
  | .empty | .look _ => true
  | .chars _ => false
  | .group _ body => body.onlyEmpty
  | .cat first second => first.onlyEmpty && second.onlyEmpty
  | .alt first second => first.onlyEmpty && second.onlyEmpty
  | .repeated _ _ _ body => body.onlyEmpty

/-- A repetition, simplified: repeating what is always empty more than once is idle, and a
repetition without repetitions loses its groups. -/
def repetition (least : Nat) (most : Option Nat) (greedy : Bool) (body : Expr) : Expr :=
  let (least, most) :=
    if body.onlyEmpty then (min least 1, some ((most.map (min · 1)).getD 1)) else (least, most)
  if least = 0 && most = some 0 then .empty
  else if least = 1 && most = some 1 then body
  else .repeated least most greedy body

/-- The greatest index of a capture group. -/
def groupCount : Expr → Nat
  | .empty | .chars _ | .look _ => 0
  | .group index body => max index body.groupCount
  | .cat first second | .alt first second => max first.groupCount second.groupCount
  | .repeated _ _ _ body => body.groupCount

/-- An estimate of the size of the compiled form in bytes.  Repetitions are copied out. -/
def weight : Expr → Nat
  | .empty | .look _ => 32
  | .chars set => 32 + 64 * set.ranges.length
  | .group _ body => 64 + body.weight
  | .cat first second | .alt first second => 32 + first.weight + second.weight
  | .repeated least most _ body => (max (least + 1) (most.getD 0)) * (32 + body.weight)

end Expr

end Regex

end RequestRouting
