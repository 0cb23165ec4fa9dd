import RequestRouting.Rule.Basic

/-!
# Rule books

A rule book is an ordered list of rules whose names are distinct.  It only grows at its end.

## Main definitions

* `RuleBook` — the list.
* `RuleBook.addRule` — appends a rule with a new name.
* `RuleBook.find?` — the rule with a name.
-/

set_option autoImplicit false

namespace RequestRouting

/-- An ordered list of rules with distinct names. -/
structure RuleBook where
  /-- The rules, in the order in which they are attempted. -/
  rules : List Rule
  /-- No two rules have the same name. -/
  distinct : (rules.map Rule.name).Nodup

namespace RuleBook

/-- The book without rules. -/
def empty : RuleBook := ⟨[], List.Pairwise.nil⟩

/-- The names of the rules. -/
def names (book : RuleBook) : List String := book.rules.map Rule.name

/-- Appends a rule, unless its name is taken. -/
def addRule (book : RuleBook) (rule : Rule) : Except RuleError RuleBook :=
  if h : rule.name ∈ book.rules.map Rule.name then .error (.duplicateRule rule.name)
  else .ok ⟨book.rules ++ [rule], by
    simp only [List.map_append, List.map_cons, List.map_nil]
    refine List.nodup_append.2 ⟨book.distinct, by simp, ?_⟩
    intro name hname other hother
    simp only [List.mem_singleton] at hother
    subst hother
    exact fun e => h (e ▸ hname)⟩

/-- Appends rules one after another. -/
def addRules (book : RuleBook) : List Rule → Except RuleError RuleBook
  | [] => .ok book
  | rule :: rest =>
    match book.addRule rule with
    | .ok book => book.addRules rest
    | .error e => .error e

/-- The book of a list of rules. -/
def ofRules (rules : List Rule) : Except RuleError RuleBook := empty.addRules rules

/-- The rule with a name. -/
def find? (book : RuleBook) (name : String) : Option Rule :=
  book.rules.find? fun rule => rule.name = name

end RuleBook

end RequestRouting
