import RequestRouting.Proofs.Condition.Meaning
import RequestRouting.Proofs.Condition.Options
import RequestRouting.Proofs.Fields

/-!
# What the registry builds

The five constructors of the library build native trees only: four of them build leaves, and the
one of Boolean conditions builds its parts through the registry again.

## Main definitions

* `Condition.Registered` — the registry of the library has built the condition.

## Main results

* `Condition.Registered.native` — whatever the registry of the library has built is native.
-/

set_option autoImplicit false

namespace RequestRouting

/-! ## Boolean conditions -/

/-- All parts have the property of whatever builds one part. -/
lemma buildParts_returns {construct : Table → Except RuleError Condition}
    {property : Condition → Prop}
    (h : ∀ table condition, construct table = .ok condition → property condition)
    (parts : List Json) :
    (buildParts construct parts).Returns fun conditions =>
      ∀ condition ∈ conditions, property condition := by
  fun_induction buildParts construct parts with
  | case1 => exact .pure fun condition hcondition => by cases hcondition
  | case2 table rest e hfirst => exact .throw
  | case3 table rest first hfirst ih =>
    refine .bind ih fun conditions hconditions => .pure ?_
    exact List.forall_mem_cons.2 ⟨h table first hfirst, hconditions⟩
  | case4 => exact .invalid

/-- A Boolean condition is built of native parts, if those are native that the inner constructor
builds. -/
lemma boolBuilder_returns {construct : Table → Except RuleError Condition}
    (h : ∀ table condition, construct table = .ok condition → condition.Native) (depth : Nat) :
    (boolBuilder construct depth).Returns Condition.Native := by
  have hbody : OptionM.Returns (do
      let operator ← readBoolOperator (← Options.takeString "operator")
      let parts ← readParts (← Options.take "conditions")
      let conditions ← buildParts construct parts
      Options.finish
      return .bool operator conditions) Condition.Native := by
    refine .bind .trivial fun _ _ => .bind .trivial fun operator _ => ?_
    refine .bind .trivial fun _ _ => .bind .trivial fun parts _ => ?_
    refine .bind (buildParts_returns h parts) fun conditions hconditions => ?_
    exact .bind .trivial fun _ _ => .pure (.bool operator conditions hconditions)
  unfold boolBuilder
  split
  · exact .bind .trivial fun _ _ => hbody
  · exact hbody

namespace ConditionRegistry

/-- What a constructor of leaves builds is a leaf. -/
lemma native_of_map {α : Type} {leaf : α → Condition} {built : Except RuleError α}
    {condition : Condition} (hbuilt : built.map leaf = .ok condition)
    (h : ∀ options, (leaf options).Native) : condition.Native := by
  cases built with
  | error e => cases hbuilt
  | ok options =>
    cases hbuilt
    exact h options

/-- What a constructor of the library builds is native, if those parts are that the inner
constructor builds. -/
lemma native_of_constructWith {inner : Table → Except RuleError Condition}
    (h : ∀ table condition, inner table = .ok condition → condition.Native)
    {tag : String} {options : Table} {condition : Condition}
    (hbuilt : builtins.constructWith inner tag options = .ok condition) : condition.Native := by
  unfold constructWith at hbuilt
  split at hbuilt
  · next factory hfactory =>
    have hmem := Dict.mem_of_get?_ofList hfactory
    simp only [List.mem_cons, Prod.mk.injEq, List.not_mem_nil, or_false] at hmem
    obtain ⟨-, rfl⟩ | ⟨-, rfl⟩ | ⟨-, rfl⟩ | ⟨-, rfl⟩ | ⟨-, rfl⟩ := hmem
    · exact native_of_map hbuilt .urlPath
    · exact native_of_map hbuilt .urlParams
    · exact native_of_map hbuilt .authentication
    · exact Options.build_eq_ok (boolBuilder_returns h _) hbuilt
    · exact native_of_map hbuilt .request
  · cases hbuilt

/-- What the registry of the library builds of a table is native, with whatever fuel.

**Proof sketch.** Induction on the fuel: the parts of a Boolean condition are built with less. -/
lemma native_of_constructLevels (fuel : Nat) :
    ∀ table condition, builtins.constructLevels fuel table = .ok condition → condition.Native := by
  induction fuel with
  | zero =>
    intro table condition h
    unfold constructLevels at h
    cases htag : tagOf table with
    | error e => rw [htag] at h; cases h
    | ok tag => rw [htag] at h; cases h
  | succ fuel ih =>
    intro table condition h
    unfold constructLevels at h
    cases htag : tagOf table with
    | error e => rw [htag] at h; cases h
    | ok tag =>
      rw [htag] at h
      exact native_of_constructWith ih h

end ConditionRegistry

/-! ## Conditions of the registry -/

/-- The registry of the library has built the condition, of a table or of a tag and options. -/
inductive Condition.Registered (condition : Condition) : Prop where
  | ofTable (table : Table) (h : ConditionRegistry.builtins.constructTable table = .ok condition)
  | ofTag (tag : String) (options : Table)
      (h : ConditionRegistry.builtins.construct tag options = .ok condition)

/-- **Whatever the registry of the library has built is native.** -/
theorem Condition.Registered.native {condition : Condition} (h : condition.Registered) :
    condition.Native := by
  cases h with
  | ofTable table h => exact ConditionRegistry.native_of_constructLevels _ table condition h
  | ofTag tag options h =>
    exact ConditionRegistry.native_of_constructWith
      (ConditionRegistry.native_of_constructLevels _) h

/-! ## A tree of the registry -/

namespace Condition

/-- The table of a condition on the identity. -/
def identityTable (operator value : String) : Json :=
  .object [("operator", .string operator), ("type", .string "authentication"),
    ("value", .string value)]

/-- The table of a tree: someone who is two persons at once, or anyone of the staff. -/
def staffTable : Table :=
  [("conditions", .array [
    .object [("conditions", .array [identityTable "isuser" "ada", identityTable "isuser" "bob"]),
      ("type", .string "bool")],
    identityTable "ingroup" "staff"]),
   ("operator", .string "or"), ("type", .string "bool")]

/-- The tree of `staffTable`.  If `ada` makes the request, then its first part stages her name
before it fails. -/
def staffTree : Condition :=
  .bool .or [
    .bool .and [.authentication (.isUser "ada"), .authentication (.isUser "bob")],
    .authentication (.inGroup "staff")]

/-- The registry builds `staffTree` of `staffTable`. -/
lemma registered_staffTree : staffTree.Registered := .ofTable staffTable rfl

end Condition

end RequestRouting
