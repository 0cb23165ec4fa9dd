import Mathlib.Tactic.Lemma
import RequestRouting.Condition.Options

/-!
# What builders return

A builder takes options one after another, and any of its steps may fail.  If it returns something,
every step on the way has returned something, so what is known about the steps carries over.

## Main definitions

* `OptionM.Returns` — whatever a builder returns has a property.

## Main results

* `OptionM.Returns.bind` — the property of a builder from those of its steps.
* `Options.build_eq_ok` — the property of what is built from a table.
-/

set_option autoImplicit false

namespace RequestRouting

/-- A second step runs over the options that the first one has left, unless that has failed. -/
lemma OptionM.run_bind {α β : Type} (first : OptionM α) (second : α → OptionM β)
    (options : Options) :
    (first >>= second).run options =
      match first.run options with
      | (.ok value, later) => (second value).run later
      | (.error e, later) => (.error e, later) := by
  change StateT.bind first.run (ExceptT.bindCont second) options = _
  simp only [StateT.bind]
  rcases first.run options with ⟨_ | _, _⟩ <;> rfl

/-- Whatever a builder returns, from whichever options, has a property. -/
def OptionM.Returns {α : Type} (builder : OptionM α) (property : α → Prop) : Prop :=
  ∀ options value, (builder.run options).1 = .ok value → property value

namespace OptionM.Returns

variable {α β : Type}

/-- What is returned at once. -/
lemma pure {value : α} {property : α → Prop} (h : property value) :
    OptionM.Returns (Pure.pure value) property := by
  intro options other hother
  cases hother
  exact h

/-- A failure returns nothing. -/
lemma throw {e : RuleError} {property : α → Prop} :
    OptionM.Returns (MonadExcept.throw e) property := by
  intro options value hvalue
  cases hvalue

/-- A fault of the options returns nothing. -/
lemma invalid {fault : OptionFault} {property : α → Prop} :
    OptionM.Returns (Options.invalid fault) property := by
  intro options value hvalue
  cases hvalue

/-- Any builder returns something. -/
lemma trivial {builder : OptionM α} : builder.Returns fun _ => True := fun _ _ _ => True.intro

/-- **Two steps.**  What the second step returns, given what the first one has returned. -/
theorem bind {first : OptionM α} {second : α → OptionM β} {middle : α → Prop}
    {property : β → Prop} (hfirst : first.Returns middle)
    (hsecond : ∀ value, middle value → (second value).Returns property) :
    OptionM.Returns (first >>= second) property := by
  intro options value hvalue
  rw [run_bind] at hvalue
  cases hrun : first.run options with
  | mk result later =>
    rw [hrun] at hvalue
    cases result with
    | error e => cases hvalue
    | ok given => exact hsecond given (hfirst options given (by rw [hrun])) later value hvalue

end OptionM.Returns

/-- What is built from a table has the property of whatever the builder returns. -/
theorem Options.build_eq_ok {α : Type} {kind : String} {fields : List (String × Json)}
    {builder : OptionM α} {property : α → Prop} {value : α} (h : builder.Returns property)
    (hvalue : Options.build kind fields builder = .ok value) : property value :=
  h _ _ hvalue

end RequestRouting
