import RequestRouting.Proofs.Condition.Options
import RequestRouting.Proofs.Fields

/-!
# What the steps of builders take

A builder succeeds exactly if each of its steps does, one over the options that the other has left.
Each step has one statement here that says when it succeeds, what it returns and what it leaves;
what is known of a whole builder is put together from these.

## Main definitions

* `Options.without` — options of which one has been taken.
* `OptionM.Gives`, `OptionM.Makes` — a builder returns a value and leaves some options, or returns
  it whatever it leaves.
* `Options.Known` — options have certain names only.
* `Options.Reads`, `Options.Understands` — an option that may be left out spells a value, and a
  reader reads it so.

## Main results

* `OptionM.gives_bind`, `OptionM.makes_bind` — two steps, one after another.
* `Options.gives_takeString`, `Options.gives_takeStrings`, `Options.gives_takeMatching`,
  `Options.gives_finish` — the steps.
* `Options.makes_read`, `Options.makes_last` — an option that is taken and read, and the last ones.
-/

set_option autoImplicit false

namespace RequestRouting

/-- The options after one of them has been taken. -/
def Options.without (options : Options) (key : String) : Options :=
  { options with fields := Fields.erase key options.fields }

/-- A builder returns a value and leaves some options. -/
def OptionM.Gives {α : Type} (builder : OptionM α) (options : Options) (value : α)
    (later : Options) : Prop :=
  builder.run options = (.ok value, later)

/-- A builder makes a value of some options, whatever it leaves. -/
def OptionM.Makes {α : Type} (builder : OptionM α) (options : Options) (value : α) : Prop :=
  (builder.run options).1 = .ok value

namespace OptionM

variable {α β : Type} {options later : Options}

/-- What is returned at once leaves all options. -/
@[simp] lemma gives_pure {value other : α} :
    OptionM.Gives (pure value) options other later ↔ value = other ∧ options = later := by
  constructor
  · intro h
    cases h
    exact ⟨rfl, rfl⟩
  · rintro ⟨rfl, rfl⟩
    rfl

/-- A failure gives nothing. -/
@[simp] lemma gives_throw {e : RuleError} {value : α} :
    ¬ OptionM.Gives (throw e) options value later := by
  intro h
  cases h

/-- A fault of the options gives nothing. -/
@[simp] lemma gives_invalid {fault : OptionFault} {value : α} :
    ¬ OptionM.Gives (Options.invalid fault) options value later := by
  intro h
  cases h

/-- **Two steps.**  The second one works on what the first one has left. -/
theorem gives_bind {first : OptionM α} {second : α → OptionM β} {value : β} :
    OptionM.Gives (first >>= second) options value later ↔
      ∃ given between, first.Gives options given between ∧
        (second given).Gives between value later := by
  unfold OptionM.Gives
  rw [run_bind]
  constructor
  · intro h
    cases hfirst : first.run options with
    | mk result between =>
      rw [hfirst] at h
      cases result with
      | error e => cases h
      | ok given => exact ⟨given, between, rfl, h⟩
  · rintro ⟨given, between, hfirst, hsecond⟩
    rw [hfirst]
    exact hsecond

/-- What a builder makes, it gives, and some options are left. -/
lemma makes_iff {builder : OptionM α} {value : α} :
    builder.Makes options value ↔ ∃ later, builder.Gives options value later := by
  constructor
  · intro h
    exact ⟨_, Prod.ext h rfl⟩
  · rintro ⟨later, h⟩
    rw [Makes, h]

/-- What is returned at once is made of any options. -/
@[simp] lemma makes_pure {value other : α} : Makes (pure value) options other ↔ value = other := by
  simp [makes_iff]

/-- A builder goes on past a check that does not fail. -/
lemma makes_unless {γ : Type} {fault : OptionFault} {next : γ → OptionM α} {other : OptionM α}
    {value : α} {check : Prop} [Decidable check] :
    Makes (if check then Options.invalid fault >>= next else other) options value ↔
      ¬ check ∧ other.Makes options value := by
  split
  · next h => simp [makes_iff, gives_bind, h]
  · next h => simp [h]

/-- A step, and whatever comes after it. -/
theorem makes_bind (first : OptionM α) {second : α → OptionM β} {value : β} :
    Makes (first >>= second) options value ↔
      ∃ given later, first.Gives options given later ∧ (second given).Makes later value := by
  simp only [makes_iff, gives_bind]
  constructor
  · rintro ⟨later, given, between, hfirst, hsecond⟩
    exact ⟨given, between, hfirst, later, hsecond⟩
  · rintro ⟨given, between, hfirst, later, hsecond⟩
    exact ⟨later, given, between, hfirst, hsecond⟩

end OptionM

namespace Options

open OptionM

variable {options later : Options} {key : String}

/-- A step takes an option, whether it is there or not. -/
lemma gives_take {value : Option Json} :
    (take key).Gives options value later ↔
      Fields.get? key options.fields = value ∧ options.without key = later := by
  constructor
  · intro h
    cases h
    exact ⟨rfl, rfl⟩
  · rintro ⟨rfl, rfl⟩
    rfl

/-- A step takes an option that is a string, or is not there. -/
theorem gives_takeString {value : Option String} :
    (takeString key).Gives options value later ↔
      Fields.get? key options.fields = value.map .string ∧ options.without key = later := by
  unfold takeString
  simp only [gives_bind, gives_take]
  constructor
  · rintro ⟨given, between, ⟨hgiven, hbetween⟩, h⟩
    split at h
    · obtain ⟨rfl, rfl⟩ := gives_pure.1 h
      exact ⟨hgiven, hbetween⟩
    · obtain ⟨rfl, rfl⟩ := gives_pure.1 h
      exact ⟨hgiven, hbetween⟩
    · exact absurd h gives_invalid
  · rintro ⟨hvalue, rfl⟩
    refine ⟨_, _, ⟨hvalue, rfl⟩, ?_⟩
    cases value <;> simp

/-- A step takes an option that is a string. -/
theorem gives_requireString {value : String} :
    (requireString key).Gives options value later ↔
      Fields.get? key options.fields = some (.string value) ∧ options.without key = later := by
  unfold requireString
  simp only [gives_bind, gives_takeString]
  constructor
  · rintro ⟨given, between, ⟨hgiven, hbetween⟩, h⟩
    cases given with
    | none => exact absurd h gives_invalid
    | some text =>
      obtain ⟨rfl, rfl⟩ := gives_pure.1 h
      exact ⟨hgiven, hbetween⟩
  · rintro ⟨hvalue, rfl⟩
    exact ⟨some value, _, ⟨hvalue, rfl⟩, by simp⟩

/-- The texts of an array of strings. -/
lemma textsOf_map (texts : List String) : textsOf (texts.map .string) = .ok texts := by
  induction texts with
  | nil => rfl
  | cons text rest ih => simp [textsOf, ih]

/-- An array that has texts is an array of strings. -/
lemma eq_map_of_textsOf {items : List Json} {texts : List String}
    (h : textsOf items = .ok texts) : items = texts.map .string := by
  fun_induction textsOf items generalizing texts with
  | case1 =>
    cases h
    rfl
  | case2 text rest found hfound ih =>
    cases h
    rw [List.map_cons, ← ih hfound]
  | case3 | case4 => cases h

/-- The value of an option lists texts: it is one text, or an array of them. -/
inductive Lists : Json → List String → Prop where
  | one (text : String) : Lists (.string text) [text]
  | array (texts : List String) : Lists (Json.ofStrings texts) texts

/-- A step takes an option that lists texts, or is not there. -/
theorem gives_takeStrings {texts : Option (List String)} :
    (takeStrings key).Gives options texts later ↔
      Option.Rel Lists (Fields.get? key options.fields) texts ∧ options.without key = later := by
  unfold takeStrings
  simp only [gives_bind, gives_take]
  constructor
  · rintro ⟨given, between, ⟨hgiven, hbetween⟩, h⟩
    split at h
    · obtain ⟨rfl, rfl⟩ := gives_pure.1 h
      exact ⟨hgiven ▸ .none, hbetween⟩
    · obtain ⟨rfl, rfl⟩ := gives_pure.1 h
      exact ⟨hgiven ▸ .some (.one _), hbetween⟩
    · split at h
      · next items found hfound =>
        obtain ⟨rfl, rfl⟩ := gives_pure.1 h
        obtain rfl := eq_map_of_textsOf hfound
        exact ⟨hgiven ▸ .some (.array found), hbetween⟩
      · exact absurd h gives_invalid
    · exact absurd h gives_invalid
  · rintro ⟨hvalue, rfl⟩
    refine ⟨_, _, ⟨rfl, rfl⟩, ?_⟩
    generalize Fields.get? key options.fields = value at hvalue
    cases hvalue with
    | none => simp
    | some h =>
      cases h with
      | one text => simp
      | array found => simp [Json.ofStrings, textsOf_map]

/-- A step takes all options whose names pass a test. -/
theorem gives_takeMatching {test : String → Bool} {taken : List (String × Json)} :
    (takeMatching test).Gives options taken later ↔
      options.fields.filter (fun field => test field.1) = taken ∧
        { options with fields := options.fields.filter fun field => ! test field.1 } = later := by
  have hrun : (takeMatching test).run options = (.ok (options.fields.partition fun field =>
      test field.1).1, { options with fields := (options.fields.partition fun field =>
        test field.1).2 }) := rfl
  rw [OptionM.Gives, hrun, List.partition_eq_filter_filter, Prod.mk.injEq, Except.ok.injEq]
  rfl

/-- The last step succeeds if no options are left. -/
theorem gives_finish {value : Unit} :
    finish.Gives options value later ↔ options.fields = [] ∧ options = later := by
  have hrun : finish.run options = if options.fields.isEmpty then (.ok (), options)
      else (.error (.invalidCondition options.kind (.unknownOptions (options.fields.map Prod.fst))),
        options) := by
    change (if options.fields.isEmpty then (pure () : OptionM Unit) else _).run options = _
    split <;> rfl
  rw [OptionM.Gives, hrun]
  split
  · next hempty =>
    constructor
    · intro h
      cases h
      exact ⟨List.isEmpty_iff.1 hempty, rfl⟩
    · rintro ⟨-, rfl⟩
      rfl
  · next hleft =>
    constructor
    · intro h
      cases h
    · rintro ⟨hempty, -⟩
      exact absurd (List.isEmpty_iff.2 hempty) hleft

/-! ## Options that are known -/

/-- All options have one of the given names. -/
def Known (names : List String) (fields : List (String × Json)) : Prop :=
  ∀ field ∈ fields, field.1 ∈ names

/-- If no name is known, there are no options. -/
lemma known_nil {fields : List (String × Json)} : Known [] fields ↔ fields = [] := by
  simp [Known, List.eq_nil_iff_forall_not_mem]

/-- What is left after an option has been taken is known if its name may come in addition. -/
lemma known_erase {names : List String} {fields : List (String × Json)} :
    Known names (Fields.erase key fields) ↔ Known (key :: names) fields := by
  simp only [Known, Fields.mem_erase, List.mem_cons]
  constructor
  · intro h field hfield
    by_cases hkey : field.1 = key
    · exact .inl hkey
    · exact .inr (h field ⟨hfield, hkey⟩)
  · rintro h field ⟨hfield, hkey⟩
    exact (h field hfield).resolve_left hkey

/-- The same for options as they are left. -/
lemma known_without {names : List String} :
    Known names (options.without key).fields ↔ Known (key :: names) options.fields :=
  known_erase

/-- An option that is not there may be known or not. -/
lemma Known.of_absent {names : List String} {fields : List (String × Json)}
    (h : Known (key :: names) fields) (habsent : Fields.get? key fields = none) :
    Known names fields := fun field hfield =>
  (List.mem_cons.1 (h field hfield)).resolve_left (Fields.get?_eq_none.1 habsent field hfield)

/-- A step that needs an option takes it, and any other step takes nothing. -/
inductive Needs (key : String) (options : Options) : Option Json → Options → Prop where
  | nothing : Needs key options none options
  | option {value : Json} (h : Fields.get? key options.fields = some value) :
    Needs key options (some value) (options.without key)

/-- A step leaves nothing if the only option that there may be is the one that it needs. -/
lemma exists_needs_known {value : Option Json} :
    (∃ later, Needs key options value later ∧ Known [] later.fields) ↔
      Fields.get? key options.fields = value ∧ Known [key] options.fields := by
  constructor
  · rintro ⟨_, ⟨⟩ | ⟨h⟩, hknown⟩
    · rw [known_nil.1 hknown]
      exact ⟨rfl, by simp [Known]⟩
    · exact ⟨h, known_without.1 hknown⟩
  · rintro ⟨h, hknown⟩
    cases value with
    | none => exact ⟨_, .nothing, hknown.of_absent h⟩
    | some value => exact ⟨_, .option h, known_without.2 hknown⟩

/-- Taking one option leaves the others. -/
@[simp] lemma get?_without {other : String} (h : key ≠ other) :
    Fields.get? other (options.without key).fields = Fields.get? other options.fields :=
  Fields.get?_erase_of_ne h _

/-! ## Options that may be left out -/

/-- An option that may be left out spells a value: it is a string of which the value is a reading,
or it is left out, and the value is a default. -/
inductive Reads {α : Type} (spells : String → α → Prop) (byDefault : α) :
    Option Json → α → Prop where
  | absent : Reads spells byDefault none byDefault
  | present {text : String} {value : α} (h : spells text value) :
    Reads spells byDefault (some (.string text)) value

/-- A reader succeeds for the texts that spell a value, and for nothing at all, and takes no options
itself. -/
def Understands {α : Type} (read : Option String → OptionM α) (spells : String → α → Prop)
    (byDefault : α) : Prop :=
  ∀ text options value later, (read text).Gives options value later ↔
    Reads spells byDefault (text.map .string) value ∧ options = later

variable {α β : Type} {read : Option String → OptionM α} {spells : String → α → Prop}
  {byDefault : α}

/-- A reader understands the texts of which it returns the reading, if it refuses all others. -/
lemma Understands.of_texts (habsent : read none = pure byDefault)
    (htext : ∀ text,
      (∃ value, read (some text) = pure value ∧ ∀ other, spells text other ↔ value = other) ∨
      (∃ fault, read (some text) = invalid fault) ∧ ∀ other, ¬ spells text other) :
    Understands read spells byDefault := by
  rintro (_ | text) options value later
  · rw [habsent, gives_pure]
    constructor
    · rintro ⟨rfl, rfl⟩
      exact ⟨.absent, rfl⟩
    · rintro ⟨⟨⟩, rfl⟩
      exact ⟨rfl, rfl⟩
  · obtain ⟨found, hread, hspells⟩ | ⟨⟨fault, hread⟩, hspells⟩ := htext text
    · rw [hread, gives_pure]
      constructor
      · rintro ⟨rfl, rfl⟩
        exact ⟨.present ((hspells _).2 rfl), rfl⟩
      · rintro ⟨_ | h, rfl⟩
        exact ⟨(hspells _).1 h, rfl⟩
    · rw [hread]
      constructor
      · intro h
        exact absurd h gives_invalid
      · rintro ⟨_ | h, rfl⟩
        exact absurd h (hspells _)

/-- A string option is taken and read. -/
lemma makes_read {key : String} {next : α → OptionM β} {value : β}
    (hread : Understands read spells byDefault) :
    Makes (takeString key >>= fun text => read text >>= next) options value ↔
      ∃ given, Reads spells byDefault (Fields.get? key options.fields) given ∧
        (next given).Makes (options.without key) value := by
  simp only [makes_bind, gives_takeString, hread _ _ _ _]
  constructor
  · rintro ⟨text, _, ⟨htext, rfl⟩, given, _, ⟨hreads, rfl⟩, hnext⟩
    exact ⟨given, htext ▸ hreads, hnext⟩
  · rintro ⟨given, hreads, hnext⟩
    obtain ⟨text, htext⟩ : ∃ text : Option String,
        Fields.get? key options.fields = text.map .string := by
      generalize Fields.get? key options.fields = found at hreads
      cases hreads with
      | absent => exact ⟨none, rfl⟩
      | @present text => exact ⟨some text, rfl⟩
    exact ⟨text, _, ⟨htext, rfl⟩, given, _, ⟨htext ▸ hreads, rfl⟩, hnext⟩

/-- A string option that is taken as it is, or a default for it. -/
lemma understands_getD (byDefault : String) :
    Understands (fun text => pure (text.getD byDefault)) Eq byDefault :=
  .of_texts rfl fun text => .inl ⟨text, rfl, fun _ => Iff.rfl⟩

/-- At its end a builder makes what it returns if no options are left. -/
lemma makes_finish {made value : α} :
    Makes (finish >>= fun _ => pure made) options value ↔
      Known [] options.fields ∧ made = value := by
  simp only [makes_bind, gives_finish, makes_pure, known_nil]
  constructor
  · rintro ⟨_, _, ⟨hempty, -⟩, hmade⟩
    exact ⟨hempty, hmade⟩
  · rintro ⟨hempty, hmade⟩
    exact ⟨(), _, ⟨hempty, rfl⟩, hmade⟩

/-- If the last step needs one option at most, then no other option may be left for it. -/
theorem makes_last {key : String} {step : OptionM α} {needs : Option Json → α → Prop}
    {made : α → β} {value : β}
    (hstep : ∀ given later, step.Gives options given later ↔
      ∃ needed, needs needed given ∧ Needs key options needed later) :
    Makes (step >>= fun given => finish >>= fun _ => pure (made given)) options value ↔
      Known [key] options.fields ∧
        ∃ given, needs (Fields.get? key options.fields) given ∧ made given = value := by
  simp only [makes_bind step, makes_finish, hstep]
  constructor
  · rintro ⟨given, later, ⟨needed, hneeds, hlater⟩, hleft, hmade⟩
    obtain ⟨rfl, hknown⟩ := exists_needs_known.1 ⟨later, hlater, hleft⟩
    exact ⟨hknown, given, hneeds, hmade⟩
  · rintro ⟨hknown, given, hneeds, hmade⟩
    obtain ⟨later, hlater, hleft⟩ := exists_needs_known.2 ⟨rfl, hknown⟩
    exact ⟨given, later, ⟨_, hneeds, hlater⟩, hleft, hmade⟩

end Options

end RequestRouting
