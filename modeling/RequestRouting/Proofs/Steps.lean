import Mathlib.Data.List.Forall2

/-!
# Related lists, and steps that may fail

Steps that may fail are taken one after another, for each item of a list, until one of them fails.
The results are related to the items one by one.

## Main results

* `exists_mem_of_forall₂` — what an item of a list is related to.
* `bind_eq_ok`, `mapM_eq_ok`, `mapM_eq_some_iff` — when steps succeed.
* `bind_eq_error`, `mapM_eq_error` — when they fail, and with which error.
-/

set_option autoImplicit false

namespace RequestRouting

/-! ## Related lists -/

section Related

variable {α β : Type}

/-- If each item of a list is related to something, then so is the list. -/
lemma exists_forall₂ {related : α → β → Prop} {items : List α} :
    (∃ others, List.Forall₂ related items others) ↔
      ∀ item ∈ items, ∃ other, related item other := by
  induction items with
  | nil => simp
  | cons item rest ih =>
    rw [List.forall_mem_cons, ← ih]
    constructor
    · rintro ⟨_, _ | ⟨hitem, hrest⟩⟩
      exact ⟨⟨_, hitem⟩, _, hrest⟩
    · rintro ⟨⟨_, hitem⟩, _, hrest⟩
      exact ⟨_, .cons hitem hrest⟩

/-- In related lists each item of the first is related to one of the second. -/
lemma exists_mem_of_forall₂ {related : α → β → Prop} {items : List α}
    {others : List β} (h : List.Forall₂ related items others) {item : α}
    (hitem : item ∈ items) :
    ∃ other ∈ others, related item other := by
  induction h with
  | nil => cases hitem
  | cons hfirst _ ih =>
    rcases List.mem_cons.1 hitem with rfl | hitem
    · exact ⟨_, List.mem_cons_self, hfirst⟩
    · obtain ⟨other, hother, hrelated⟩ := ih hitem
      exact ⟨other, List.mem_cons_of_mem _ hother, hrelated⟩

/-- Lists that are related item by item have the same values, if related items have. -/
lemma map_eq_of_forall₂ {γ : Type} {related : α → β → Prop} {items : List α} {others : List β}
    {f : α → γ} {g : β → γ} (h : List.Forall₂ related items others)
    (hfg : ∀ item other, related item other → f item = g other) :
    items.map f = others.map g := by
  rw [← List.forall₂_eq_eq_eq]
  exact List.forall₂_map_left_iff.2 (List.forall₂_map_right_iff.2 (h.imp hfg))

/-- If items stand in an order, then related items stand in one that follows from it. -/
lemma pairwise_of_forall₂ {related : α → β → Prop} {before : α → α → Prop} {before' : β → β → Prop}
    {items : List α} {others : List β} (h : List.Forall₂ related items others)
    (hpairs : items.Pairwise before)
    (hbefore : ∀ first second other other', related first other → related second other' →
      before first second → before' other other') : others.Pairwise before' := by
  induction h with
  | nil => exact .nil
  | cons hfirst hrest ih =>
    rw [List.pairwise_cons] at hpairs
    refine .cons (fun other hother => ?_) (ih hpairs.2)
    obtain ⟨item, hitem, hrelated⟩ := exists_mem_of_forall₂ hrest.flip hother
    exact hbefore _ _ _ _ hfirst hrelated (hpairs.1 item hitem)

end Related

/-! ## Steps that may fail -/

section Steps

variable {ε α β : Type}

/-- A step with another one behind it succeeds if both do. -/
lemma bind_eq_ok {first : Except ε α} {next : α → Except ε β} {result : β} :
    first >>= next = .ok result ↔ ∃ middle, first = .ok middle ∧ next middle = .ok result := by
  cases first <;> simp [bind, Except.bind]

/-- It fails if the first one does, or the other one behind it. -/
lemma bind_eq_error {first : Except ε α} {next : α → Except ε β} {e : ε} :
    first >>= next = .error e ↔
      first = .error e ∨ ∃ middle, first = .ok middle ∧ next middle = .error e := by
  cases first <;> simp [bind, Except.bind]

/-- Another error for a failure makes no success. -/
lemma mapError_eq_ok {ε' : Type} {step : Except ε α} {f : ε → ε'} {result : α} :
    step.mapError f = .ok result ↔ step = .ok result := by
  cases step <;> simp [Except.mapError]

/-- A step for every item succeeds if each of them does. -/
lemma mapM_eq_ok {f : α → Except ε β} {items : List α} {results : List β} :
    items.mapM f = .ok results ↔
      List.Forall₂ (fun item result => f item = .ok result) items results := by
  induction items generalizing results with
  | nil => simp [pure, Except.pure, eq_comm]
  | cons item rest ih =>
    simp only [List.mapM_cons, bind_eq_ok, ih, pure, Except.pure, Except.ok.injEq,
      List.forall₂_cons_left_iff]
    constructor
    · rintro ⟨result, hitem, others, hrest, rfl⟩
      exact ⟨result, others, hitem, hrest, rfl⟩
    · rintro ⟨result, others, hitem, hrest, rfl⟩
      exact ⟨result, hitem, others, hrest, rfl⟩

/-- A step for every item fails with the error of the first item for which it fails. -/
lemma mapM_eq_error {f : α → Except ε β} {items : List α} {e : ε} :
    items.mapM f = .error e ↔ ∃ before item after, items = before ++ item :: after ∧
      (∀ other ∈ before, ∃ result, f other = .ok result) ∧ f item = .error e := by
  induction items with
  | nil => simp [pure, Except.pure]
  | cons first rest ih =>
    simp only [List.mapM_cons, bind_eq_error, ih, pure, Except.pure, reduceCtorEq, and_false,
      exists_false, or_false]
    constructor
    · rintro (hfirst | ⟨result, hfirst, before, item, after, rfl, hbefore, hitem⟩)
      · exact ⟨[], first, rest, rfl, List.forall_mem_nil _, hfirst⟩
      · exact ⟨first :: before, item, after, rfl,
          List.forall_mem_cons.2 ⟨⟨result, hfirst⟩, hbefore⟩, hitem⟩
    · rintro ⟨_ | ⟨other, before⟩, item, after, hitems, hbefore, hitem⟩
      · obtain ⟨rfl, rfl⟩ := List.cons.inj hitems
        exact .inl hitem
      · obtain ⟨rfl, rfl⟩ := List.cons.inj hitems
        obtain ⟨⟨result, hfirst⟩, hbefore⟩ := List.forall_mem_cons.1 hbefore
        exact .inr ⟨result, hfirst, before, item, after, rfl, hbefore, hitem⟩

/-- If a step for one of the items fails, it is with the error of one of the items. -/
lemma exists_mem_of_mapM_eq_error {f : α → Except ε β} {items : List α} {e : ε}
    (h : items.mapM f = .error e) : ∃ item ∈ items, f item = .error e := by
  obtain ⟨before, item, after, rfl, -, hitem⟩ := mapM_eq_error.1 h
  exact ⟨item, List.mem_append_right before List.mem_cons_self, hitem⟩

/-- Steps that agree on all items come to the same. -/
lemma mapM_congr {f g : α → Except ε β} {items : List α} (h : ∀ item ∈ items, f item = g item) :
    items.mapM f = items.mapM g := by
  induction items with
  | nil => rfl
  | cons item rest ih =>
    obtain ⟨hitem, hrest⟩ := List.forall_mem_cons.1 h
    rw [List.mapM_cons, List.mapM_cons, hitem, ih hrest]

/-- What a list is mapped to, if all of it can be mapped. -/
lemma mapM_eq_some_iff {f : α → Option β} {items : List α} {results : List β} :
    items.mapM f = some results ↔
      List.Forall₂ (fun item result => f item = some result) items results := by
  induction items generalizing results with
  | nil => simp [eq_comm]
  | cons item rest ih =>
    simp only [List.mapM_cons, Option.bind_eq_bind, Option.bind_eq_some_iff, Option.pure_def,
      Option.some.injEq, List.forall₂_cons_left_iff, ih]
    constructor
    · rintro ⟨result, hitem, others, hrest, rfl⟩
      exact ⟨result, others, hitem, hrest, rfl⟩
    · rintro ⟨result, others, hitem, hrest, rfl⟩
      exact ⟨result, hitem, others, hrest, rfl⟩

/-- What each step makes sure of its result is so of all results. -/
lemma forall_mem_of_mapM {f : α → Except ε β} {items : List α} {results : List β}
    {property : β → Prop} (h : items.mapM f = .ok results)
    (hf : ∀ item ∈ items, ∀ result, f item = .ok result → property result) :
    ∀ result ∈ results, property result := by
  intro result hresult
  obtain ⟨item, hitem, hstep⟩ := exists_mem_of_forall₂ (mapM_eq_ok.1 h).flip hresult
  exact hf item hitem result hstep

/-- A value of which a test holds is there. -/
lemma exists_of_any {step : Except ε α} {test : α → Bool}
    (h : step.toOption.any test) : ∃ value, step = .ok value ∧ test value := by
  cases step with
  | error e => cases h
  | ok value => exact ⟨value, rfl, h⟩

/-- A step succeeds if it has a value. -/
lemma exists_ok_of_isSome {step : Except ε α} (h : step.toOption.isSome) :
    ∃ value, step = .ok value := by
  cases step with
  | error e => cases h
  | ok value => exact ⟨value, rfl⟩

end Steps

end RequestRouting
