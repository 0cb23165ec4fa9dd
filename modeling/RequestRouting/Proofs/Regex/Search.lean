import Mathlib.Data.List.Basic
import Mathlib.Tactic.Lemma
import RequestRouting.Regex.Search

/-!
# Marks do not change what a search finds

The search of a text visits no place twice.  Without its marks it would still find the same, as long
as no place leads back to itself: where a thread comes to a place that is marked, everything that
follows from there has been visited in vain.

## Main definitions

* `Regex.Finds` — what is found by a search without marks.
* `Regex.Fails` — nothing is found from a place, whatever the slots.
* `Regex.Ranked` — a measure of the places goes down with every step.

## Main results

* `Regex.Finds.unique` — a search without marks finds one thing.
* `Regex.explore_append` — what the search finds from some threads, with marks.
* `Regex.Program.search_eq` — the search finds what is found without marks from the first position
  from which something is.
* `Regex.Program.ranked_rank` — such a measure exists for programs without empty loops.
-/

set_option autoImplicit false

namespace RequestRouting

namespace Regex

/-- What a search without marks finds from some threads, the first of them first. -/
inductive Finds (program : Program) (text : Array Char) :
    List Thread → Option (Array (Option Nat)) → Prop where
  | nil : Finds program text [] none
  | accept {thread : Thread} {rest : List Thread} (h : thread.next? program text = none) :
    Finds program text (thread :: rest) (some (thread.slots.set! 1 (some thread.position)))
  | step {thread : Thread} {next rest : List Thread} {found : Option (Array (Option Nat))}
      (h : thread.next? program text = some next)
      (hrest : Finds program text (next ++ rest) found) :
    Finds program text (thread :: rest) found

/-- Nothing is found from a place, whatever the slots. -/
def Fails (program : Program) (text : Array Char) (index position : Nat) : Prop :=
  ∀ slots, Finds program text [⟨index, position, slots⟩] none

/-- A measure of the places goes down with every step. -/
def Ranked (program : Program) (text : Array Char) (rank : Nat → Nat → Nat) : Prop :=
  ∀ (thread : Thread) (next : List Thread), thread.position ≤ text.size →
    thread.next? program text = some next →
    ∀ later ∈ next, rank later.index later.position < rank thread.index thread.position

variable {program : Program} {text : Array Char}

/-! ## Searching without marks -/

namespace Finds

/-- What is found from the first threads is found, whatever threads there are after them. -/
lemma append_some {threads : List Thread} {slots : Array (Option Nat)}
    (h : Finds program text threads (some slots)) (rest : List Thread) :
    Finds program text (threads ++ rest) (some slots) := by
  generalize hfound : some slots = found at h
  induction h with
  | nil => cases hfound
  | accept h =>
    cases hfound
    exact .accept h
  | step h _ ih =>
    exact .step h (List.append_assoc .. ▸ ih hfound)

/-- After threads from which nothing is found the search goes on. -/
lemma append_none {threads rest : List Thread} {found : Option (Array (Option Nat))}
    (h : Finds program text threads none) (hrest : Finds program text rest found) :
    Finds program text (threads ++ rest) found := by
  generalize hnone : none = nothing at h
  induction h with
  | nil => exact hrest
  | accept h => cases hnone
  | step h _ ih =>
    exact .step h (List.append_assoc .. ▸ ih hnone)

/-- Threads are searched one after another. -/
lemma append {threads rest : List Thread} {found later : Option (Array (Option Nat))}
    (h : Finds program text threads found) (hrest : Finds program text rest later) :
    Finds program text (threads ++ rest) (found.or later) := by
  cases found with
  | none => exact h.append_none hrest
  | some slots => exact h.append_some rest

/-- A thread finds what the threads after one step find. -/
lemma of_next {thread : Thread} {next : List Thread} {found : Option (Array (Option Nat))}
    (h : thread.next? program text = some next) (hnext : Finds program text next found) :
    Finds program text [thread] found :=
  .step h (by rwa [List.append_nil])

/-- A search without marks finds one thing. -/
theorem unique {threads : List Thread} {found found' : Option (Array (Option Nat))}
    (h : Finds program text threads found) (h' : Finds program text threads found') :
    found = found' := by
  induction h with
  | nil =>
    cases h'
    rfl
  | accept h =>
    cases h' with
    | accept => rfl
    | step h' => cases h.symm.trans h'
  | step h _ ih =>
    cases h' with
    | accept h' => cases h.symm.trans h'
    | step h' hrest =>
      cases h.symm.trans h'
      exact ih hrest

end Finds

/-! ## Steps -/

/-- The instructions that may follow an instruction at the same position. -/
def Instr.jumps : Instr → List Nat
  | .fork first second => [first, second]
  | .save _ next | .look _ next | .jump next => [next]
  | .chars .. | .accept => []

namespace Thread

/-- The instruction and the position. -/
def place (thread : Thread) : Nat × Nat := (thread.index, thread.position)

/-- What can follow a place: at most two places, each at the same position or behind a character. -/
lemma next?_cases {thread : Thread} {next : List Thread}
    (h : thread.next? program text = some next) :
    next.length ≤ 2 ∧ ∀ later ∈ next,
      (later.position = thread.position ∧
        ∃ instr, program.code[thread.index]? = some instr ∧ later.index ∈ instr.jumps) ∨
      (later.position = thread.position + 1 ∧ thread.position < text.size ∧
        ∃ table, program.code[thread.index]? = some (.chars table later.index)) := by
  unfold next? at h
  split at h
  case h_1 | h_2 => simp_all
  case h_3 hcode | h_4 hcode | h_5 hcode =>
    cases h
    simp [hcode, Instr.jumps]
  case h_6 hcode =>
    obtain rfl := Option.some.inj h
    split <;> simp [hcode, Instr.jumps]
  case h_7 hcode =>
    split at h
    · next c hc =>
      obtain rfl := Option.some.inj h
      have hlt := (Array.getElem?_eq_some_iff.1 hc).1
      split <;> simp [hcode, hlt]
    · cases h
      simp

/-- No step leads beyond the end of the text. -/
lemma position_le_of_next? {thread : Thread} {next : List Thread}
    (h : thread.next? program text = some next) (hposition : thread.position ≤ text.size) :
    ∀ later ∈ next, later.position ≤ text.size := by
  intro later hlater
  obtain ⟨heq, -⟩ | ⟨heq, hlt, -⟩ := (next?_cases h).2 later hlater <;> omega

/-- The slots have no influence on the places that follow. -/
lemma next?_place {thread other : Thread} (h : other.place = thread.place) :
    (other.next? program text).map (List.map place) =
      (thread.next? program text).map (List.map place) := by
  obtain ⟨index, position, slots⟩ := thread
  obtain ⟨hindex, hposition⟩ := Prod.mk.inj h
  obtain ⟨_, _, slots'⟩ := other
  subst hindex hposition
  unfold next?
  dsimp only
  split <;> try rfl
  · split <;> rfl
  · split
    · split <;> rfl
    · rfl

end Thread

/-- The slots have no influence on whether anything is found. -/
lemma Finds.none_of_places {threads others : List Thread} (h : Finds program text threads none)
    (hplaces : others.map Thread.place = threads.map Thread.place) :
    Finds program text others none := by
  generalize hnone : none = found at h
  induction h generalizing others with
  | nil =>
    obtain rfl := List.map_eq_nil_iff.1 hplaces
    exact hnone ▸ .nil
  | accept h => cases hnone
  | @step thread next rest found h _ ih =>
    obtain ⟨other, later, rfl, hfirst, hlater⟩ := List.map_eq_cons_iff.1 hplaces
    have hsteps : (other.next? program text).map (List.map Thread.place) =
        (thread.next? program text).map (List.map Thread.place) := Thread.next?_place hfirst
    rw [h, Option.map_some, Option.map_eq_some_iff] at hsteps
    obtain ⟨next', hnext', hsame⟩ := hsteps
    refine .step hnext' (ih ?_ hnone)
    rw [List.map_append, List.map_append, hsame, hlater]

/-- If nothing is found from a thread, then nothing is found from its place. -/
lemma Finds.fails {thread : Thread} (h : Finds program text [thread] none) :
    Fails program text thread.index thread.position :=
  fun _ => h.none_of_places rfl

/-- Where there is no instruction nothing is found. -/
lemma fails_of_size_le {index position : Nat} (h : program.code.size ≤ index) :
    Fails program text index position := by
  intro slots
  have hnext : (⟨index, position, slots⟩ : Thread).next? program text = some [] := by
    simp [Thread.next?, Array.getElem?_eq_none h]
  exact .of_next hnext .nil

/-! ## Marks -/

/-- The number of a place among the marks. -/
def markOf (text : Array Char) (index position : Nat) : Nat := index * (text.size + 1) + position

/-- Whether a place counts as visited. -/
def Marked (text : Array Char) (visited : Array Bool) (index position : Nat) : Prop :=
  (visited[markOf text index position]?).getD true = true

/-- Places have different marks. -/
lemma markOf_inj {index position index' position' : Nat} (hposition : position ≤ text.size)
    (hposition' : position' ≤ text.size)
    (h : markOf text index position = markOf text index' position') :
    index = index' ∧ position = position' := by
  unfold markOf at h
  have hdiv := congrArg (· / (text.size + 1)) h
  have hmod := congrArg (· % (text.size + 1)) h
  simp only [Nat.mul_comm _ (text.size + 1), Nat.mul_add_div (Nat.succ_pos _),
    Nat.mul_add_mod, Nat.div_eq_of_lt (Nat.lt_succ_of_le hposition),
    Nat.div_eq_of_lt (Nat.lt_succ_of_le hposition'),
    Nat.mod_eq_of_lt (Nat.lt_succ_of_le hposition),
    Nat.mod_eq_of_lt (Nat.lt_succ_of_le hposition'), Nat.add_zero] at hdiv hmod
  exact ⟨hdiv, hmod⟩

/-- A new mark marks one place. -/
lemma marked_set! {visited : Array Bool} {index position index' position' : Nat}
    (hposition : position ≤ text.size) (hposition' : position' ≤ text.size)
    (h : Marked text (visited.set! (markOf text index position) true) index' position') :
    Marked text visited index' position' ∨ (index' = index ∧ position' = position) := by
  by_cases hmark : markOf text index position = markOf text index' position'
  · obtain ⟨rfl, rfl⟩ := markOf_inj hposition hposition' hmark
    exact .inr ⟨rfl, rfl⟩
  · left
    unfold Marked at h ⊢
    rwa [Array.set!_eq_setIfInBounds, Array.getElem?_setIfInBounds_ne hmark] at h

/-- A new mark uses up a place that was free. -/
lemma count_set! {visited : Array Bool} {index position : Nat}
    (h : ¬ Marked text visited index position) :
    (visited.set! (markOf text index position) true).count false + 1 = visited.count false := by
  unfold Marked at h
  have hfree : visited[markOf text index position]? = some false := by
    cases hget : visited[markOf text index position]? with
    | none => simp [hget] at h
    | some mark => simpa [hget] using h
  obtain ⟨hlt, hfalse⟩ := Array.getElem?_eq_some_iff.1 hfree
  have hpos : 0 < visited.count false :=
    Array.count_pos_iff.2 (hfalse ▸ Array.getElem_mem hlt)
  rw [Array.set!_eq_setIfInBounds, Array.setIfInBounds, dif_pos hlt, Array.count_set, hfalse]
  simp only [BEq.rfl, ↓reduceIte, beq_false, Bool.not_true, Bool.false_eq_true, Nat.add_zero]
  omega

/-! ## Searching with marks -/

/-- All marked places of a rank below a bound are places from which nothing is found. -/
def Sound (program : Program) (text : Array Char) (rank : Nat → Nat → Nat) (visited : Array Bool)
    (bound : Nat) : Prop :=
  ∀ index position, position ≤ text.size → Marked text visited index position →
    rank index position < bound → Fails program text index position

/-- Only places from which nothing is found have been marked since. -/
structure Since (program : Program) (text : Array Char) (visited later : Array Bool) : Prop where
  size_eq : later.size = visited.size
  fails : ∀ index position, position ≤ text.size → Marked text later index position →
    Marked text visited index position ∨ Fails program text index position

/-- Nothing has been marked. -/
lemma Since.refl (visited : Array Bool) : Since program text visited visited :=
  ⟨rfl, fun _ _ _ h => .inl h⟩

/-- What has been marked since, and since then. -/
lemma Since.trans {visited later last : Array Bool} (h : Since program text visited later)
    (h' : Since program text later last) : Since program text visited last := by
  refine ⟨h'.size_eq.trans h.size_eq, fun index position hposition hmarked => ?_⟩
  obtain hlater | hfails := h'.fails index position hposition hmarked
  · exact h.fails index position hposition hlater
  · exact .inr hfails

/-- Marks that are sound stay so. -/
lemma Since.sound {rank : Nat → Nat → Nat} {visited later : Array Bool} {bound : Nat}
    (h : Since program text visited later) (hsound : Sound program text rank visited bound) :
    Sound program text rank later bound := by
  intro index position hposition hmarked hrank
  obtain hearlier | hfails := h.fails index position hposition hmarked
  · exact hsound index position hposition hearlier hrank
  · exact hfails

/-- A new mark leaves the marks sound for smaller ranks than its own. -/
lemma Sound.set! {rank : Nat → Nat → Nat} {visited : Array Bool} {bound index position : Nat}
    (h : Sound program text rank visited bound) (hposition : position ≤ text.size)
    (hrank : rank index position < bound) :
    Sound program text rank (visited.set! (markOf text index position) true)
      (rank index position) := by
  intro index' position' hposition' hmarked hsmaller
  obtain hearlier | ⟨rfl, rfl⟩ := marked_set! hposition hposition' hmarked
  · exact h index' position' hposition' hearlier (Nat.lt_trans hsmaller hrank)
  · exact absurd hsmaller (Nat.lt_irrefl _)

/-- A place from which nothing is found may be marked. -/
lemma since_set! {visited : Array Bool} {index position : Nat} (hposition : position ≤ text.size)
    (hfails : Fails program text index position) :
    Since program text visited (visited.set! (markOf text index position) true) := by
  refine ⟨by simp, fun index' position' hposition' hmarked => ?_⟩
  obtain hearlier | ⟨rfl, rfl⟩ := marked_set! hposition hposition' hmarked
  · exact .inl hearlier
  · exact .inr hfails

/-- A place that is marked is skipped. -/
lemma explore_marked {visited : Array Bool} {thread : Thread}
    (h : Marked text visited thread.index thread.position) (fuel : Nat) (rest : List Thread) :
    explore program text (fuel + 1) visited (thread :: rest) =
      explore program text fuel visited rest := by
  unfold Marked markOf at h
  simp only [explore, h, ↓reduceIte]

/-- A place that is not marked becomes so, and the places that follow are visited. -/
lemma explore_next {visited : Array Bool} {thread : Thread} {next : List Thread}
    (h : ¬ Marked text visited thread.index thread.position)
    (hnext : thread.next? program text = some next) (fuel : Nat) (rest : List Thread) :
    explore program text (fuel + 1) visited (thread :: rest) =
      explore program text fuel
        (visited.set! (markOf text thread.index thread.position) true) (next ++ rest) := by
  unfold Marked markOf at h
  simp only [explore, h, hnext, markOf, Bool.false_eq_true, ↓reduceIte]

/-- At the end of a match that is not marked the search ends. -/
lemma explore_accept {visited : Array Bool} {thread : Thread}
    (h : ¬ Marked text visited thread.index thread.position)
    (hnext : thread.next? program text = none) (fuel : Nat) (rest : List Thread) :
    (explore program text (fuel + 1) visited (thread :: rest)).1 =
      some (thread.slots.set! 1 (some thread.position)) := by
  unfold Marked markOf at h
  simp only [explore, h, hnext, Bool.false_eq_true, ↓reduceIte]

/-- What the search makes of some threads in front of others: it ends with what is found from them,
or it goes on with the others. -/
def Explores (program : Program) (text : Array Char) (fuel : Nat) (visited : Array Bool)
    (threads rest : List Thread) : Option (Array (Option Nat)) → Prop
  | some slots => (explore program text fuel visited (threads ++ rest)).1 = some slots
  | none => ∃ left later, Since program text visited later ∧
      2 * later.count false + rest.length + 1 ≤ left ∧
      explore program text fuel visited (threads ++ rest) = explore program text left later rest

/-- A search that comes to other threads makes of them what a search from there would. -/
lemma Explores.of_eq {fuel left : Nat} {visited later : Array Bool}
    {threads others rest : List Thread} {found : Option (Array (Option Nat))}
    (h : Explores program text left later others rest found)
    (hsince : Since program text visited later)
    (heq : explore program text fuel visited (threads ++ rest) =
      explore program text left later (others ++ rest)) :
    Explores program text fuel visited threads rest found := by
  cases found with
  | some slots => exact (congrArg Prod.fst heq).trans h
  | none =>
    obtain ⟨left, last, hlast, hleft, hgoes⟩ := h
    exact ⟨left, last, hsince.trans hlast, hleft, heq.trans hgoes⟩

/-- **Marks do not change what is found from some threads.**

**Proof sketch.** Induction on a bound for the ranks of the threads, and on their list.  A place
that is marked is one from which nothing is found.  A place that is not marked becomes so, and the
places that follow it have smaller ranks; among those all marks are sound still. -/
theorem exists_explores {rank : Nat → Nat → Nat} (hranked : Ranked program text rank)
    {bound fuel : Nat} {visited : Array Bool} {threads rest : List Thread}
    (hthreads : ∀ thread ∈ threads, thread.position ≤ text.size ∧
      rank thread.index thread.position < bound)
    (hsound : Sound program text rank visited bound)
    (hfuel : 2 * visited.count false + threads.length + rest.length + 1 ≤ fuel) :
    ∃ found, Finds program text threads found ∧
      Explores program text fuel visited threads rest found := by
  induction bound using Nat.strongRecOn generalizing fuel visited threads rest with
  | _ bound ih =>
    induction threads generalizing fuel visited with
    | nil => exact ⟨none, .nil, fuel, visited, .refl visited, by simpa using hfuel, rfl⟩
    | cons thread threads ihThreads =>
      obtain ⟨⟨hposition, hrank⟩, hthreads⟩ := List.forall_mem_cons.1 hthreads
      obtain _ | fuel := fuel
      · omega
      rw [List.length_cons] at hfuel
      by_cases hmarked : Marked text visited thread.index thread.position
      · have hfails := hsound _ _ hposition hmarked hrank thread.slots
        have hleft : 2 * visited.count false + threads.length + rest.length + 1 ≤ fuel := by omega
        obtain ⟨found, hfinds, hexplores⟩ := ihThreads hthreads hsound hleft
        exact ⟨found, hfails.append_none hfinds,
          hexplores.of_eq (.refl visited) (explore_marked hmarked fuel _)⟩
      · cases hnext : thread.next? program text with
        | none => exact ⟨_, .accept hnext, explore_accept hmarked hnext fuel _⟩
        | some next =>
          have hvisit := explore_next hmarked hnext fuel (threads ++ rest)
          have hcount := count_set! hmarked
          have hlength := (Thread.next?_cases hnext).1
          have hnextFuel :
              2 * (visited.set! (markOf text thread.index thread.position) true).count false +
                next.length + (threads ++ rest).length + 1 ≤ fuel := by
            rw [List.length_append]
            omega
          obtain ⟨found, hfinds, hexplores⟩ := ih _ hrank
            (fun later hlater => ⟨Thread.position_le_of_next? hnext hposition later hlater,
              hranked thread next hposition hnext later hlater⟩)
            (hsound.set! hposition hrank) hnextFuel
          cases found with
          | some slots =>
            exact ⟨some slots, .step hnext (hfinds.append_some threads),
              (congrArg Prod.fst hvisit).trans hexplores⟩
          | none =>
            obtain ⟨left, later, hlater, hleft, hgoes⟩ := hexplores
            have hfails : Fails program text thread.index thread.position :=
              (Finds.of_next hnext hfinds).fails
            have hsince := (since_set! hposition hfails).trans hlater
            have hrestFuel :
                2 * later.count false + threads.length + rest.length + 1 ≤ left := by
              rw [List.length_append] at hleft
              omega
            obtain ⟨found, hrest, hexplores⟩ :=
              ihThreads hthreads (hsince.sound hsound) hrestFuel
            exact ⟨found, .step hnext (hfinds.append_none hrest),
              hexplores.of_eq hsince (hvisit.trans hgoes)⟩

/-! ## The leftmost match -/

/-- The marks at the beginning of a search are sound. -/
lemma sound_replicate (rank : Nat → Nat → Nat) (bound : Nat) :
    Sound program text rank
      (Array.replicate (program.code.size * (text.size + 1)) false) bound := by
  intro index position hposition hmarked _
  refine fails_of_size_le (Classical.byContradiction fun hlt => ?_)
  have hmark : markOf text index position < program.code.size * (text.size + 1) := by
    have hle := Nat.mul_le_mul_right (text.size + 1) (show index + 1 ≤ program.code.size by omega)
    rw [Nat.succ_mul] at hle
    unfold markOf
    omega
  simp [Marked, hmark] at hmarked

/-- **The search finds the match at the first position at which there is one**, and of the matches
there the preferred one.

**Proof sketch.** At every position the marks of the earlier positions are sound. -/
theorem searchFrom_eq {rank : Nat → Nat → Nat} (hranked : Ranked program text rank)
    {slotCount : Nat} {found : Nat → Option (Array (Option Nat))}
    (hfound : ∀ position ≤ text.size, Finds program text
      [⟨program.entry, position, startSlots slotCount position⟩] (found position))
    {left position : Nat} {visited : Array Bool} (hleft : position + left = text.size + 1)
    (hsize : visited.size = program.code.size * (text.size + 1))
    (hsound : ∀ bound, Sound program text rank visited bound) :
    searchFrom program text slotCount left visited position =
      (List.range' position left).findSome? found := by
  induction left generalizing position visited with
  | zero => rfl
  | succ left ih =>
    have hcount : visited.count false ≤ program.code.size * (text.size + 1) :=
      hsize ▸ Array.count_le_size
    have hstart : ∀ thread ∈ [(⟨program.entry, position, startSlots slotCount position⟩ : Thread)],
        thread.position ≤ text.size ∧
          rank thread.index thread.position < rank program.entry position + 1 := by
      rintro thread hthread
      obtain rfl := List.mem_singleton.1 hthread
      exact ⟨by dsimp only; omega, Nat.lt_succ_self _⟩
    have hfuel : 2 * visited.count false + [(⟨program.entry, position,
        startSlots slotCount position⟩ : Thread)].length + ([] : List Thread).length + 1 ≤
        2 * (program.code.size * (text.size + 1)) + 2 := by
      rw [List.length_singleton, List.length_nil]
      omega
    obtain ⟨outcome, hfinds, hexplores⟩ := exists_explores hranked hstart (hsound _) hfuel
    obtain rfl := hfinds.unique (hfound position (by omega))
    rw [List.range'_succ, List.findSome?_cons]
    unfold searchFrom
    dsimp only
    cases hposition : found position with
    | some slots =>
      rw [hposition] at hexplores
      unfold Explores at hexplores
      rw [List.append_nil] at hexplores
      split
      · next hexplore => rw [hexplore] at hexplores; exact hexplores
      · next hexplore => rw [hexplore] at hexplores; cases hexplores
    | none =>
      rw [hposition] at hexplores
      obtain ⟨rest, later, hlater, hrest, hgoes⟩ := hexplores
      have hdone : explore program text rest later [] = (none, later) := by
        cases rest <;> rfl
      rw [List.append_nil, hdone] at hgoes
      rw [hgoes]
      exact ih (by omega) (hlater.size_eq.trans hsize) fun bound => hlater.sound (hsound bound)

/-- **The search of a text finds the leftmost match**, and of the matches at its position the
preferred one: that which a search without marks finds. -/
theorem Program.search_eq {rank : Nat → Nat → Nat} (hranked : Ranked program text rank)
    {groupCount : Nat} {found : Nat → Option (Array (Option Nat))}
    (hfound : ∀ position ≤ text.size, Finds program text
      [⟨program.entry, position, startSlots (2 * (groupCount + 1)) position⟩] (found position)) :
    program.search text groupCount = (List.range (text.size + 1)).findSome? found := by
  rw [search, List.range_eq_range']
  exact searchFrom_eq hranked hfound (Nat.zero_add _) Array.size_replicate
    (sound_replicate rank)

/-! ## Programs without empty loops -/

/-- Every instruction leads to earlier ones, or to ones that read a character, as long as it does
not read one itself. -/
def Descends (code : Array Instr) : Prop :=
  ∀ (index : Nat) (instr : Instr), code[index]? = some instr → ∀ next ∈ instr.jumps,
    next < index ∨ ∃ table later, code[next]? = some (.chars table later)

namespace Program

/-- How far the next instruction that reads a character can be. -/
def reach (program : Program) (index : Nat) : Nat :=
  match program.code[index]? with
  | none | some (.chars ..) => 0
  | some _ => index + 1

/-- The rank of a place: first how much of the text is left, then how far the next instruction that
reads a character can be. -/
def rank (program : Program) (text : Array Char) (index position : Nat) : Nat :=
  (text.size - position) * (program.code.size + 1) + program.reach index

/-- No instruction is farther than the end of the program. -/
lemma reach_le_size (program : Program) (index : Nat) :
    program.reach index ≤ program.code.size := by
  unfold reach
  split
  · exact Nat.zero_le _
  · exact Nat.zero_le _
  · next hcode => exact (Array.getElem?_eq_some_iff.1 hcode).1

/-- No instruction is farther than its index tells. -/
lemma reach_le (program : Program) (index : Nat) : program.reach index ≤ index + 1 := by
  unfold reach
  split <;> omega

/-- An instruction that leads elsewhere reads no character. -/
lemma reach_eq {index next : Nat} {instr : Instr} (hcode : program.code[index]? = some instr)
    (hjump : next ∈ instr.jumps) : program.reach index = index + 1 := by
  unfold reach
  rw [hcode]
  cases instr <;> first | rfl | cases hjump

/-- **A program without empty loops never comes back to a place.** -/
theorem ranked_rank (h : Descends program.code) (text : Array Char) :
    Ranked program text (program.rank text) := by
  intro thread next hposition hnext later hlater
  unfold rank
  obtain ⟨hsame, instr, hcode, hjump⟩ | ⟨hmore, hlt, -⟩ :=
    (Thread.next?_cases hnext).2 later hlater
  · rw [hsame, reach_eq hcode hjump]
    refine Nat.add_lt_add_left (Nat.lt_succ_of_le ?_) _
    obtain hearlier | ⟨table, target, hchars⟩ := h _ _ hcode _ hjump
    · exact Nat.le_trans (reach_le program later.index) hearlier
    · simp [reach, hchars]
  · have hleft : text.size - thread.position = text.size - later.position + 1 := by omega
    have hle := reach_le_size program later.index
    rw [hleft, Nat.add_mul]
    omega

end Program

end Regex

end RequestRouting
