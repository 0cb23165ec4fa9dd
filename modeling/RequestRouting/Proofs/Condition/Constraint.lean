import RequestRouting.Proofs.Condition.Construction
import RequestRouting.Proofs.Condition.Evaluation

/-!
# Chunk options as constraints

Every chunk option asks for a chunk that its pattern matches.  Several options may ask for the same
chunk, since one index has many names; of these the last one stands, and the others ask for nothing
any more.  So a path condition that matches has made sure of the option that stands for each index,
and need not have made sure of all options.

## Main definitions

* `UrlPathCondition.ChunkMatches` — the chunk with an index is there, and a pattern matches it.
* `UrlPathCondition.Stands` — the pattern that stands for an index in a table of options.

## Main results

* `UrlPathCondition.chunkMatches_of_evaluate` — on a match every pattern that stands is matched.
* `UrlPathCondition.not_chunkMatches_of_evaluate` — and some other pattern may not be.
-/

set_option autoImplicit false

namespace RequestRouting

namespace UrlPathCondition

variable {fields : List (String × Json)} {condition : UrlPathCondition} {index : Int}

/-- The chunk with an index, counted from the end if it is negative, is there, and a pattern matches
it. -/
def ChunkMatches (chunks : List String) (index : Int) (pattern : String) : Prop :=
  ∃ (position : Nat) (chunk : String) (regex : Regex.Compiled),
    (position : Int) = (if index < 0 then chunks.length + index else index) ∧
    chunks[position]? = some chunk ∧ Regex.compile pattern = .ok regex ∧ regex.isMatch chunk

/-- A pattern stands for an index: it is that of the last option with a name of the index. -/
def Stands (fields : List (String × Json)) (index : Int) (pattern : String) : Prop :=
  ∃ before key after, fields = before ++ (key, .string pattern) :: after ∧
    NamesChunk key index ∧ ∀ field ∈ after, ¬ NamesChunk field.1 index

/-! ## What is kept of the options -/

/-- A pattern is there once it has been put under its index. -/
lemma mem_insertChunk_self (index : Int) (regex : Regex.Compiled)
    (chunks : List (Int × Regex.Compiled)) :
    (index, regex) ∈ insertChunk index regex chunks := by
  fun_induction insertChunk index regex chunks <;> simp_all

/-- A pattern stays when another one is put under another index. -/
lemma mem_insertChunk_of_ne {chunk : Int × Regex.Compiled} {chunks : List (Int × Regex.Compiled)}
    {regex : Regex.Compiled} (h : chunk ∈ chunks) (hne : chunk.1 ≠ index) :
    chunk ∈ insertChunk index regex chunks := by
  fun_induction insertChunk index regex chunks with
  | case1 => cases h
  | case2 => exact List.mem_cons_of_mem _ h
  | case3 old rest hlt =>
    rcases List.mem_cons.1 h with rfl | h
    · exact absurd rfl hne
    · exact List.mem_cons_of_mem _ h
  | case4 i old rest hlt hother ih =>
    rcases List.mem_cons.1 h with rfl | h
    · exact List.mem_cons_self
    · exact List.mem_cons_of_mem _ (ih h)

/-- The last pattern of an index is kept.

**Proof sketch.** Induction on the patterns behind it, from their end: none of them is put under the
index. -/
lemma mem_insertChunks_of_last {before after : List (Int × Regex.Compiled)}
    {chunk : Int × Regex.Compiled} (h : ∀ later ∈ after, later.1 ≠ chunk.1) :
    chunk ∈ insertChunks (before ++ chunk :: after) := by
  induction after using List.reverseRecOn with
  | nil =>
    rw [insertChunks_concat]
    exact mem_insertChunk_self ..
  | append_singleton after last ih =>
    obtain ⟨hafter, hlast⟩ := List.forall_mem_append.1 h
    rw [← List.cons_append, ← List.append_assoc, insertChunks_concat]
    exact mem_insertChunk_of_ne (ih hafter) (hlast last (List.mem_singleton_self _)).symm

/-- The pattern that stands for an index is the one that a condition keeps under it. -/
lemma Stands.exists_mem_chunks {pattern : String} (h : Stands fields index pattern)
    (hspelt : condition.SpeltBy fields) :
    ∃ regex, Regex.compile pattern = .ok regex ∧ (index, regex) ∈ condition.chunks := by
  obtain ⟨before, key, after, rfl, hname, hlast⟩ := h
  obtain ⟨read, hread, hkept⟩ := hspelt.chunks
  have hoptions : chunkOptions (before ++ (key, .string pattern) :: after) =
      chunkOptions before ++ (key, .string pattern) :: chunkOptions after := by
    simp [chunkOptions, hname.isChunkKey]
  rw [hoptions] at hread
  have hrest := List.forall₂_drop_append _ _ _ hread.flip
  obtain ⟨⟨other, regex⟩, readAfter, ⟨hother, text, htext, hregex⟩, hafter, hdrop⟩ :=
    List.forall₂_cons_right_iff.1 hrest
  obtain rfl : index = other := hname.unique hother
  obtain rfl : pattern = text := Json.string.inj htext
  refine ⟨regex, hregex, ?_⟩
  rw [hkept, ← List.take_append_drop (chunkOptions before).length read, hdrop]
  refine mem_insertChunks_of_last fun later hlater heq => ?_
  obtain ⟨field, hfield, hspells, -⟩ := exists_mem_of_forall₂ hafter hlater
  have hindex : later.1 = index := heq
  exact hlast field (List.mem_filter.1 hfield).1 (hindex ▸ hspells)

/-- If an item has a property, then some item is the last one to have it. -/
lemma exists_last {α : Type} (property : α → Prop) {items : List α}
    (h : ∃ item ∈ items, property item) :
    ∃ before last after, items = before ++ last :: after ∧ property last ∧
      ∀ item ∈ after, ¬ property item := by
  induction items using List.reverseRecOn with
  | nil => simp at h
  | append_singleton items last ih =>
    by_cases hlast : property last
    · exact ⟨items, last, [], rfl, hlast, List.forall_mem_nil _⟩
    · obtain ⟨item, hitem, hproperty⟩ := h
      have hmem : item ∈ items := by
        rcases List.mem_append.1 hitem with hitem | hitem
        · exact hitem
        · exact absurd (List.mem_singleton.1 hitem ▸ hproperty) hlast
      obtain ⟨before, found, after, rfl, hfound, hafter⟩ := ih ⟨item, hmem, hproperty⟩
      refine ⟨before, found, after ++ [last], by simp, hfound, ?_⟩
      exact List.forall_mem_append.2 ⟨hafter, List.forall_mem_singleton.2 hlast⟩

/-- If a condition is built of options, then some pattern stands for the index of each of them. -/
lemma exists_stands (hspelt : condition.SpeltBy fields) {field : String × Json}
    (hfield : field ∈ fields) (hname : NamesChunk field.1 index) :
    ∃ pattern, Stands fields index pattern := by
  obtain ⟨before, ⟨key, value⟩, after, rfl, hlast, hafter⟩ :=
    exists_last (fun other : String × Json => NamesChunk other.1 index)
      ⟨field, hfield, hname⟩
  obtain ⟨read, hread, -⟩ := hspelt.chunks
  have hoption : (key, value) ∈ chunkOptions (before ++ (key, value) :: after) :=
    List.mem_filter.2 ⟨by simp, hlast.isChunkKey⟩
  obtain ⟨chunk, -, -, pattern, hpattern, -⟩ := exists_mem_of_forall₂ hread hoption
  obtain rfl : value = .string pattern := hpattern
  exact ⟨pattern, before, key, after, rfl, hlast, hafter⟩

/-! ## What a match has made sure of -/

/-- The position of an index is counted from the end if it is negative. -/
lemma resolveChunkIndex_eq_some {count position : Nat}
    (h : resolveChunkIndex index count = some position) :
    (position : Int) = if index < 0 then count + index else index := by
  unfold resolveChunkIndex at h
  split at h
  · next hnegative =>
    split at h
    · next hrange =>
      simp only [Bool.and_eq_true, decide_eq_true_eq] at hrange
      rw [if_pos hnegative, ← Option.some.inj h, Int.toNat_of_nonneg hrange.2]
    · cases h
  · next hnegative =>
    split at h
    · rw [if_neg hnegative, ← Option.some.inj h, Int.toNat_of_nonneg (Int.not_lt.1 hnegative)]
    · cases h

/-- A pattern that captures something of a chunk matches the chunk. -/
lemma chunkMatches_of_chunkCaptures {chunks : List String} {pattern : String}
    {regex : Regex.Compiled} {values : List Json} (hregex : Regex.compile pattern = .ok regex)
    (h : chunkCaptures chunks (index, regex) = some values) :
    ChunkMatches chunks index pattern := by
  simp only [chunkCaptures, Option.bind_eq_bind, Option.bind_eq_some_iff] at h
  obtain ⟨position, hposition, chunk, hchunk, groups, hgroups, -⟩ := h
  refine ⟨position, chunk, regex, resolveChunkIndex_eq_some hposition, hchunk, hregex, ?_⟩
  rw [Regex.Compiled.isMatch, hgroups]
  rfl

/-- If something is captured of all chunks, then of each of them. -/
lemma exists_chunkCaptures {chunks : List String} {entries : List (Int × Regex.Compiled)}
    {values : List Json} (h : allChunkCaptures chunks entries = some values) :
    ∀ entry ∈ entries, ∃ values, chunkCaptures chunks entry = some values := by
  obtain ⟨parts, hparts, -⟩ := Option.map_eq_some_iff.1 h
  clear h
  induction entries generalizing parts with
  | nil => exact List.forall_mem_nil _
  | cons entry rest ih =>
    rw [List.mapM_cons] at hparts
    simp only [Option.bind_eq_bind, Option.bind_eq_some_iff] at hparts
    obtain ⟨first, hfirst, later, hlater, -⟩ := hparts
    exact List.forall_mem_cons.2 ⟨⟨first, hfirst⟩, ih later hlater⟩

/-- A condition that matches has captured something of every chunk that it looks at. -/
lemma exists_subject_of_evaluate {knowledge : Knowledge}
    (h : (condition.evaluate knowledge).1 = .ok true) :
    ∃ subject, condition.subject knowledge = .ok subject ∧
      ∀ entry ∈ condition.chunks, ∃ values,
        chunkCaptures (condition.chunksOf subject) entry = some values := by
  rw [(condition.follows_evaluate knowledge).fst_eq, meaning, ← subject_eq] at h
  cases hsubject : condition.subject knowledge with
  | error e =>
    rw [hsubject] at h
    cases h
  | ok subject =>
    rw [hsubject] at h
    dsimp only at h
    cases hcaptures : condition.capturesIn subject with
    | none =>
      rw [hcaptures] at h
      cases h
    | some values =>
      simp only [capturesIn, Option.bind_eq_some_iff, Option.map_eq_some_iff] at hcaptures
      obtain ⟨whole, -, parts, hparts, -⟩ := hcaptures
      exact ⟨subject, rfl, exists_chunkCaptures hparts⟩

/-- **On a match every pattern that stands for an index is matched.**  Whatever options are accepted
and whatever is known: for the index that the name of an option spells there is a pattern that
stands, and if the condition matches, then the chunk with this index is there and that pattern
matches it.  In particular this is the pattern of the option itself, if no later option has a name
of the same index. -/
theorem chunkMatches_of_evaluate (haccepted : ofOptions fields = .ok condition)
    {field : String × Json} (hfield : field ∈ fields) (hname : NamesChunk field.1 index)
    {knowledge : Knowledge} (hmatch : (condition.evaluate knowledge).1 = .ok true) :
    ∃ subject, condition.subject knowledge = .ok subject ∧
      (∃ pattern, Stands fields index pattern) ∧
      ∀ pattern, Stands fields index pattern →
        ChunkMatches (condition.chunksOf subject) index pattern := by
  have hspelt := ofOptions_eq_ok.1 haccepted
  obtain ⟨subject, hsubject, hchunks⟩ := exists_subject_of_evaluate hmatch
  refine ⟨subject, hsubject, exists_stands hspelt hfield hname, fun pattern hstands => ?_⟩
  obtain ⟨regex, hregex, hkept⟩ := hstands.exists_mem_chunks hspelt
  obtain ⟨values, hvalues⟩ := hchunks _ hkept
  exact chunkMatches_of_chunkCaptures hregex hvalues

/-! ## Two options for one chunk -/

/-- Options with two names of the index of the first chunk, in the order of their names. -/
def doubledTable : List (String × Json) :=
  [("chunk[00]", .string "^b$"), ("chunk[0]", .string "^a$")]

/-- A request for the path `a`. -/
def knockOnA : Knowledge := .forRequest "GET" "a"

/-- The two names. -/
lemma namesChunk_doubledTable : NamesChunk "chunk[00]" 0 ∧ NamesChunk "chunk[0]" 0 :=
  ⟨parseChunkKey?_eq_some.1 rfl, parseChunkKey?_eq_some.1 rfl⟩

/-- The second option stands. -/
lemma stands_doubledTable : Stands doubledTable 0 "^a$" :=
  ⟨[("chunk[00]", .string "^b$")], "chunk[0]", [], rfl, namesChunk_doubledTable.2,
    List.forall_mem_nil _⟩

/-- The options are accepted, and the condition matches the request. -/
lemma exists_doubledCondition :
    ∃ condition, ofOptions doubledTable = .ok condition ∧
      (condition.evaluate knockOnA).1 = .ok true ∧ condition.subject knockOnA = .ok "a" ∧
      condition.chunksOf "a" = ["a"] := by
  have hmatch : (ofOptions doubledTable).toOption.any (fun condition =>
      (condition.evaluate knockOnA).1.toOption = some true &&
        (condition.subject knockOnA).toOption = some "a" && condition.chunksOf "a" = ["a"]) =
      true := by decide +kernel
  have hvalue : ∀ {α : Type} {step : Except RuleError α} {value : α},
      step.toOption = some value → step = .ok value := by
    rintro α (e | found) value h
    · cases h
    · rw [Option.some.inj h]
  cases haccepted : ofOptions doubledTable with
  | error e =>
    rw [haccepted] at hmatch
    cases hmatch
  | ok condition =>
    rw [haccepted, Except.toOption, Option.any_some] at hmatch
    simp only [Bool.and_eq_true, decide_eq_true_eq] at hmatch
    obtain ⟨⟨hverdict, hsubject⟩, hchunks⟩ := hmatch
    exact ⟨condition, rfl, hvalue hverdict, hvalue hsubject, hchunks⟩

/-- The pattern of the second option of `doubledTable` is matched. -/
theorem chunkMatches_of_evaluate_doubledTable :
    ∃ condition, ofOptions doubledTable = .ok condition ∧
      ("chunk[00]", .string "^b$") ∈ doubledTable ∧ NamesChunk "chunk[00]" 0 ∧
      (condition.evaluate knockOnA).1 = .ok true ∧ Stands doubledTable 0 "^a$" ∧
      ∃ subject, condition.subject knockOnA = .ok subject ∧
        ChunkMatches (condition.chunksOf subject) 0 "^a$" := by
  obtain ⟨condition, haccepted, hmatch, -, -⟩ := exists_doubledCondition
  have hfield : ("chunk[00]", Json.string "^b$") ∈ doubledTable := List.mem_cons_self
  obtain ⟨subject, hsubject, -, hstands⟩ :=
    chunkMatches_of_evaluate haccepted hfield namesChunk_doubledTable.1 hmatch
  exact ⟨condition, haccepted, hfield, namesChunk_doubledTable.1, hmatch, stands_doubledTable,
    subject, hsubject, hstands _ stands_doubledTable⟩

/-- **Not every option is matched on a match**: of the two of `doubledTable` the first one is
not. -/
theorem not_chunkMatches_of_evaluate :
    ¬ ∀ (fields : List (String × Json)) (condition : UrlPathCondition) (key pattern : String)
        (index : Int) (knowledge : Knowledge),
      ofOptions fields = .ok condition → (key, .string pattern) ∈ fields → NamesChunk key index →
      (condition.evaluate knowledge).1 = .ok true →
      ∃ subject, condition.subject knowledge = .ok subject ∧
        ChunkMatches (condition.chunksOf subject) index pattern := by
  intro hall
  obtain ⟨condition, haccepted, hmatch, hpath, hchunks⟩ := exists_doubledCondition
  obtain ⟨subject, hsubject, position, chunk, regex, hposition, hchunk, hregex, hmatches⟩ :=
    hall doubledTable condition "chunk[00]" "^b$" 0 knockOnA haccepted List.mem_cons_self
      namesChunk_doubledTable.1 hmatch
  obtain rfl : "a" = subject := Except.ok.inj (hpath.symm.trans hsubject)
  obtain rfl : position = 0 := by simpa using hposition
  obtain rfl : "a" = chunk := by simpa [hchunks] using hchunk
  have hother : (Regex.compile "^b$").toOption.any (·.isMatch "a") = false := by decide +kernel
  rw [hregex] at hother
  simp only [Except.toOption, Option.any_some] at hother
  rw [hother] at hmatches
  cases hmatches

end UrlPathCondition

end RequestRouting
