import RequestRouting.Condition.UrlPath
import RequestRouting.Proofs.Condition.Steps
import RequestRouting.Proofs.Number.Decimal
import RequestRouting.Proofs.Text.Split

/-!
# Chunk options

The patterns of chunks are options whose names spell an index: `chunk[`, digits with or without a
minus in front of them, and `]`.  One index has many names, and the last of its options counts;
what a path condition keeps is one pattern an index, in increasing order.

## Main definitions

* `UrlPathCondition.NamesChunk` — the name of a chunk option spells an index.
* `UrlPathCondition.SpellsChunk` — a chunk option spells an index with a pattern.
* `UrlPathCondition.insertChunks` — the patterns that are kept of those that were read.

## Main results

* `UrlPathCondition.parseChunkKey?_eq_some` — the reader of names knows these names and no others.
* `UrlPathCondition.namesChunk_chunkKey` — the name that is printed for an index spells it.
* `UrlPathCondition.insertChunks_of_perm` — patterns under different indices are put in order.
-/

set_option autoImplicit false

namespace RequestRouting

namespace UrlPathCondition

/-! ## The names of chunk options -/

/-- The sign in front of a numeral. -/
def signOf (negative : Bool) : List Char := if negative then ['-'] else []

/-- The integer of a sign and digits. -/
def signed (negative : Bool) (digits : List Char) : Int :=
  if negative then -(ofDigits digits : Int) else ofDigits digits

/-- An index fits into 64 bits. -/
def IndexInRange (index : Int) : Prop := chunkIndexMin ≤ index ∧ index ≤ chunkIndexMax

/-- The name of a chunk option spells an index: it is `chunk[`, at least one digit, with or without
a minus in front, and `]`. -/
inductive NamesChunk : String → Int → Prop where
  | mk (negative : Bool) (digits : List Char) (hsome : digits ≠ [])
      (hdigits : ∀ c ∈ digits, c.isDigit) (hrange : IndexInRange (signed negative digits)) :
    NamesChunk
      (String.ofList (chunkOpening.toList ++ (signOf negative ++ digits ++ [']'])))
      (signed negative digits)

/-- An option is meant as a chunk option if its name begins like one. -/
lemma isChunkKey_iff {key : String} :
    isChunkKey key ↔ chunkOpening.toList <+: key.toList := by
  unfold isChunkKey
  constructor
  · intro h
    obtain ⟨rest, hrest⟩ := Option.isSome_iff_exists.1 h
    exact ⟨rest, (eq_append_of_stripStart? hrest).symm⟩
  · rintro ⟨rest, hrest⟩
    rw [← hrest, stripStart?_append]
    rfl

/-- A numeral is read with or without a minus in front of its digits. -/
lemma readInteger?_eq {digits : List Char} (hsome : digits ≠ [])
    (hdigits : ∀ c ∈ digits, c.isDigit) (negative : Bool) :
    readInteger? (signOf negative ++ digits) = some (signed negative digits) := by
  have hsign : takeSign (signOf negative ++ digits) = (negative, digits) := by
    cases negative with
    | true => rfl
    | false => exact takeSign_of_isDigit hdigits
  exact readInteger?_of_takeSign hsign hsome hdigits

/-- Any text is digits, or something else, with or without a minus in front. -/
lemma exists_signOf_append (text : List Char) :
    ∃ negative digits, text = signOf negative ++ digits ∧
      (negative = false → digits.head? ≠ some '-') := by
  by_cases h : text.head? = some '-'
  · obtain ⟨rest, rfl⟩ := List.head?_eq_some_iff.1 h
    exact ⟨true, rest, rfl, by simp⟩
  · exact ⟨false, text, rfl, fun _ => h⟩

/-- The reader of indices takes a minus off before it looks at the digits. -/
lemma readChunkIndex?_append {negative : Bool} {digits : List Char}
    (h : negative = false → digits.head? ≠ some '-') :
    readChunkIndex? (signOf negative ++ digits) =
      if digits.isEmpty || !digits.all Char.isDigit then none
      else (readInteger? (signOf negative ++ digits)).filter fun index =>
        chunkIndexMin ≤ index && index ≤ chunkIndexMax := by
  have hfilter : ∀ read : Option Int,
      (read.bind fun index => if chunkIndexMin ≤ index && index ≤ chunkIndexMax then some index
        else none) =
      read.filter fun index => chunkIndexMin ≤ index && index ≤ chunkIndexMax := by
    rintro (_ | index) <;> rfl
  rw [← hfilter]
  unfold readChunkIndex?
  cases negative with
  | true => rfl
  | false =>
    split
    · next rest hrest => exact absurd (by rw [show digits = '-' :: rest from hrest]; rfl) (h rfl)
    · rfl

/-- The reader of indices reads digits with or without a minus in front of them. -/
lemma readChunkIndex?_eq_some {inner : List Char} {index : Int} :
    readChunkIndex? inner = some index ↔
      ∃ negative digits, inner = signOf negative ++ digits ∧ digits ≠ [] ∧
        (∀ c ∈ digits, c.isDigit) ∧ IndexInRange index ∧ index = signed negative digits := by
  constructor
  · intro h
    obtain ⟨negative, digits, rfl, hsign⟩ := exists_signOf_append inner
    rw [readChunkIndex?_append hsign] at h
    split at h
    · cases h
    · next hnot =>
      simp only [Bool.or_eq_true, List.isEmpty_iff, Bool.not_eq_true', not_or,
        Bool.not_eq_false] at hnot
      obtain ⟨hsome, hall⟩ := hnot
      have hdigits := List.all_eq_true.1 hall
      rw [readInteger?_eq hsome hdigits, Option.filter_eq_some_iff] at h
      obtain ⟨rfl, hrange⟩ := by simpa using h
      exact ⟨negative, digits, rfl, hsome, hdigits, hrange, rfl⟩
  · rintro ⟨negative, digits, rfl, hsome, hdigits, hrange, rfl⟩
    have hsign : negative = false → digits.head? ≠ some '-' := fun _ hhead =>
      (ne_sign_of_isDigit (hdigits _ (List.mem_of_head? hhead))).1 rfl
    have hall : digits.all Char.isDigit = true := List.all_eq_true.2 hdigits
    rw [readChunkIndex?_append hsign, readInteger?_eq hsome hdigits, hall,
      Option.filter_some_pos (by simpa [IndexInRange] using hrange)]
    simp [hsome]

/-- **The names of chunk options.**  The reader knows these names and no others. -/
theorem parseChunkKey?_eq_some {key : String} {index : Int} :
    parseChunkKey? key = some index ↔ NamesChunk key index := by
  simp only [parseChunkKey?, Option.bind_eq_bind, Option.bind_eq_some_iff, stripEnd?_eq_some,
    readChunkIndex?_eq_some]
  constructor
  · rintro ⟨rest, hrest, -, rfl, negative, digits, rfl, hsome, hdigits, hrange, rfl⟩
    have hkey := eq_append_of_stripStart? hrest
    rw [← String.ofList_toList (s := key), hkey]
    exact .mk negative digits hsome hdigits hrange
  · rintro ⟨negative, digits, hsome, hdigits, hrange⟩
    refine ⟨_, ?_, _, rfl, negative, digits, rfl, hsome, hdigits, hrange, rfl⟩
    rw [String.toList_ofList, stripStart?_append]

/-- The printed form of an integer: its digits, with a minus if it is negative. -/
lemma toList_repr (index : Int) :
    index.repr.toList = signOf (decide (index < 0)) ++ Nat.toDigits 10 index.natAbs := by
  cases index with
  | ofNat n => simp [Int.repr, signOf, Nat.repr_eq_ofList_toDigits]
  | negSucc n =>
    simp [Int.repr, signOf, Nat.repr_eq_ofList_toDigits, Int.negSucc_lt_zero]

/-- The printed digits of an integer spell it. -/
lemma signed_toDigits (index : Int) :
    signed (decide (index < 0)) (Nat.toDigits 10 index.natAbs) = index := by
  simp only [signed, ofDigits_toDigits, decide_eq_true_eq]
  split <;> omega

/-- The name that is printed for an index in range spells it. -/
theorem namesChunk_chunkKey {index : Int} (hrange : IndexInRange index) :
    NamesChunk (chunkKey index) index := by
  have hkey : chunkKey index = String.ofList (chunkOpening.toList ++
      (signOf (decide (index < 0)) ++ Nat.toDigits 10 index.natAbs ++ [']'])) := by
    rw [chunkKey, ← String.toList_inj]
    simp [toList_repr]
  have hnames := NamesChunk.mk (decide (index < 0)) (Nat.toDigits 10 index.natAbs)
    Nat.toDigits_ne_nil (fun c hc => isDigit_of_mem_toDigits hc)
    ((signed_toDigits index).symm ▸ hrange)
  rwa [signed_toDigits, ← hkey] at hnames

/-- A name spells one index at most. -/
lemma NamesChunk.unique {key : String} {index other : Int} (h : NamesChunk key index)
    (hother : NamesChunk key other) : index = other := by
  rw [← parseChunkKey?_eq_some] at h hother
  exact Option.some.inj (h.symm.trans hother)

/-- A name spells indices in range only. -/
lemma NamesChunk.inRange {key : String} {index : Int} (h : NamesChunk key index) :
    IndexInRange index := by
  obtain ⟨_, _, -, -, hrange⟩ := h
  exact hrange

/-- The name of a chunk option begins like one. -/
lemma NamesChunk.isChunkKey {key : String} {index : Int} (h : NamesChunk key index) :
    isChunkKey key := by
  obtain ⟨negative, digits, -, -, -⟩ := h
  exact isChunkKey_iff.2 ⟨_, by rw [String.toList_ofList]⟩

/-! ## Patterns in the order of their indices -/

/-- The patterns that are kept of those that have been read one after another. -/
def insertChunks (read : List (Int × Regex.Compiled)) : List (Int × Regex.Compiled) :=
  read.foldl (fun chunks chunk => insertChunk chunk.1 chunk.2 chunks) []

/-- Patterns in strictly increasing order of their indices. -/
def SortedChunks (chunks : List (Int × Regex.Compiled)) : Prop :=
  chunks.Pairwise fun a b => a.1 < b.1

/-- What an insertion may contain. -/
lemma mem_insertChunk {index : Int} {regex : Regex.Compiled} {chunk : Int × Regex.Compiled}
    {chunks : List (Int × Regex.Compiled)} (h : chunk ∈ insertChunk index regex chunks) :
    chunk = (index, regex) ∨ chunk ∈ chunks := by
  fun_induction insertChunk index regex chunks with
  | case1 | case2 => simpa using h
  | case3 => simp_all; tauto
  | case4 => simp_all; tauto

/-- An insertion keeps the order. -/
lemma SortedChunks.insertChunk {chunks : List (Int × Regex.Compiled)} (h : SortedChunks chunks)
    (index : Int) (regex : Regex.Compiled) :
    SortedChunks (insertChunk index regex chunks) := by
  fun_induction UrlPathCondition.insertChunk index regex chunks with
  | case1 => exact List.pairwise_singleton _ _
  | case2 i old rest hlt =>
    obtain ⟨hfirst, -⟩ := List.pairwise_cons.1 h
    refine List.pairwise_cons.2 ⟨List.forall_mem_cons.2 ⟨hlt, ?_⟩, h⟩
    exact fun chunk hchunk => Int.lt_trans hlt (hfirst chunk hchunk)
  | case3 => exact List.pairwise_cons.2 (List.pairwise_cons.1 h)
  | case4 i old rest hge hne ih =>
    obtain ⟨hfirst, hrest⟩ := List.pairwise_cons.1 h
    refine List.pairwise_cons.2 ⟨fun chunk hchunk => ?_, ih hrest⟩
    rcases mem_insertChunk hchunk with rfl | hchunk
    · change i < index
      omega
    · exact hfirst chunk hchunk

/-- A pattern under a new index is one pattern more. -/
lemma insertChunk_perm {index : Int} {chunks : List (Int × Regex.Compiled)}
    (h : ∀ chunk ∈ chunks, chunk.1 ≠ index) (regex : Regex.Compiled) :
    (insertChunk index regex chunks).Perm ((index, regex) :: chunks) := by
  fun_induction insertChunk index regex chunks with
  | case1 | case2 => exact .rfl
  | case3 => exact absurd rfl (h _ List.mem_cons_self)
  | case4 i old rest _ _ ih =>
    exact ((ih fun chunk hchunk => h chunk (List.mem_cons_of_mem _ hchunk)).cons _).trans
      (.swap ..)

/-- Reading one more pattern. -/
lemma insertChunks_concat (read : List (Int × Regex.Compiled)) (chunk : Int × Regex.Compiled) :
    insertChunks (read ++ [chunk]) = insertChunk chunk.1 chunk.2 (insertChunks read) := by
  simp [insertChunks]

/-- What is kept has been read. -/
lemma mem_insertChunks {chunk : Int × Regex.Compiled} {read : List (Int × Regex.Compiled)}
    (h : chunk ∈ insertChunks read) : chunk ∈ read := by
  induction read using List.reverseRecOn with
  | nil => cases h
  | append_singleton read last ih =>
    rw [insertChunks_concat] at h
    rcases mem_insertChunk h with rfl | h
    · simp
    · exact List.mem_append_left _ (ih h)

/-- What is kept is in order. -/
lemma sorted_insertChunks (read : List (Int × Regex.Compiled)) :
    SortedChunks (insertChunks read) := by
  induction read using List.reverseRecOn with
  | nil => exact List.Pairwise.nil
  | append_singleton read last ih =>
    rw [insertChunks_concat]
    exact ih.insertChunk _ _

/-- Of patterns under different indices all are kept. -/
lemma insertChunks_perm {read : List (Int × Regex.Compiled)} (h : (read.map Prod.fst).Nodup) :
    (insertChunks read).Perm read := by
  induction read using List.reverseRecOn with
  | nil => exact .rfl
  | append_singleton read last ih =>
    rw [List.map_append, List.nodup_append] at h
    obtain ⟨hread, -, hlast⟩ := h
    have hother : ∀ chunk ∈ insertChunks read, chunk.1 ≠ last.1 := fun chunk hchunk =>
      hlast _ (List.mem_map_of_mem (mem_insertChunks hchunk)) _ (by simp)
    rw [insertChunks_concat]
    exact (insertChunk_perm hother last.2).trans
      (((ih hread).cons last).trans (List.perm_append_singleton last read).symm)

/-- **Patterns in another order.**  However patterns under different indices are listed, they are
kept in the order of the indices. -/
theorem insertChunks_of_perm {read chunks : List (Int × Regex.Compiled)}
    (hsorted : SortedChunks chunks) (hperm : read.Perm chunks) : insertChunks read = chunks := by
  have hnodup : (read.map Prod.fst).Nodup :=
    (hperm.map Prod.fst).nodup_iff.2 (List.pairwise_map.2 (hsorted.imp Int.ne_of_lt))
  refine ((insertChunks_perm hnodup).trans hperm).eq_of_pairwise ?_ (sorted_insertChunks read)
    hsorted
  intro a b _ _ hab hba
  exact absurd (Int.lt_trans hab hba) (Int.lt_irrefl _)

end UrlPathCondition

end RequestRouting
