import RequestRouting.Proofs.Condition.Constraint
import RequestRouting.Proofs.Rule.Compilation
import RequestRouting.Proofs.Text.Split

/-!
# Path conditions

A path condition looks at a text.  It matches if its pattern occurs in the text and every chunk that
it asks for is there and matches, and what it captures stands in a fixed order: the groups of the
pattern, and then those of the chunks in the order of their indices, so that chunks which are
counted from the end come first.

## Main definitions

* `UrlPathCondition.Made` — a condition that can be made, of options or step by step.
* `UrlPathCondition.IsSubject`, `UrlPathCondition.AreChunks` — the text that a condition looks at,
  and the chunks of that text.
* `UrlPathCondition.Addresses` — the chunk that an index stands for.
* `UrlPathCondition.Accepts`, `UrlPathCondition.Captures` — what a match is, and what it captures.

## Main results

* `UrlPathCondition.evaluate_of_scalar` — the evaluation of a condition on a fact that is a scalar.
-/

set_option autoImplicit false

namespace RequestRouting

namespace UrlPathCondition

variable {condition : UrlPathCondition} {chunks : List String} {index : Int}

/-! ## Making conditions -/

/-- A condition that can be made: of a table of options, or from a blank one step by step. -/
inductive Made : UrlPathCondition → Prop where
  | ofOptions {fields : List (String × Json)} {condition : UrlPathCondition}
      (h : ofOptions fields = .ok condition) : Made condition
  | blank : Made blank
  | withSource {condition : UrlPathCondition} (h : Made condition) (source : PathSource) :
    Made { condition with source }
  | withDelimiter {condition : UrlPathCondition} (h : Made condition) (delimiter : String) :
    Made { condition with delimiter }
  | withPattern {condition : UrlPathCondition} (h : Made condition) {text : String}
      {regex : Regex.Compiled} (hregex : Regex.compile text = .ok regex) :
    Made { condition with pattern := some regex }
  | withChunk {condition : UrlPathCondition} (h : Made condition) {index : Int}
      (hindex : IndexInRange index) {text : String} {regex : Regex.Compiled}
      (hregex : Regex.compile text = .ok regex) :
    Made (condition.withChunk index regex)

/-- However a condition is made, it keeps its chunks in the order of their indices, and these are in
range. -/
lemma Made.sorted_inRange (h : condition.Made) :
    SortedChunks condition.chunks ∧ ∀ entry ∈ condition.chunks, IndexInRange entry.1 := by
  induction h with
  | ofOptions h =>
    obtain ⟨read, hread, hkept⟩ := (ofOptions_eq_ok.1 h).chunks
    rw [hkept]
    refine ⟨sorted_insertChunks read, fun entry hentry => ?_⟩
    obtain ⟨field, -, hname, -⟩ := exists_mem_of_forall₂ hread.flip (mem_insertChunks hentry)
    exact hname.inRange
  | blank => exact ⟨List.Pairwise.nil, List.forall_mem_nil _⟩
  | withSource _ _ ih | withDelimiter _ _ ih | withPattern _ _ ih => exact ih
  | withChunk _ hindex _ ih =>
    obtain ⟨hsorted, hrange⟩ := ih
    refine ⟨hsorted.insertChunk _ _, fun entry hentry => ?_⟩
    rcases mem_insertChunk hentry with rfl | hentry
    · exact hindex
    · exact hrange entry hentry

/-! ## The text of a condition -/

/-- The fact that a condition looks at. -/
def subjectFact (condition : UrlPathCondition) : String :=
  match condition.source with
  | .request => Knowledge.pathFact
  | .extra => Knowledge.extraPathFact

/-- What a condition looks at, given the text of its fact: the path of the request as it is, and the
path behind the script without the delimiters at its ends. -/
def IsSubject (condition : UrlPathCondition) (text subject : String) : Prop :=
  match condition.source with
  | .request => subject = text
  | .extra => Trims condition.delimiter.toList text.toList subject.toList

/-- The chunks of a text between the delimiters of a condition. -/
def AreChunks (condition : UrlPathCondition) (subject : String) (chunks : List String) : Prop :=
  Splits condition.delimiter.toList subject.toList (chunks.map String.toList)

/-- A delimiter that is not empty has a character. -/
lemma toList_ne_nil {delimiter : String} (h : delimiter ≠ "") : delimiter.toList ≠ [] := by
  simpa using h

/-- The text that a condition finds is the one that it looks at. -/
lemma subject_eq_ok_iff (hdelimiter : condition.delimiter ≠ "") {knowledge : Knowledge}
    {value : Json} {text subject : String}
    (hfact : knowledge.fact? condition.subjectFact = some value)
    (htext : value.display? = some text) :
    condition.subject knowledge = .ok subject ↔ condition.IsSubject text subject := by
  have hread : ∀ name, knowledge.fact? name = some value → knowledge.factText name = .ok text := by
    intro name hname
    simp [Knowledge.factText, Knowledge.fact, hname, htext]
  unfold UrlPathCondition.subject IsSubject
  unfold subjectFact at hfact
  cases hsource : condition.source with
  | request =>
    rw [hsource] at hfact
    simp [hread _ hfact, eq_comm]
  | extra =>
    rw [hsource] at hfact
    simp only [hread _ hfact, Except.map, Except.ok.injEq,
      ← trimText_eq_iff (toList_ne_nil hdelimiter), ← String.toList_inj, String.toList_ofList]

/-- The chunks that a condition finds in a text are those of the text. -/
lemma chunksOf_eq_iff (hdelimiter : condition.delimiter ≠ "") {subject : String} :
    condition.chunksOf subject = chunks ↔ condition.AreChunks subject chunks := by
  rw [AreChunks, ← splitOnText_eq_iff (toList_ne_nil hdelimiter), chunksOf]
  constructor
  · rintro rfl
    simp [Function.comp_def]
  · intro h
    simp [h, Function.comp_def]

/-! ## Chunks by their indices -/

/-- The chunk that an index stands for.  A negative index counts from the end. -/
def Addresses (chunks : List String) (index : Int) (chunk : String) : Prop :=
  ∃ position : Nat, (position : Int) = (if index < 0 then chunks.length + index else index) ∧
    chunks[position]? = some chunk

/-- As long as there are no more chunks than indices, every position has two of them. -/
lemma resolveChunkIndex_eq_some_iff {count position : Nat}
    (hcount : (count : Int) ≤ chunkIndexMax) :
    resolveChunkIndex index count = some position ↔
      (position : Int) = (if index < 0 then count + index else index) ∧ position < count := by
  unfold resolveChunkIndex
  by_cases hnegative : index < 0
  · simp only [if_pos hnegative, hcount, decide_true, Bool.true_and, decide_eq_true_eq,
      Option.ite_none_right_eq_some, Option.some.injEq]
    omega
  · simp only [if_neg hnegative, Option.ite_none_right_eq_some, Option.some.injEq]
    omega

/-- The chunk that is found for an index is the one that it stands for. -/
lemma addresses_iff (hcount : (chunks.length : Int) ≤ chunkIndexMax) {chunk : String} :
    ((resolveChunkIndex index chunks.length).bind fun position => chunks[position]?) = some chunk ↔
      Addresses chunks index chunk := by
  simp only [Option.bind_eq_some_iff, resolveChunkIndex_eq_some_iff hcount, Addresses]
  constructor
  · rintro ⟨position, ⟨hposition, -⟩, hchunk⟩
    exact ⟨position, hposition, hchunk⟩
  · rintro ⟨position, hposition, hchunk⟩
    exact ⟨position, ⟨hposition, (List.getElem?_eq_some_iff.1 hchunk).1⟩, hchunk⟩

/-! ## Matches and captures -/

/-- A condition accepts a text with its chunks: its pattern occurs in the text, if it has one, and
for every index the chunk is there and the pattern of the index occurs in it. -/
def Accepts (condition : UrlPathCondition) (subject : String) (chunks : List String) : Prop :=
  (∀ regex, condition.pattern = some regex → regex.isMatch subject) ∧
  ∀ entry ∈ condition.chunks, ∃ chunk, Addresses chunks entry.1 chunk ∧ entry.2.isMatch chunk

/-- What the pattern of an index captures: its groups, or the whole chunk if it has none. -/
def ChunkCaptures (chunks : List String) (entry : Int × Regex.Compiled) (values : List Json) :
    Prop :=
  ∃ chunk groups, Addresses chunks entry.1 chunk ∧ entry.2.captures? chunk = some groups ∧
    values = if entry.2.groupCount = 0 then [.string chunk] else groupValues groups

/-- What the pattern of the whole text captures: its groups. -/
def WholeCaptures (condition : UrlPathCondition) (subject : String) (values : List Json) : Prop :=
  match condition.pattern with
  | none => values = []
  | some regex => ∃ groups, regex.captures? subject = some groups ∧ values = groupValues groups

/-- What a condition captures of a text with its chunks, in order. -/
def Captures (condition : UrlPathCondition) (subject : String) (chunks : List String)
    (values : List Json) : Prop :=
  ∃ whole parts, condition.WholeCaptures subject whole ∧
    List.Forall₂ (ChunkCaptures chunks) condition.chunks parts ∧ values = whole ++ parts.flatten

/-- What is captured of a text as a whole. -/
lemma wholeCaptures_eq_some_iff {subject : String} {values : List Json} :
    condition.wholeCaptures subject = some values ↔ condition.WholeCaptures subject values := by
  unfold UrlPathCondition.wholeCaptures WholeCaptures
  cases condition.pattern with
  | none => simp [eq_comm]
  | some regex =>
    rw [Option.map_eq_some_iff]
    exact exists_congr fun groups => and_congr_right' eq_comm

/-- What is captured of one chunk. -/
lemma chunkCaptures_eq_some_iff (hcount : (chunks.length : Int) ≤ chunkIndexMax)
    {entry : Int × Regex.Compiled} {values : List Json} :
    chunkCaptures chunks entry = some values ↔ ChunkCaptures chunks entry values := by
  simp only [chunkCaptures, ChunkCaptures, Option.bind_eq_bind, ← Option.bind_assoc,
    ← addresses_iff hcount, chunkValues]
  constructor
  · intro h
    obtain ⟨chunk, hchunk, h⟩ := Option.bind_eq_some_iff.1 h
    obtain ⟨groups, hgroups, h⟩ := Option.bind_eq_some_iff.1 h
    exact ⟨chunk, groups, hchunk, hgroups, (Option.some.inj h).symm⟩
  · rintro ⟨chunk, groups, hchunk, hgroups, rfl⟩
    simp [hchunk, hgroups]

/-- What is captured of the first chunk stands in front of what is captured of the others. -/
lemma allChunkCaptures_cons (chunks : List String) (entry : Int × Regex.Compiled)
    (rest : List (Int × Regex.Compiled)) :
    allChunkCaptures chunks (entry :: rest) = (chunkCaptures chunks entry).bind fun values =>
      (allChunkCaptures chunks rest).map (values ++ ·) := by
  rw [allChunkCaptures, List.mapM_cons, allChunkCaptures]
  cases chunkCaptures chunks entry with
  | none => rfl
  | some values => cases rest.mapM (chunkCaptures chunks) <;> rfl

/-- What is captured of all chunks. -/
lemma allChunkCaptures_eq_some_iff (hcount : (chunks.length : Int) ≤ chunkIndexMax)
    {entries : List (Int × Regex.Compiled)} {values : List Json} :
    allChunkCaptures chunks entries = some values ↔
      ∃ parts, List.Forall₂ (ChunkCaptures chunks) entries parts ∧ values = parts.flatten := by
  induction entries generalizing values with
  | nil =>
    have hnil : allChunkCaptures chunks [] = some [] := rfl
    simp [hnil, eq_comm]
  | cons entry rest ih =>
    simp only [allChunkCaptures_cons, Option.bind_eq_some_iff, Option.map_eq_some_iff, ih,
      chunkCaptures_eq_some_iff hcount, List.forall₂_cons_left_iff]
    constructor
    · rintro ⟨first, hfirst, -, ⟨parts, hparts, rfl⟩, rfl⟩
      exact ⟨first :: parts, ⟨first, parts, hfirst, hparts, rfl⟩, rfl⟩
    · rintro ⟨-, ⟨first, parts, hfirst, hparts, rfl⟩, rfl⟩
      exact ⟨first, hfirst, _, ⟨parts, hparts, rfl⟩, rfl⟩

/-- What is captured of a text. -/
lemma capturesIn_eq_some_iff (hdelimiter : condition.delimiter ≠ "") {subject : String}
    (hchunks : condition.AreChunks subject chunks) (hcount : (chunks.length : Int) ≤ chunkIndexMax)
    {values : List Json} :
    condition.capturesIn subject = some values ↔ condition.Captures subject chunks values := by
  have hchunksOf := (chunksOf_eq_iff hdelimiter).2 hchunks
  simp only [capturesIn, hchunksOf, Option.bind_eq_some_iff, Option.map_eq_some_iff,
    wholeCaptures_eq_some_iff, allChunkCaptures_eq_some_iff hcount, Captures]
  constructor
  · rintro ⟨whole, hwhole, -, ⟨parts, hparts, rfl⟩, rfl⟩
    exact ⟨whole, parts, hwhole, hparts, rfl⟩
  · rintro ⟨whole, parts, hwhole, hparts, rfl⟩
    exact ⟨whole, hwhole, _, ⟨parts, hparts, rfl⟩, rfl⟩

/-- A condition accepts the texts of which it captures something, if only the empty list. -/
lemma accepts_iff_exists_captures {subject : String} :
    condition.Accepts subject chunks ↔ ∃ values, condition.Captures subject chunks values := by
  have hmatch (regex : Regex.Compiled) (text : String) :
      regex.isMatch text ↔ ∃ groups, regex.captures? text = some groups := by
    rw [Regex.Compiled.isMatch, Option.isSome_iff_exists]
  have hwhole : (∀ regex, condition.pattern = some regex → regex.isMatch subject) ↔
      ∃ values, condition.WholeCaptures subject values := by
    unfold WholeCaptures
    cases condition.pattern with
    | none => simp
    | some regex =>
      simp only [Option.some.injEq, forall_eq', hmatch]
      constructor
      · rintro ⟨groups, hgroups⟩
        exact ⟨_, groups, hgroups, rfl⟩
      · rintro ⟨-, groups, hgroups, rfl⟩
        exact ⟨groups, hgroups⟩
  have hchunk (entry : Int × Regex.Compiled) :
      (∃ chunk, Addresses chunks entry.1 chunk ∧ entry.2.isMatch chunk) ↔
        ∃ values, ChunkCaptures chunks entry values := by
    simp only [hmatch, ChunkCaptures]
    constructor
    · rintro ⟨chunk, haddresses, groups, hgroups⟩
      exact ⟨_, chunk, groups, haddresses, hgroups, rfl⟩
    · rintro ⟨-, chunk, groups, haddresses, hgroups, rfl⟩
      exact ⟨chunk, haddresses, groups, hgroups⟩
  simp only [Accepts, Captures, hwhole, hchunk]
  constructor
  · rintro ⟨⟨whole, hwhole⟩, hparts⟩
    obtain ⟨parts, hparts⟩ := exists_forall₂.2 hparts
    exact ⟨_, whole, parts, hwhole, hparts, rfl⟩
  · rintro ⟨-, whole, parts, hwhole, hparts, rfl⟩
    refine ⟨⟨whole, hwhole⟩, fun entry hentry => ?_⟩
    obtain ⟨values, -, hvalues⟩ := exists_mem_of_forall₂ hparts hentry
    exact ⟨values, hvalues⟩

/-! ## Evaluation -/

/-- The evaluation of a condition, given the text that it finds: it matches if something is captured
of the text, and that is appended to what has been captured before. -/
lemma evaluate_of_subject {knowledge : Knowledge} {subject : String}
    (h : condition.subject knowledge = .ok subject) :
    (condition.evaluate knowledge).1 = .ok (condition.capturesIn subject).isSome ∧
    ∀ values, condition.capturesIn subject = some values →
      (condition.evaluate knowledge).2 = knowledge.addBackreferences values := by
  have hfollows := condition.follows_evaluate knowledge
  rw [meaning, ← subject_eq, h] at hfollows
  dsimp only at hfollows
  constructor
  · rw [hfollows.fst_eq, Verdict.ofCaptures]
    cases condition.capturesIn subject <;> rfl
  · intro values hvalues
    rw [hvalues, Verdict.ofCaptures, Option.map_some] at hfollows
    rw [hfollows.snd_eq_add, Knowledge.addBackreferences_eq_withActive_add]

/-- **The evaluation of a path condition on a fact that is a scalar** never fails.  However the
condition has been made, as long as its delimiter is not empty and there are no more chunks than
indices, it matches if and only if its pattern occurs in the text, if it has one, and every index
that it has a pattern for stands for a chunk in which that pattern occurs; no sum of an index and
the number of chunks leaves the range of indices, and every position has an index from either end.

On a match the groups of the pattern are appended to what has been captured, and then, in the
strictly increasing order of the indices, the groups of the patterns of chunks, or the chunk itself
where the pattern has no groups.  Nothing else changes. -/
theorem evaluate_of_scalar (hmade : condition.Made) (hdelimiter : condition.delimiter ≠ "")
    {knowledge : Knowledge} {value : Json} {text : String}
    (hfact : knowledge.fact? condition.subjectFact = some value)
    (htext : value.display? = some text) :
    (∃ subject chunks, condition.IsSubject text subject ∧ condition.AreChunks subject chunks) ∧
    ∀ subject chunks, condition.IsSubject text subject → condition.AreChunks subject chunks →
      (chunks.length : Int) ≤ chunkIndexMax →
      SortedChunks condition.chunks ∧
      (∀ entry ∈ condition.chunks, entry.1 < 0 →
        chunkIndexMin ≤ chunks.length + entry.1 ∧ chunks.length + entry.1 ≤ chunkIndexMax) ∧
      (∀ position < chunks.length, resolveChunkIndex position chunks.length = some position ∧
        resolveChunkIndex (position - chunks.length) chunks.length = some position) ∧
      ∃ isMatch, (condition.evaluate knowledge).1 = .ok isMatch ∧
        (isMatch = true ↔ condition.Accepts subject chunks) ∧
        (isMatch = true → ∃ values, condition.Captures subject chunks values ∧
          (condition.evaluate knowledge).2 = knowledge.withActive { knowledge.active with
            backreferences := knowledge.active.backreferences ++ values }) := by
  have hfound (subject : String) :
      condition.subject knowledge = .ok subject ↔ condition.IsSubject text subject :=
    subject_eq_ok_iff hdelimiter hfact htext
  constructor
  · obtain ⟨subject, hsubject⟩ : ∃ subject, condition.subject knowledge = .ok subject := by
      unfold UrlPathCondition.subject
      unfold subjectFact at hfact
      cases hsource : condition.source <;> rw [hsource] at hfact <;>
        simp [Knowledge.factText, Knowledge.fact, hfact, htext, Except.map]
    exact ⟨subject, _, (hfound subject).1 hsubject, (chunksOf_eq_iff hdelimiter).1 rfl⟩
  intro subject chunks hsubject hchunks hcount
  obtain ⟨hsorted, hrange⟩ := hmade.sorted_inRange
  obtain ⟨hverdict, hafter⟩ := evaluate_of_subject ((hfound subject).2 hsubject)
  have hcaptures (values : List Json) :
      condition.capturesIn subject = some values ↔ condition.Captures subject chunks values :=
    capturesIn_eq_some_iff hdelimiter hchunks hcount
  refine ⟨hsorted, fun entry hentry hnegative => ?_, fun position hposition => ?_, _, hverdict,
    ?_, fun hmatch => ?_⟩
  · obtain ⟨hmin, hmax⟩ := hrange entry hentry
    omega
  · simp only [resolveChunkIndex_eq_some_iff hcount]
    omega
  · rw [accepts_iff_exists_captures, Option.isSome_iff_exists]
    exact exists_congr hcaptures
  · obtain ⟨values, hvalues⟩ := Option.isSome_iff_exists.1 hmatch
    refine ⟨values, (hcaptures values).1 hvalues, ?_⟩
    rw [hafter values hvalues, Knowledge.addBackreferences_eq]
    rfl

/-- Options with a pattern that has two groups, one of which takes no part in most matches, and
patterns for the last chunk and for the one in third place. -/
def memberTable : List (String × Json) :=
  [("chunk[-1]", .string "^edit$"), ("chunk[2]", .string "^([0-9]+)$"),
    ("pattern", .string "^/(users|groups)(!)?/")]

/-- A request for the path `/users/42/edit`. -/
def editMember : Knowledge := .forRequest "GET" "/users/42/edit"

/-- The condition of `memberTable` captures the chunk at the end, which is counted from there,
before the one in third place. -/
theorem evaluate_of_scalar_memberTable :
    ∃ condition, ofOptions memberTable = .ok condition ∧ condition.delimiter ≠ "" ∧
      editMember.fact? condition.subjectFact = some (.string "/users/42/edit") ∧
      condition.IsSubject "/users/42/edit" "/users/42/edit" ∧
      condition.AreChunks "/users/42/edit" ["", "users", "42", "edit"] ∧
      (condition.evaluate editMember).1 = .ok true ∧
      ∃ values, condition.Captures "/users/42/edit" ["", "users", "42", "edit"] values ∧
        values.map Json.display? = [some "users", none, some "edit", some "42"] := by
  have hrun : (ofOptions memberTable).toOption.any (fun condition =>
      condition.source = .request && condition.delimiter = "/" &&
      condition.chunksOf "/users/42/edit" = ["", "users", "42", "edit"] &&
      (condition.evaluate editMember).1.toOption = some true &&
      (condition.evaluate editMember).2.active.backreferences.map Json.display? =
        [some "users", none, some "edit", some "42"]) = true := by decide +kernel
  obtain ⟨condition, haccepted, htest⟩ := exists_of_any hrun
  simp only [Bool.and_eq_true, decide_eq_true_eq] at htest
  obtain ⟨⟨⟨⟨hsource, hslash⟩, hchunks⟩, hverdict⟩, hvalues⟩ := htest
  have hdelimiter : condition.delimiter ≠ "" := by
    rw [hslash]
    decide
  have hfact : editMember.fact? condition.subjectFact = some (.string "/users/42/edit") := by
    rw [subjectFact, hsource]
    rfl
  have hsubject : condition.IsSubject "/users/42/edit" "/users/42/edit" := by
    rw [IsSubject, hsource]
  have hchunks := (chunksOf_eq_iff hdelimiter).1 hchunks
  obtain ⟨-, hall⟩ := evaluate_of_scalar (.ofOptions haccepted) hdelimiter hfact rfl
  obtain ⟨-, -, -, isMatch, hanswer, -, hcaptures⟩ := hall _ _ hsubject hchunks (by decide)
  obtain rfl : isMatch = true := by
    rw [hanswer] at hverdict
    exact Option.some.inj hverdict
  obtain ⟨values, hcaptured, hafter⟩ := hcaptures rfl
  refine ⟨condition, haccepted, hdelimiter, hfact, hsubject, hchunks, hanswer, values, hcaptured,
    ?_⟩
  rw [hafter, Knowledge.active_withActive] at hvalues
  exact hvalues

end UrlPathCondition

end RequestRouting
