import RequestRouting.Proofs.Condition.Path
import RequestRouting.Proofs.Condition.Soundness
import RequestRouting.Proofs.Url.Language

/-!
# Where captured values come from

Without `or` nodes it is fixed in advance what a condition captures.  Its leaves are asked in their
order, and each of them has its parts in a fixed order too: groups of patterns, whole chunks, and
placeholders.  A part that took no part in a match is captured as null, and a `not` node keeps
nothing.  So the position of a captured value tells by which part of which leaf it was captured,
whatever has been matched.

A leaf is named by its address, the numbers of the branches that lead to it from the root.

## Main definitions

* `CapturePart`, `CaptureOrigin` — a part of a leaf, and the leaf of a tree that it belongs to.
* `CaptureOrigin.value?` — what a part of a leaf captures on some evidence.
* `Condition.layout`, `Condition.captureCount` — the origins of what a condition captures, in order,
  and their number.
* `Condition.isOrFree` — whether a tree has no `or` nodes.

## Main results

* `Condition.length_layout` — there are as many origins as the leaves have parts.
* `Condition.Sound.map_some_backreferences` — what a condition captures on a match is what its
  origins capture, one after another.
-/

set_option autoImplicit false

namespace RequestRouting

/-- A part of a leaf that captures one value.  Groups and placeholders are counted from zero. -/
inductive CapturePart where
  /-- A group of the pattern of a whole path. -/
  | pathGroup (group : Nat)
  /-- A group of the pattern for the chunk with an index. -/
  | chunkGroup (index : Int) (group : Nat)
  /-- The chunk with an index, whose pattern has no groups. -/
  | chunk (index : Int)
  /-- A group of the pattern of a parameter. -/
  | paramGroup (group : Nat)
  /-- A placeholder of the template of a request. -/
  | placeholder (number : Nat)
  deriving DecidableEq

/-- Where a captured value comes from. -/
structure CaptureOrigin where
  /-- The address of the leaf: the numbers of the branches from the root to it. -/
  leaf : List Nat
  part : CapturePart
  deriving DecidableEq

/-- An origin in a tree, seen from a node of which the tree is a branch. -/
def CaptureOrigin.under (branch : Nat) (origin : CaptureOrigin) : CaptureOrigin :=
  { origin with leaf := branch :: origin.leaf }

/-! ## Parts of leaves -/

/-- The groups of a pattern as parts of a leaf. -/
def Regex.Compiled.parts (regex : Regex.Compiled) (part : Nat → CapturePart) : List CapturePart :=
  (List.range regex.groupCount).map part

namespace UrlPathCondition

/-- The parts of the pattern of a chunk: its groups, or the chunk itself if there are none. -/
def chunkParts (entry : Int × Regex.Compiled) : List CapturePart :=
  if entry.2.groupCount = 0 then [.chunk entry.1] else entry.2.parts (.chunkGroup entry.1)

/-- The parts of a path condition: the groups of its pattern, and those of the patterns of chunks in
the order of the indices. -/
def parts (condition : UrlPathCondition) : List CapturePart :=
  (match condition.pattern with
    | some regex => regex.parts .pathGroup
    | none => []) ++ condition.chunks.flatMap chunkParts

/-- The number of values that the patterns of chunks capture: that of their groups, and one for
every chunk whose pattern has none. -/
def chunkCount : List (Int × Regex.Compiled) → Nat
  | [] => 0
  | (_, regex) :: rest =>
    (if regex.groupCount = 0 then 1 else regex.groupCount) + chunkCount rest

/-- The patterns of chunks have as many parts. -/
lemma length_chunkParts (chunks : List (Int × Regex.Compiled)) :
    (chunks.flatMap chunkParts).length = chunkCount chunks := by
  induction chunks with
  | nil => rfl
  | cons entry rest ih =>
    rw [List.flatMap_cons, List.length_append, ih, chunkCount, chunkParts]
    split_ifs <;> simp [Regex.Compiled.parts]

end UrlPathCondition

/-- The parts of a parameter condition: the groups of its pattern. -/
def UrlParamsCondition.parts (condition : UrlParamsCondition) : List CapturePart :=
  match condition.operator with
  | .regexp regex => regex.parts .paramGroup
  | _ => []

/-- The parts of a request condition: the placeholders of its template. -/
def RequestCondition.parts (condition : RequestCondition) : List CapturePart :=
  match condition.path with
  | some path => (List.range path.template.placeholders.length).map .placeholder
  | none => []

/-! ## Values of parts -/

/-- What a group of a pattern captures of a text; a group that took no part captures null. -/
def Regex.Compiled.group? (regex : Regex.Compiled) (text : String) (group : Nat) : Option Json :=
  (regex.captures? text).bind fun groups => (UrlPathCondition.groupValues groups)[group]?

namespace UrlPathCondition

/-- The pattern for the chunk with an index. -/
def regexAt? (condition : UrlPathCondition) (index : Int) : Option Regex.Compiled :=
  (condition.chunks.find? fun entry => entry.1 = index).map Prod.snd

/-- The chunk of a path with an index. -/
def chunkAt? (condition : UrlPathCondition) (subject : String) (index : Int) : Option String :=
  (resolveChunkIndex index (condition.chunksOf subject).length).bind fun position =>
    (condition.chunksOf subject)[position]?

/-- What a part of a path condition captures of a path. -/
def partOf? (condition : UrlPathCondition) (subject : String) : CapturePart → Option Json
  | .pathGroup group => condition.pattern.bind (·.group? subject group)
  | .chunkGroup index group => (condition.regexAt? index).bind fun regex =>
      (condition.chunkAt? subject index).bind (regex.group? · group)
  | .chunk index => (condition.chunkAt? subject index).map .string
  | _ => none

end UrlPathCondition

/-- What a part of a leaf captures on some evidence.  Authentication conditions have no parts, and
neither have nodes that are no leaves. -/
def Condition.partOf? (condition : Condition) (evidence : Evidence) (part : CapturePart) :
    Option Json :=
  match condition, part with
  | .urlPath leaf, part => do
    let subject ← (leaf.subjectIn evidence).toOption
    leaf.partOf? subject part
  | .urlParams ⟨name, .regexp regex, scope⟩, .paramGroup group => do
    let parameters ← evidence.parameters
    let value ← parameters.get? name scope
    let text ← value.display?
    regex.group? text group
  | .request ⟨_, some path⟩, .placeholder number => do
    let raw ← (evidence.text Knowledge.pathFact).toOption
    let found ← path.template.match? (RequestCondition.withoutQuery raw)
    found.values[number]?.map fun entry => .string entry.2
  | _, _ => none

namespace Condition

/-- The condition at an address. -/
def atAddress? : List Nat → Condition → Option Condition
  | [], condition => some condition
  | branch :: rest, .bool _ conditions => conditions[branch]?.bind (atAddress? rest)
  | _ :: _, _ => none

end Condition

/-- What an origin in a tree captures on some evidence. -/
def CaptureOrigin.value? (origin : CaptureOrigin) (condition : Condition) (evidence : Evidence) :
    Option Json :=
  (condition.atAddress? origin.leaf).bind (·.partOf? evidence origin.part)

/-! ## Layouts -/

namespace Condition

mutual

/-- The origins of what a condition captures on a match, in order.  For an `or` node they are not
fixed. -/
def layout : Condition → List CaptureOrigin
  | .urlPath condition => condition.parts.map (⟨[], ·⟩)
  | .urlParams condition => condition.parts.map (⟨[], ·⟩)
  | .request condition => condition.parts.map (⟨[], ·⟩)
  | .bool .and conditions => layoutFrom 0 conditions
  | _ => []

/-- The origins of what the branches of a node capture, from the branch with a number on. -/
def layoutFrom : Nat → List Condition → List CaptureOrigin
  | _, [] => []
  | branch, condition :: rest =>
    (layout condition).map (.under branch) ++ layoutFrom (branch + 1) rest

end

mutual

/-- The number of values that a condition captures on a match: the groups, whole chunks and
placeholders of its leaves, but for those below a `not` node. -/
def captureCount : Condition → Nat
  | .urlPath condition =>
    (condition.pattern.map (·.groupCount)).getD 0 + UrlPathCondition.chunkCount condition.chunks
  | .urlParams ⟨_, .regexp regex, _⟩ => regex.groupCount
  | .request ⟨_, some path⟩ => path.template.placeholders.length
  | .bool .and conditions => captureCounts conditions
  | _ => 0

/-- The number of values that all conditions of a list capture. -/
def captureCounts : List Condition → Nat
  | [] => 0
  | condition :: rest => captureCount condition + captureCounts rest

end

mutual

/-- Whether there is no `or` node in a tree. -/
def isOrFree : Condition → Bool
  | .bool operator conditions => operator ≠ .or && areOrFree conditions
  | _ => true

/-- Whether there is no `or` node in any of several trees. -/
def areOrFree : List Condition → Bool
  | [] => true
  | condition :: rest => isOrFree condition && areOrFree rest

end

/-- Several trees have no `or` nodes if none of them has one. -/
lemma areOrFree_iff {conditions : List Condition} :
    areOrFree conditions = true ↔ ∀ condition ∈ conditions, condition.isOrFree = true := by
  induction conditions with
  | nil => simp [areOrFree]
  | cons condition rest ih => simp [areOrFree, ih]

mutual

/-- **There are as many origins as the leaves have groups, whole chunks and placeholders.** -/
theorem length_layout : ∀ condition : Condition, condition.layout.length = condition.captureCount
  | .urlPath ⟨_, _, pattern, chunks⟩ => by
    have hchunks := UrlPathCondition.length_chunkParts chunks
    cases pattern <;>
      simp [layout, captureCount, UrlPathCondition.parts, Regex.Compiled.parts, hchunks]
  | .urlParams ⟨_, operator, _⟩ => by
    cases operator <;>
      simp [layout, captureCount, UrlParamsCondition.parts, Regex.Compiled.parts]
  | .authentication _ => rfl
  | .request ⟨_, path⟩ => by
    cases path <;> simp [layout, captureCount, RequestCondition.parts]
  | .bool operator conditions => by
    cases operator with
    | and => exact length_layoutFrom 0 conditions
    | or | not => rfl
  | .custom _ => rfl

/-- The branches of a node have as many origins as their leaves have parts. -/
theorem length_layoutFrom : ∀ (branch : Nat) (conditions : List Condition),
    (layoutFrom branch conditions).length = captureCounts conditions
  | _, [] => rfl
  | branch, condition :: rest => by
    have hfirst := length_layout condition
    have hrest := length_layoutFrom (branch + 1) rest
    simp [layoutFrom, captureCounts, hfirst, hrest]

end

end Condition

/-! ## What parts capture -/

/-- A list is what stands at its positions. -/
lemma map_some_eq_map_range {α : Type} (items : List α) :
    items.map some = (List.range items.length).map fun position => items[position]? := by
  refine List.ext_getElem? fun position => ?_
  by_cases h : position < items.length <;> simp [h]

/-- The values of the groups of a pattern. -/
lemma Regex.Compiled.map_some_groupValues {regex : Regex.Compiled} {text : String}
    {groups : List (Option String)} (h : regex.captures? text = some groups) :
    (UrlPathCondition.groupValues groups).map some =
      (List.range regex.groupCount).map (regex.group? text) := by
  have hlength : (UrlPathCondition.groupValues groups).length = regex.groupCount := by
    rw [UrlPathCondition.groupValues, List.length_map, length_of_captures? h]
  rw [map_some_eq_map_range, hlength]
  exact List.map_congr_left fun group _ => by rw [group?, h, Option.bind_some]

namespace UrlPathCondition

variable {condition : UrlPathCondition} {subject : String}

/-- The pattern of a chunk is found under its index. -/
lemma regexAt?_eq_some (hsorted : SortedChunks condition.chunks) {entry : Int × Regex.Compiled}
    (hentry : entry ∈ condition.chunks) : condition.regexAt? entry.1 = some entry.2 := by
  unfold regexAt?
  generalize condition.chunks = chunks at hsorted hentry
  induction chunks with
  | nil => cases hentry
  | cons first rest ih =>
    obtain ⟨hfirst, hrest⟩ := List.pairwise_cons.1 hsorted
    rcases List.mem_cons.1 hentry with rfl | hentry
    · simp
    · have hne : first.1 ≠ entry.1 := Int.ne_of_lt (hfirst entry hentry)
      simpa [hne] using ih hrest hentry

/-- What is captured of a path as a whole is what the groups of the pattern capture. -/
lemma map_some_wholeCaptures {values : List Json}
    (h : condition.wholeCaptures subject = some values) :
    values.map some = (match condition.pattern with
      | some regex => regex.parts .pathGroup
      | none => []).map (condition.partOf? subject) := by
  unfold wholeCaptures at h
  cases hpattern : condition.pattern with
  | none =>
    rw [hpattern] at h
    cases h
    rfl
  | some regex =>
    rw [hpattern] at h
    obtain ⟨groups, hgroups, rfl⟩ := Option.map_eq_some_iff.1 h
    change _ = (regex.parts .pathGroup).map _
    rw [Regex.Compiled.map_some_groupValues hgroups, Regex.Compiled.parts, List.map_map]
    exact List.map_congr_left fun group _ => by simp [partOf?, hpattern]

/-- What is captured of a chunk is what the parts of its pattern capture. -/
lemma map_some_chunkCaptures (hsorted : SortedChunks condition.chunks)
    {entry : Int × Regex.Compiled} (hentry : entry ∈ condition.chunks) {values : List Json}
    (h : chunkCaptures (condition.chunksOf subject) entry = some values) :
    values.map some = (chunkParts entry).map (condition.partOf? subject) := by
  simp only [chunkCaptures, Option.bind_eq_bind, ← Option.bind_assoc] at h
  obtain ⟨chunk, hchunk, h⟩ := Option.bind_eq_some_iff.1 h
  obtain ⟨groups, hgroups, h⟩ := Option.bind_eq_some_iff.1 h
  obtain rfl := Option.some.inj h
  have hfound : condition.chunkAt? subject entry.1 = some chunk := hchunk
  have hregex := regexAt?_eq_some hsorted hentry
  unfold chunkValues chunkParts
  split
  · simp [partOf?, hfound]
  · rw [Regex.Compiled.map_some_groupValues hgroups, Regex.Compiled.parts, List.map_map]
    exact List.map_congr_left fun group _ => by simp [partOf?, hregex, hfound]

/-- What is captured of several chunks is what the parts of their patterns capture. -/
lemma map_some_allChunkCaptures (hsorted : SortedChunks condition.chunks)
    {entries : List (Int × Regex.Compiled)} (hentries : ∀ entry ∈ entries, entry ∈ condition.chunks)
    {values : List Json}
    (h : allChunkCaptures (condition.chunksOf subject) entries = some values) :
    values.map some = (entries.flatMap chunkParts).map (condition.partOf? subject) := by
  induction entries generalizing values with
  | nil =>
    obtain rfl : [] = values := Option.some.inj h
    rfl
  | cons entry rest ih =>
    obtain ⟨hentry, hrest⟩ := List.forall_mem_cons.1 hentries
    rw [allChunkCaptures_cons] at h
    obtain ⟨first, hfirst, h⟩ := Option.bind_eq_some_iff.1 h
    obtain ⟨later, hlater, rfl⟩ := Option.map_eq_some_iff.1 h
    rw [List.map_append, map_some_chunkCaptures hsorted hentry hfirst, ih hrest hlater,
      List.flatMap_cons, List.map_append]

/-- What a path condition captures of a path is what its parts capture. -/
lemma map_some_capturesIn (hsorted : SortedChunks condition.chunks) {values : List Json}
    (h : condition.capturesIn subject = some values) :
    values.map some = condition.parts.map (condition.partOf? subject) := by
  obtain ⟨whole, hwhole, h⟩ := Option.bind_eq_some_iff.1 h
  obtain ⟨chunks, hchunks, rfl⟩ := Option.map_eq_some_iff.1 h
  rw [List.map_append, map_some_wholeCaptures hwhole,
    map_some_allChunkCaptures hsorted (fun _ hentry => hentry) hchunks, parts, List.map_append]

end UrlPathCondition

/-- A match has one value for every placeholder of a compiled template. -/
lemma Template.length_values_of_match? {text path : String} {template : Template}
    {found : PatternMatch} (hcompiles : Template.compile text = .ok template)
    (h : template.match? path = some found) :
    found.values.length = template.placeholders.length := by
  obtain ⟨pieces, hcut, rfl⟩ := Option.map_eq_some_iff.1 h
  have hlength : pieces.length = template.placeholders.length := by
    rw [(cuts_of_cut hcut).1.length_eq, slots_of_compile hcompiles, List.length_range]
  simp [hlength]

/-! ## What leaves capture -/

section Leaves

variable {evidence : Evidence} {output : Output}

/-- A path condition captures what its parts capture. -/
lemma UrlPathCondition.Sound.map_some_backreferences {condition : UrlPathCondition}
    (hsound : condition.Sound) (h : condition.meaning evidence = .ok (some output)) :
    output.backreferences.map some =
      condition.parts.map ((Condition.urlPath condition).partOf? evidence) := by
  unfold meaning at h
  cases hsubject : condition.subjectIn evidence with
  | error e =>
    rw [hsubject] at h
    cases h
  | ok subject =>
    rw [hsubject] at h
    obtain ⟨values, hvalues, rfl⟩ := Option.map_eq_some_iff.1 (Except.ok.inj h)
    rw [map_some_capturesIn hsound.sorted hvalues]
    exact List.map_congr_left fun part _ => by
      simp [Condition.partOf?, hsubject, Except.toOption]

/-- A parameter condition captures what its parts capture. -/
lemma UrlParamsCondition.map_some_backreferences {condition : UrlParamsCondition}
    (h : condition.meaning evidence = .ok (some output)) :
    output.backreferences.map some =
      condition.parts.map ((Condition.urlParams condition).partOf? evidence) := by
  obtain ⟨name, operator, scope⟩ := condition
  obtain ⟨values, hvalues, rfl⟩ := Option.map_eq_some_iff.1 (Except.ok.inj h)
  obtain ⟨parameters, hparameters, hvalues⟩ := Option.bind_eq_some_iff.1 hvalues
  obtain ⟨value, hvalue, hvalues⟩ := Option.bind_eq_some_iff.1 hvalues
  cases operator with
  | regexp regex =>
    obtain ⟨groups, hgroups, rfl⟩ := Option.map_eq_some_iff.1 hvalues
    obtain ⟨text, htext, hgroups⟩ := Option.bind_eq_some_iff.1 hgroups
    change _ = (regex.parts .paramGroup).map _
    rw [Regex.Compiled.map_some_groupValues hgroups, Regex.Compiled.parts, List.map_map]
    exact List.map_congr_left fun group _ => by
      simp [Condition.partOf?, hparameters, hvalue, htext]
  | isSet =>
    cases hvalues
    rfl
  | isNumeric | equal =>
    obtain ⟨-, rfl⟩ := by simpa [ParamOperator.capturesIn] using hvalues
    rfl

/-- An authentication condition captures nothing. -/
lemma AuthenticationCondition.backreferences_eq_nil {condition : AuthenticationCondition}
    (h : condition.meaning evidence = .ok (some output)) : output.backreferences = [] := by
  unfold meaning at h
  split at h
  · obtain ⟨-, rfl⟩ : _ ∧ Output.none = output := by simpa [Verdict.ofBool] using h
    rfl
  · split at h
    · cases h
      rfl
    · cases h

/-- A request condition captures what its parts capture. -/
lemma RequestCondition.Sound.map_some_backreferences {condition : RequestCondition}
    (hsound : condition.Sound) (h : condition.meaning evidence = .ok (some output)) :
    output.backreferences.map some =
      condition.parts.map ((Condition.request condition).partOf? evidence) := by
  obtain ⟨methods, path⟩ := condition
  unfold meaning at h
  split at h
  · cases h
  · cases h
  cases path with
  | none =>
    cases h
    rfl
  | some path =>
    cases hraw : evidence.text Knowledge.pathFact with
    | error e =>
      rw [pathMeaning, hraw] at h
      cases h
    | ok raw =>
      rw [pathMeaning, hraw] at h
      obtain ⟨found, hfound, rfl⟩ := Option.map_eq_some_iff.1 (Except.ok.inj h)
      have hlength := Template.length_values_of_match? (hsound.path path rfl) hfound
      change _ = ((List.range path.template.placeholders.length).map _).map _
      rw [outputOf, map_some_eq_map_range, List.length_map, hlength, List.map_map]
      exact List.map_congr_left fun number _ => by
        simp [Condition.partOf?, hraw, hfound, Except.toOption]

end Leaves

/-! ## What trees capture -/

/-- A conjunction puts out what its first member does, in front of what the others do. -/
lemma Verdict.all_cons_eq_some {verdict : Verdict} {rest : List Verdict} {output : Output}
    (h : all (verdict :: rest) = .ok (some output)) :
    ∃ first later, verdict = .ok (some first) ∧ all rest = .ok (some later) ∧
      output = first.append later := by
  rcases verdict with e | _ | first
  · cases h
  · cases h
  · simp only [all] at h
    cases hrest : all rest with
    | error e =>
      rw [hrest] at h
      cases h
    | ok answer =>
      rw [hrest] at h
      obtain ⟨later, rfl, rfl⟩ := Option.map_eq_some_iff.1 (Except.ok.inj h)
      exact ⟨first, later, rfl, rfl, rfl⟩

/-- A negation puts out nothing. -/
lemma Verdict.eq_none_of_negate {verdict : Verdict} {output : Output}
    (h : verdict.negate = .ok (some output)) : output = .none := by
  rcases verdict with e | _ | _ <;> cases h
  rfl

/-- An origin in a branch captures the same when it is seen from the node. -/
lemma CaptureOrigin.value?_under {operator : BoolOperator} {conditions : List Condition}
    {branch : Nat} {condition : Condition} (h : conditions[branch]? = some condition)
    (origin : CaptureOrigin) (evidence : Evidence) :
    (origin.under branch).value? (.bool operator conditions) evidence =
      origin.value? condition evidence := by
  simp [value?, under, Condition.atAddress?, h]

namespace Condition

/-- What a list of conditions captures is what the origins in its members capture, if that is so of
each member.

**Proof sketch.** Induction on the members that are left.  The number of those in front of them is
the number of the first branch. -/
lemma map_some_backreferences_of_branches {evidence : Evidence} {operator : BoolOperator}
    (before : List Condition) {rest : List Condition}
    (h : ∀ condition ∈ rest, ∀ output, condition.meaning evidence = .ok (some output) →
      output.backreferences.map some =
        condition.layout.map fun origin => origin.value? condition evidence)
    {output : Output} (hmeaning : allMean rest evidence = .ok (some output)) :
    output.backreferences.map some = (layoutFrom before.length rest).map fun origin =>
      origin.value? (.bool operator (before ++ rest)) evidence := by
  induction rest generalizing before output with
  | nil =>
    cases hmeaning
    rfl
  | cons condition rest ih =>
    obtain ⟨hfirst, hrest⟩ := List.forall_mem_cons.1 h
    obtain ⟨first, later, hcondition, hlater, rfl⟩ := Verdict.all_cons_eq_some hmeaning
    have hbranch : (before ++ condition :: rest)[before.length]? = some condition := by simp
    have hlater := ih (before ++ [condition]) hrest hlater
    rw [List.length_append, List.append_assoc] at hlater
    rw [layoutFrom, List.map_append, List.map_map, Output.append, List.map_append,
      hfirst first hcondition]
    refine congrArg₂ _ (List.map_congr_left fun origin _ => ?_) hlater
    exact (CaptureOrigin.value?_under hbranch origin evidence).symm

/-- **What a sound condition without `or` nodes captures on a match** is what its origins capture,
one after another.

**Proof sketch.** Induction on the tree, one lemma for each kind of leaf. -/
theorem Sound.map_some_backreferences {condition : Condition} (h : condition.Sound)
    (hfree : condition.isOrFree = true) {evidence : Evidence} {output : Output}
    (hmeaning : condition.meaning evidence = .ok (some output)) :
    output.backreferences.map some =
      condition.layout.map fun origin => origin.value? condition evidence := by
  induction h generalizing output with
  | urlPath h =>
    rw [layout, List.map_map]
    exact h.map_some_backreferences hmeaning
  | urlParams h =>
    rw [layout, List.map_map]
    exact UrlParamsCondition.map_some_backreferences hmeaning
  | authentication condition =>
    rw [AuthenticationCondition.backreferences_eq_nil hmeaning]
    rfl
  | request h =>
    rw [layout, List.map_map]
    exact h.map_some_backreferences hmeaning
  | bool operator _ parts ih =>
    rw [isOrFree, Bool.and_eq_true, areOrFree_iff, decide_eq_true_eq] at hfree
    obtain ⟨hne, hparts⟩ := hfree
    cases operator with
    | and =>
      exact map_some_backreferences_of_branches []
        (fun condition hcondition output => ih condition hcondition (hparts condition hcondition))
        hmeaning
    | or => exact absurd rfl hne
    | not =>
      rw [Verdict.eq_none_of_negate hmeaning]
      rfl

/-- What an evaluation appends on a match, without `or` nodes: as many values as the condition has
origins, each captured by its own. -/
lemma Sound.exists_captured {condition : Condition} (h : condition.Sound)
    (hfree : condition.isOrFree = true) {knowledge after : Knowledge}
    (hmatch : condition.evaluate knowledge = (.ok true, after)) :
    ∃ output : Output, after = knowledge.withActive (knowledge.active.add output) ∧
      output.backreferences.length = condition.captureCount ∧
      output.backreferences.map some =
        condition.layout.map fun origin => origin.value? condition knowledge.evidence := by
  have hfollows := h.native.follows knowledge
  have hverdict := hfollows.fst_eq
  rw [hmatch] at hfollows hverdict
  cases hmeaning : condition.meaning knowledge.evidence with
  | error e =>
    rw [hmeaning] at hverdict
    cases hverdict
  | ok answer =>
    cases answer with
    | none =>
      rw [hmeaning] at hverdict
      cases hverdict
    | some output =>
      rw [hmeaning] at hfollows
      have hvalues := h.map_some_backreferences hfree hmeaning
      have hlength := congrArg List.length hvalues
      rw [List.length_map, List.length_map, length_layout] at hlength
      exact ⟨output, hfollows.snd_eq_add, hlength, hvalues⟩

end Condition

end RequestRouting
