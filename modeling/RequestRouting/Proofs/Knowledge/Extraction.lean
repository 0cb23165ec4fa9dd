import RequestRouting.Proofs.Fields
import RequestRouting.Proofs.Knowledge.Active

/-!
# Deriving facts

The registered extractors run one after another over the committed results.  A fact that they derive
is the one that the last of them gives; but the facts of the request are never replaced, and so they
are read the same however often facts are derived.

## Main definitions

* `Extraction.latest?` — the value that runs of extractors give a name.
* `Knowledge.extractions` — the runs that would derive facts now.
* `Knowledge.Steady` — what is known later is the same, as far as the facts of the request go.
* `Knowledge.RunsOnly` — between two moments no extractors run but those of a list.
* `Knowledge.Edits` — what can be made of knowledge without registering an extractor.

## Main results

* `Knowledge.runs_extractFacts`, `Knowledge.get?_derived_extractFacts` — the runs of an extraction,
  and the derived facts behind it.
* `Knowledge.Steady.fact_eq`, `Knowledge.Steady.hasFact_eq`, `Knowledge.Steady.optionalFact_eq` —
  the facts of the request are read the same.
* `Knowledge.Edits.spares` — without new extractors nothing but those that were registered can run.
-/

set_option autoImplicit false

namespace RequestRouting

/-! ## Runs of extractors -/

namespace Extraction

/-- The value under a name that the last of some runs has given which has given one. -/
def latest? (extractions : List Extraction) (name : String) : Option Json :=
  extractions.reverse.findSome? fun extraction => extraction.output.get? name

/-- No runs give nothing. -/
@[simp] lemma latest?_nil (name : String) : latest? [] name = none := rfl

/-- Later runs go before earlier ones. -/
@[simp] lemma latest?_append (extractions later : List Extraction) (name : String) :
    latest? (extractions ++ later) name =
      (latest? later name).or (latest? extractions name) := by
  rw [latest?, List.reverse_append, List.findSome?_append]
  rfl

/-- All later runs go before the first one. -/
lemma latest?_cons (extraction : Extraction) (later : List Extraction) (name : String) :
    latest? (extraction :: later) name =
      (latest? later name).or (extraction.output.get? name) := by
  rw [← List.singleton_append, latest?_append]
  simp [latest?]

end Extraction

/-- The fields that pass a test of their names. -/
lemma Fields.get?_filter {α : Type} (test : String → Bool) (name : String)
    (fields : List (String × α)) :
    get? name (fields.filter fun field => test field.1) =
      if test name then get? name fields else none := by
  induction fields with
  | nil => simp
  | cons field rest ih =>
    obtain ⟨key, value⟩ := field
    by_cases hkey : key = name
    · subst hkey
      cases htest : test key <;> simp [htest, get?, ih]
    · cases htest : test key <;> simp [htest, get?, hkey, ih]

namespace Knowledge

/-- What is added to the derived facts are those that are not facts of the request. -/
lemma addDerived_eq_overlay (facts derived : Dict Json) (news : List (String × Json)) :
    addDerived facts derived news =
      derived.overlay (news.filter fun field => !facts.has field.1) := by
  induction news generalizing derived with
  | nil => rfl
  | cons field rest ih =>
    rw [addDerived, List.foldl_cons, ← addDerived, ih]
    cases hhas : facts.has field.1 <;> simp [hhas]

/-- The derived facts behind an addition. -/
lemma get?_addDerived (facts derived news : Dict Json) (name : String) :
    (addDerived facts derived news.entries).get? name =
      if facts.has name then derived.get? name
      else (news.get? name).or (derived.get? name) := by
  have hnames : ((news.entries.filter fun field => !facts.has field.1).map Prod.fst).Nodup :=
    news.sorted.nodup_names.sublist (List.filter_sublist.map _)
  have hfilter := Fields.get?_filter (fun name => !facts.has name) name news.entries
  rw [addDerived_eq_overlay, Dict.get?_overlay, Dict.get?_ofList hnames, hfilter]
  cases facts.has name <;> simp [Dict.get?]

/-- The runs that would derive facts now: those of all registered extractors over the committed
results. -/
def extractions (knowledge : Knowledge) : List Extraction :=
  knowledge.committed.extractors.map fun extractor => ⟨extractor, knowledge.committed.results⟩

section Extract

variable (knowledge : Knowledge) (clear : Bool)

/-- Extractors that run one after another derive facts and leave a record of their runs; nothing
else changes. -/
lemma foldl_runExtractor (extractors : List Extractor) :
    extractors.foldl runExtractor knowledge =
      { knowledge with
        derived := (extractors.foldl runExtractor knowledge).derived
        runs := knowledge.runs ++
          extractors.map fun extractor => ⟨extractor, knowledge.committed.results⟩ } := by
  induction extractors generalizing knowledge with
  | nil => simp
  | cons extractor rest ih =>
    rw [List.foldl_cons, ih]
    simp [runExtractor]

/-- What an extraction leaves: each registered extractor has run once, in order. -/
lemma extractFacts_eq : knowledge.extractFacts clear =
    { knowledge with
      derived := (knowledge.extractFacts clear).derived
      committed := { knowledge.committed with
        extractors := if clear then [] else knowledge.committed.extractors }
      runs := knowledge.runs ++ knowledge.extractions } := by
  cases clear <;>
    simp only [extractFacts, Bool.false_eq_true, if_false, if_true, extractions, mapCommitted] <;>
    rw [foldl_runExtractor]

/-- Deriving facts leaves those of the request as they are. -/
@[simp] lemma facts_extractFacts : (knowledge.extractFacts clear).facts = knowledge.facts := by
  rw [extractFacts_eq]

/-- It opens and closes no transaction. -/
@[simp] lemma staged_extractFacts : (knowledge.extractFacts clear).staged = knowledge.staged := by
  rw [extractFacts_eq]

/-- It captures nothing. -/
@[simp] lemma backreferences_extractFacts :
    (knowledge.extractFacts clear).committed.backreferences =
      knowledge.committed.backreferences := by
  rw [extractFacts_eq]

/-- The extractors that are registered behind an extraction. -/
lemma extractors_extractFacts : (knowledge.extractFacts clear).committed.extractors =
    if clear then [] else knowledge.committed.extractors := by
  rw [extractFacts_eq]

/-- **Each registered extractor runs once**, in order, over the committed results. -/
theorem runs_extractFacts :
    (knowledge.extractFacts clear).runs = knowledge.runs ++ knowledge.extractions := by
  rw [extractFacts_eq]

/-- The facts that some extractors derive one after another. -/
lemma get?_derived_foldl_runExtractor (extractors : List Extractor) (name : String) :
    (extractors.foldl runExtractor knowledge).derived.get? name =
      if knowledge.facts.has name then knowledge.derived.get? name
      else (Extraction.latest? (extractors.map fun extractor =>
        ⟨extractor, knowledge.committed.results⟩) name).or (knowledge.derived.get? name) := by
  induction extractors generalizing knowledge with
  | nil => simp
  | cons extractor rest ih =>
    rw [List.foldl_cons, ih, List.map_cons, Extraction.latest?_cons]
    simp only [runExtractor, get?_addDerived]
    cases knowledge.facts.has name <;> simp [Option.or_assoc]

/-- **The derived facts behind an extraction.**  Under the name of a fact of the request nothing
changes, and under any other name there is the value of the last run that gives one.

**Proof sketch.** Each of the registered extractors adds to what the ones before it have derived. -/
theorem get?_derived_extractFacts (name : String) :
    (knowledge.extractFacts clear).derived.get? name =
      if knowledge.facts.has name then knowledge.derived.get? name
      else (Extraction.latest? knowledge.extractions name).or (knowledge.derived.get? name) := by
  have hderived : (knowledge.extractFacts clear).derived =
      (knowledge.committed.extractors.foldl runExtractor knowledge).derived := by
    cases clear <;> rfl
  rw [hderived, get?_derived_foldl_runExtractor, extractions]

/-- Without registered extractors nothing is derived. -/
lemma derived_extractFacts_of_nil {knowledge : Knowledge}
    (h : knowledge.committed.extractors = []) :
    (knowledge.extractFacts clear).derived = knowledge.derived := by
  cases clear <;> simp [extractFacts, mapCommitted, h]

end Extract

/-! ## Facts of the request -/

/-- What is known later is the same, as far as the facts of the request go: they are the same, and
so is whatever had been derived under their names. -/
structure Steady (before after : Knowledge) : Prop where
  facts : after.facts = before.facts
  derived : ∀ name, before.facts.has name = true →
    after.derived.get? name = before.derived.get? name

/-- No derived fact has the name of a fact of the request. -/
def Apart (knowledge : Knowledge) : Prop :=
  ∀ name, knowledge.facts.has name = true → knowledge.derived.get? name = none

namespace Steady

variable {before between after : Knowledge} {name : String}

/-- What is known now is the same. -/
lemma refl (knowledge : Knowledge) : knowledge.Steady knowledge := ⟨rfl, fun _ _ => rfl⟩

/-- What stays the same for some time and then for some more stays the same. -/
lemma trans (h : before.Steady between) (h' : between.Steady after) : before.Steady after := by
  refine ⟨h'.facts.trans h.facts, fun name hname => ?_⟩
  rw [h'.derived name (by rw [h.facts, hname]), h.derived name hname]

/-- If nothing changes in the facts and the derived facts, then they stay the same. -/
lemma of_eq (hfacts : after.facts = before.facts) (hderived : after.derived = before.derived) :
    before.Steady after :=
  ⟨hfacts, fun _ _ => by rw [hderived]⟩

/-- Deriving facts leaves the facts of the request the same. -/
lemma extractFacts (knowledge : Knowledge) (clear : Bool) :
    knowledge.Steady (knowledge.extractFacts clear) :=
  ⟨facts_extractFacts .., fun name hname => by rw [get?_derived_extractFacts, if_pos hname]⟩

/-- Derived facts that are apart from those of the request stay so. -/
lemma apart (h : before.Steady after) (hapart : before.Apart) : after.Apart := by
  intro name hname
  rw [h.facts] at hname
  rw [h.derived name hname, hapart name hname]

/-- A fact of the request is found where it was. -/
lemma fact?_eq (h : before.Steady after) (hname : before.facts.has name = true) :
    after.fact? name = before.fact? name := by
  rw [fact?, fact?, h.facts, h.derived name hname]

/-- A fact of the request is read the same. -/
lemma fact_eq (h : before.Steady after) (hname : before.facts.has name = true) :
    after.fact name = before.fact name := by
  rw [fact, fact, h.fact?_eq hname]

/-- So it is where there is a default. -/
lemma optionalFact_eq (h : before.Steady after) (hname : before.facts.has name = true)
    (default : Json) : after.optionalFact name default = before.optionalFact name default := by
  rw [optionalFact, optionalFact, h.fact_eq hname]

/-- And it is still known. -/
lemma hasFact_eq (h : before.Steady after) (hname : before.facts.has name = true) :
    after.hasFact name = before.hasFact name := by
  rw [hasFact, hasFact, h.fact?_eq hname]

end Steady

/-! ## What runs between two moments -/

/-- Between two moments no extractors run but those of a list. -/
def RunsOnly (before after : Knowledge) (extractors : List Extractor) : Prop :=
  ∃ ran, after.runs = before.runs ++ ran ∧ ∀ extraction ∈ ran, extraction.extractor ∈ extractors

namespace RunsOnly

variable {before between after : Knowledge} {extractors others : List Extractor}

/-- If none runs, then none runs but those. -/
lemma of_eq (h : after.runs = before.runs) : before.RunsOnly after extractors :=
  ⟨[], by rw [h, List.append_nil], List.forall_mem_nil _⟩

/-- The list may be longer. -/
lemma mono (h : before.RunsOnly after extractors) (hsubset : extractors ⊆ others) :
    before.RunsOnly after others := by
  obtain ⟨ran, hran, hfrom⟩ := h
  exact ⟨ran, hran, fun extraction hmem => hsubset (hfrom extraction hmem)⟩

/-- If none but those run for some time and then for some more, then none but those run. -/
lemma trans (h : before.RunsOnly between extractors) (h' : between.RunsOnly after extractors) :
    before.RunsOnly after extractors := by
  obtain ⟨ran, hran, hfrom⟩ := h
  obtain ⟨more, hmore, hfrom'⟩ := h'
  refine ⟨ran ++ more, ?_, List.forall_mem_append.2 ⟨hfrom, hfrom'⟩⟩
  rw [hmore, hran, List.append_assoc]

end RunsOnly

/-! ## Edits without new extractors -/

/-- The extractors of the open transaction. -/
def stagedExtractors (knowledge : Knowledge) : List Extractor :=
  (knowledge.staged.map Layer.extractors).getD []

section Commit

variable (knowledge : Knowledge)

/-- A commit leaves the facts of the request as they are. -/
@[simp] lemma facts_commit : knowledge.commit.2.facts = knowledge.facts := by
  unfold commit
  split <;> rfl

/-- A commit derives nothing. -/
@[simp] lemma derived_commit : knowledge.commit.2.derived = knowledge.derived := by
  unfold commit
  split <;> rfl

/-- A commit runs nothing. -/
@[simp] lemma runs_commit : knowledge.commit.2.runs = knowledge.runs := by
  unfold commit
  split <;> rfl

/-- A commit registers what has been staged, behind what was registered. -/
lemma extractors_commit : knowledge.commit.2.committed.extractors =
    knowledge.committed.extractors ++ knowledge.stagedExtractors := by
  unfold commit stagedExtractors
  cases hstaged : knowledge.staged with
  | none => simp
  | some layer => simp [Layer.merge]

/-- Nothing is staged behind a commit. -/
lemma stagedExtractors_commit : knowledge.commit.2.stagedExtractors = [] := by
  unfold commit stagedExtractors
  split
  · next hstaged => simp [hstaged]
  · rfl

end Commit

/-- What edits make of knowledge that register no extractor: results are written, values are
captured, transactions are opened, committed and rolled back, in part or in whole, and facts are
derived.  To give knowledge another fact of the request is no edit of it, but makes other
knowledge. -/
inductive Edits (knowledge : Knowledge) : Knowledge → Prop where
  | nothing : Edits knowledge knowledge
  | setResult {after : Knowledge} (name : String) (value : Json) (speculative : Bool)
      (h : Edits knowledge after) : Edits knowledge (after.setResult name value speculative)
  | addBackreferences {after : Knowledge} (values : List Json) (h : Edits knowledge after) :
      Edits knowledge (after.addBackreferences values)
  | begin {after : Knowledge} (h : Edits knowledge after) : Edits knowledge after.begin
  | commit {after : Knowledge} (h : Edits knowledge after) : Edits knowledge after.commit.2
  | rollback {after : Knowledge} (h : Edits knowledge after) : Edits knowledge after.rollback
  | rollbackTo {after : Knowledge} (savepoint : Savepoint) (h : Edits knowledge after) :
      Edits knowledge (after.rollbackTo savepoint)
  | extractFacts {after : Knowledge} (clear : Bool) (h : Edits knowledge after) :
      Edits knowledge (after.extractFacts clear)

/-- What edits leave of knowledge in which no extractor is staged: the facts of the request are the
same, no other extractors are registered than before, none is staged, and no others have run; and
nothing is derived if none has run. -/
structure Spares (before after : Knowledge) : Prop where
  steady : before.Steady after
  registered : after.committed.extractors <+: before.committed.extractors
  staged : after.stagedExtractors = []
  runs : ∃ more, after.runs = before.runs ++ more ∧
    (∀ extraction ∈ more, extraction.extractor ∈ before.committed.extractors) ∧
    (more = [] → after.derived = before.derived)

namespace Spares

variable {before between after : Knowledge}

/-- Edits may follow each other. -/
lemma trans (h : before.Spares between) (h' : between.Spares after) : before.Spares after := by
  obtain ⟨more, hmore, hfrom, hderived⟩ := h.runs
  obtain ⟨later, hlater, hfrom', hderived'⟩ := h'.runs
  refine ⟨h.steady.trans h'.steady, h'.registered.trans h.registered, h'.staged, more ++ later,
    ?_, ?_, fun hnone => ?_⟩
  · rw [hlater, hmore, List.append_assoc]
  · exact List.forall_mem_append.2 ⟨hfrom, fun extraction hmem =>
      h.registered.subset (hfrom' extraction hmem)⟩
  · obtain ⟨rfl, rfl⟩ := List.append_eq_nil_iff.1 hnone
    rw [hderived' rfl, hderived rfl]

/-- None has run but those that were registered. -/
lemma runsOnly (h : before.Spares after) : before.RunsOnly after before.committed.extractors := by
  obtain ⟨more, hmore, hfrom, -⟩ := h.runs
  exact ⟨more, hmore, hfrom⟩

/-- If none has run, then nothing has been derived. -/
lemma derived_eq (h : before.Spares after) (hruns : after.runs = before.runs) :
    after.derived = before.derived := by
  obtain ⟨more, hmore, -, hderived⟩ := h.runs
  exact hderived (List.append_right_eq_self.1 (hmore.symm.trans hruns))

/-- If none was registered, then none has run. -/
lemma runs_eq (h : before.Spares after) (hnone : before.committed.extractors = []) :
    after.runs = before.runs := by
  obtain ⟨more, hmore, hfrom, -⟩ := h.runs
  rw [hnone] at hfrom
  rw [hmore, List.eq_nil_iff_forall_not_mem.2 fun extraction hmem =>
    List.not_mem_nil (hfrom extraction hmem), List.append_nil]

/-- A change of the layers that takes extractors away, or none, spares everything else. -/
lemma of_eq (hnone : before.stagedExtractors = []) (hfacts : after.facts = before.facts)
    (hderived : after.derived = before.derived) (hruns : after.runs = before.runs)
    (hregistered : after.committed.extractors <+: before.committed.extractors)
    (hstaged : after.stagedExtractors <+: before.stagedExtractors) : before.Spares after :=
  ⟨.of_eq hfacts hderived, hregistered, List.prefix_nil.1 (hnone ▸ hstaged), [], by simp [hruns],
    List.forall_mem_nil _, fun _ => hderived⟩

/-- So does a change of the active layer. -/
lemma mapActive (hnone : before.stagedExtractors = []) {change : Layer → Layer}
    (hchange : ∀ layer, (change layer).extractors <+: layer.extractors) :
    before.Spares (before.mapActive change) := by
  obtain ⟨facts, derived, committed, staged, parameters, identity, runs⟩ := before
  cases staged with
  | none => exact of_eq hnone rfl rfl rfl (hchange _) (List.prefix_refl _)
  | some layer => exact of_eq hnone rfl rfl rfl (List.prefix_refl _) (hchange _)

/-- A commit has no extractors to register. -/
lemma commit (hnone : before.stagedExtractors = []) : before.Spares before.commit.2 := by
  refine of_eq hnone (facts_commit _) (derived_commit _) (runs_commit _) ?_ ?_
  · simp [extractors_commit, hnone]
  · simp [stagedExtractors_commit]

/-- Deriving facts runs what is registered, and clears it or leaves it registered. -/
lemma extractFacts (hnone : before.stagedExtractors = []) (clear : Bool) :
    before.Spares (before.extractFacts clear) := by
  refine ⟨.extractFacts before clear, ?_, ?_, before.extractions, runs_extractFacts .., ?_,
    fun hempty => derived_extractFacts_of_nil clear (List.map_eq_nil_iff.1 hempty)⟩
  · rw [extractors_extractFacts]
    cases clear
    · exact List.prefix_refl _
    · exact List.nil_prefix
  · rwa [stagedExtractors, staged_extractFacts]
  · exact List.forall_mem_map.2 fun extractor hmem => hmem

end Spares

/-- **Without new extractors nothing but those that were registered can run.**

**Proof sketch.** Induction on the edits, one case for each of them.  A commit has no extractors to
register, and a savepoint can only take extractors away. -/
theorem Edits.spares {before after : Knowledge} (h : before.Edits after)
    (hnone : before.stagedExtractors = []) : before.Spares after := by
  induction h with
  | nothing => exact .of_eq hnone rfl rfl rfl (List.prefix_refl _) (List.prefix_refl _)
  | setResult name value speculative _ ih =>
    cases speculative with
    | false =>
      exact ih.trans (.of_eq ih.staged rfl rfl rfl (List.prefix_refl _) (List.prefix_refl _))
    | true => exact ih.trans (.mapActive ih.staged fun _ => List.prefix_refl _)
  | addBackreferences values _ ih =>
    exact ih.trans (.mapActive ih.staged fun _ => List.prefix_refl _)
  | begin _ ih =>
    exact ih.trans (.of_eq ih.staged rfl rfl rfl (List.prefix_refl _) List.nil_prefix)
  | commit _ ih => exact ih.trans (.commit ih.staged)
  | rollback _ ih =>
    exact ih.trans (.of_eq ih.staged rfl rfl rfl (List.prefix_refl _) List.nil_prefix)
  | rollbackTo savepoint _ ih =>
    -- a savepoint may come from elsewhere, but it can only cut the list of extractors
    refine ih.trans ?_
    unfold Knowledge.rollbackTo
    split
    · exact .mapActive ih.staged fun _ => List.take_prefix _ _
    · exact .of_eq ih.staged rfl rfl rfl (List.prefix_refl _) (List.prefix_refl _)
  | extractFacts clear _ ih => exact ih.trans (.extractFacts ih.staged clear)

end Knowledge

end RequestRouting
