import Mathlib.Data.List.Basic
import RequestRouting.Proofs.Rule.Extraction

/-!
# Fact extraction over runs of attempts

Attempts at rules are made one after another, each with what the one before has left.  After a
commit the registered extractors are forgotten, or kept for the commits to come; so what has run and
what has been derived in the end depends on what all attempts have staged for their commits, and on
nothing else, unless an action runs extractors or forgets them itself.

## Main definitions

* `Record`, `Knowledge.records`, `Knowledge.afterTrials` — attempts one after another.
* `Record.Undisturbed` — the actions of an attempt neither run nor forget extractors.

## Main results

* `Knowledge.registered_sublist_afterTrials`, `Knowledge.registered_afterTrials` — what is
  registered in the end.
* `Knowledge.runsOnly_afterTrials` — nothing runs that no attempt has staged for its commit.
* `Knowledge.runs_afterTrials`, `Knowledge.derived_afterTrials` — what has run and what has been
  derived in the end.
* `Knowledge.forgotten_of_records`, `Knowledge.accumulated_of_records` — what a commit runs, if
  extractors are forgotten, and if they are kept.
* `Knowledge.extraction_run` — fact extraction over any number of attempts.
* `Knowledge.not_extraction_run` — what does not hold of it.
-/

set_option autoImplicit false

namespace RequestRouting

/-! ## Records -/

/-- An attempt of a run, with what is known when it begins. -/
structure Record where
  before : Knowledge
  trial : Trial

namespace Record

/-- What is known when the attempt is over. -/
def after (record : Record) : Knowledge := record.trial.after record.before

/-- What is known when the attempt is about to commit, if it gets so far. -/
def staged? (record : Record) : Option Knowledge := record.trial.staged? record.before

/-- The extractors that are staged when the attempt commits. -/
def staging (record : Record) : List Extractor := record.trial.staging record.before

/-- The runs of extractors at the commit of the attempt. -/
def extractions (record : Record) : List Extraction := record.trial.extractions record.before

/-- The actions of the attempt run no extractors and forget none. -/
def Undisturbed (record : Record) : Prop :=
  ∀ staged, record.staged? = some staged →
    record.after.runs = (record.trial.extracted staged).runs ∧
      record.after.committed.extractors =
        (record.trial.extracted staged).committed.extractors

variable (record : Record)

/-- An attempt leaves no extractors registered but those that have been registered before, and then
those that it has staged. -/
lemma registered_prefix_after (hbehaved : record.trial.Behaved) :
    record.after.committed.extractors <+:
      record.before.committed.extractors ++ record.staging := by
  cases hstaged : record.staged? with
  | none =>
    rw [after, (hbehaved.idle hstaged).2.2.1]
    exact List.prefix_append _ _
  | some staged =>
    have hcommits := hbehaved.commits hstaged
    refine hcommits.spared.registered.trans ?_
    rw [hcommits.registered]
    cases record.trial.engine.clearExtractors
    · exact List.prefix_refl _
    · exact List.nil_prefix

/-- If extractors are kept, then all of these stay registered. -/
lemma registered_after (hbehaved : record.trial.Behaved)
    (hkeeps : record.trial.engine.clearExtractors = false) (hundisturbed : record.Undisturbed) :
    record.after.committed.extractors =
      record.before.committed.extractors ++ record.staging := by
  cases hstaged : record.staged? with
  | none =>
    rw [staging, Trial.staging_of_none hstaged, List.append_nil]
    exact (hbehaved.idle hstaged).2.2.1
  | some staged =>
    rw [(hundisturbed staged hstaged).2, (hbehaved.commits hstaged).registered, hkeeps]
    rfl

/-- If actions run none, then exactly the extractors have run that run at the commit. -/
lemma runs_after (hbehaved : record.trial.Behaved) (hundisturbed : record.Undisturbed) :
    record.after.runs = record.before.runs ++ record.extractions := by
  cases hstaged : record.staged? with
  | none =>
    have hruns : record.after.runs = record.before.runs := (hbehaved.idle hstaged).2.2.2
    rw [extractions, Trial.extractions_of_none hstaged, hruns, List.append_nil]
  | some staged =>
    rw [(hundisturbed staged hstaged).1]
    exact (hbehaved.commits hstaged).runs

/-- What an attempt leaves of the derived facts, if its actions run no extractors. -/
lemma derived_after (hbehaved : record.trial.Behaved) (hundisturbed : record.Undisturbed)
    (name : String) :
    record.after.derived.get? name =
      if record.before.facts.has name then record.before.derived.get? name
      else (Extraction.latest? record.extractions name).or
        (record.before.derived.get? name) := by
  cases hstaged : record.staged? with
  | none =>
    have hderived : record.after.derived = record.before.derived := (hbehaved.idle hstaged).2.1
    rw [extractions, Trial.extractions_of_none hstaged, hderived]
    simp
  | some staged =>
    have hcommits := hbehaved.commits hstaged
    have hderived : record.after.derived = (record.trial.extracted staged).derived :=
      hcommits.spared.derived_eq (hundisturbed staged hstaged).1
    rw [hderived]
    exact hcommits.derived name

/-- If none is registered before, then exactly those run that the attempt has staged. -/
lemma extractions_of_nil (hbehaved : record.trial.Behaved)
    (hnone : record.before.committed.extractors = []) :
    record.extractions.map Extraction.extractor = record.staging := by
  cases hstaged : record.staged? with
  | none =>
    rw [extractions, Trial.extractions_of_none hstaged, staging, Trial.staging_of_none hstaged]
    rfl
  | some staged =>
    rw [extractions, (hbehaved.commits hstaged).order, hnone, List.nil_append, staging]

variable {record}

/-- Actions that write results only disturb nothing. -/
lemma Undisturbed.of_publishesOnly
    (h : ∀ action ∈ record.trial.rule.actions,
      action.PublishesOnly record.trial.engine.handlers) : record.Undisturbed := by
  intro staged hstaged
  have hpublishes : (record.trial.extracted staged).Publishes
      (record.trial.acted staged record.trial.rule.actions) :=
    publishes_performAll h _ record.trial.book
  rw [after, Trial.after_of_staged? hstaged]
  exact ⟨hpublishes.runs_eq, hpublishes.registered_eq⟩

/-- If extractors are forgotten once they have run, then actions find none to disturb. -/
lemma Undisturbed.of_clear (hbehaved : record.trial.Behaved)
    (hclear : record.trial.engine.clearExtractors = true) : record.Undisturbed := by
  intro staged hstaged
  have hcommits := hbehaved.commits hstaged
  have hnone : (record.trial.extracted staged).committed.extractors = [] := by
    rw [hcommits.registered, hclear]
    rfl
  have hspared := hcommits.spared.registered
  rw [hnone] at hspared
  exact ⟨hcommits.spared.runs_eq hnone, (List.prefix_nil.1 hspared).trans hnone.symm⟩

/-- Then none stays registered. -/
lemma registered_after_of_clear (record : Record) (hbehaved : record.trial.Behaved)
    (hclear : record.trial.engine.clearExtractors = true)
    (hnone : record.before.committed.extractors = []) :
    record.after.committed.extractors = [] := by
  cases hstaged : record.staged? with
  | none => exact (hbehaved.idle hstaged).2.2.1.trans hnone
  | some staged =>
    rw [(Undisturbed.of_clear hbehaved hclear staged hstaged).2,
      (hbehaved.commits hstaged).registered, hclear]
    rfl

end Record

/-! ## Runs -/

namespace Knowledge

/-- The attempts of a run, each of which begins with what the one before has left. -/
def records : Knowledge → List Trial → List Record
  | _, [] => []
  | knowledge, trial :: rest => ⟨knowledge, trial⟩ :: records (trial.after knowledge) rest

/-- What is known behind attempts one after another. -/
def afterTrials (initial : Knowledge) (trials : List Trial) : Knowledge :=
  trials.foldl (fun knowledge trial => trial.after knowledge) initial

variable {initial : Knowledge} {trials : List Trial}

/-- What every attempt preserves holds whenever one begins, and at the end. -/
lemma holds_of_records (holds : Knowledge → Prop) (h : holds initial)
    (hstep : ∀ trial ∈ trials, ∀ before, holds before → holds (trial.after before)) :
    (∀ record ∈ initial.records trials, record.trial ∈ trials ∧ holds record.before) ∧
      holds (initial.afterTrials trials) := by
  induction trials generalizing initial with
  | nil => exact ⟨List.forall_mem_nil _, h⟩
  | cons trial rest ih =>
    obtain ⟨hfirst, hrest⟩ := List.forall_mem_cons.1 hstep
    obtain ⟨hrecords, hfinal⟩ := ih (hfirst initial h) hrest
    refine ⟨List.forall_mem_cons.2 ⟨⟨List.mem_cons_self, h⟩, fun record hrecord => ?_⟩, hfinal⟩
    exact ⟨List.mem_cons_of_mem _ (hrecords record hrecord).1, (hrecords record hrecord).2⟩

/-- The attempts of a run are those that were to be made. -/
lemma trial_mem_of_mem_records {record : Record} (h : record ∈ initial.records trials) :
    record.trial ∈ trials :=
  ((holds_of_records (fun _ => True) trivial fun _ _ _ _ => trivial).1 record h).1

/-- The attempts before one of them are a run, which leaves what is known when that one begins. -/
lemma exists_of_records_eq_append {past future : List Record} {record : Record}
    (h : initial.records trials = past ++ record :: future) :
    ∃ done rest, trials = done ++ record.trial :: rest ∧ past = initial.records done ∧
      record.before = initial.afterTrials done := by
  induction past generalizing initial trials with
  | nil =>
    cases trials with
    | nil => cases h
    | cons trial rest =>
      obtain ⟨rfl, -⟩ := List.cons.inj h
      exact ⟨[], rest, rfl, rfl, rfl⟩
  | cons first past ih =>
    cases trials with
    | nil => cases h
    | cons trial later =>
      obtain ⟨rfl, hlater⟩ := List.cons.inj h
      obtain ⟨done, rest, rfl, rfl, hbefore⟩ := ih hlater
      exact ⟨trial :: done, rest, rfl, rfl, hbefore⟩

/-- **Nothing is registered but what has been staged for a commit**, in the order of staging.

**Proof sketch.** Induction on the attempts, each of which registers at most what it has staged. -/
theorem registered_sublist_afterTrials (initial : Knowledge)
    (hbehaved : ∀ trial ∈ trials, trial.Behaved) :
    (initial.afterTrials trials).committed.extractors.Sublist
      (initial.committed.extractors ++ (initial.records trials).flatMap Record.staging) := by
  induction trials generalizing initial with
  | nil => exact List.sublist_append_left _ _
  | cons trial rest ih =>
    obtain ⟨hbehaves, hrest⟩ := List.forall_mem_cons.1 hbehaved
    have hfirst := (Record.registered_prefix_after ⟨initial, trial⟩ hbehaves).sublist
    refine (ih _ hrest).trans ?_
    rw [records, List.flatMap_cons, ← List.append_assoc]
    exact hfirst.append_right _

/-- **Registered extractors accumulate**, if they are kept: in the end there are those that the
attempts have staged for their commits, in their order.

**Proof sketch.** Induction on the attempts, each of which adds what it has staged. -/
theorem registered_afterTrials (initial : Knowledge)
    (hbehaved : ∀ trial ∈ trials, trial.Behaved)
    (hkeeps : ∀ trial ∈ trials, trial.engine.clearExtractors = false)
    (hundisturbed : ∀ record ∈ initial.records trials, record.Undisturbed) :
    (initial.afterTrials trials).committed.extractors =
      initial.committed.extractors ++ (initial.records trials).flatMap Record.staging := by
  induction trials generalizing initial with
  | nil => exact (List.append_nil _).symm
  | cons trial rest ih =>
    obtain ⟨hbehaves, hbehaved⟩ := List.forall_mem_cons.1 hbehaved
    obtain ⟨hkeep, hkeeps⟩ := List.forall_mem_cons.1 hkeeps
    obtain ⟨hcalm, hundisturbed⟩ := List.forall_mem_cons.1 hundisturbed
    have hfirst := Record.registered_after ⟨initial, trial⟩ hbehaves hkeep hcalm
    have hlast := ih _ hbehaved hkeeps hundisturbed
    rw [records, List.flatMap_cons, ← List.append_assoc, ← hfirst]
    exact hlast

/-- **Nothing has run but what was registered at the beginning or has been staged for a commit.**

**Proof sketch.** Induction on the attempts; what a later attempt finds registered has been there at
the beginning, or the first attempt has staged it. -/
theorem runsOnly_afterTrials (initial : Knowledge)
    (hbehaved : ∀ trial ∈ trials, trial.Behaved) :
    initial.RunsOnly (initial.afterTrials trials)
      (initial.committed.extractors ++ (initial.records trials).flatMap Record.staging) := by
  induction trials generalizing initial with
  | nil => exact .of_eq rfl
  | cons trial rest ih =>
    obtain ⟨hbehaves, hrest⟩ := List.forall_mem_cons.1 hbehaved
    have hends : trial.Reaches initial (trial.after initial) := .ended
    have hfirst := hends.runsOnly hbehaves
    have hregistered := (Record.registered_prefix_after ⟨initial, trial⟩ hbehaves).sublist
    rw [records, List.flatMap_cons, ← List.append_assoc]
    exact (hfirst.mono (List.subset_append_left _ _)).trans
      ((ih _ hrest).mono (hregistered.append_right _).subset)

/-- **What has run in the end**, if actions run no extractors: those runs that belong to the
commits, in order. -/
theorem runs_afterTrials (hbehaved : ∀ trial ∈ trials, trial.Behaved)
    (hundisturbed : ∀ record ∈ initial.records trials, record.Undisturbed) :
    (initial.afterTrials trials).runs =
      initial.runs ++ (initial.records trials).flatMap Record.extractions := by
  induction trials generalizing initial with
  | nil => exact (List.append_nil _).symm
  | cons trial rest ih =>
    obtain ⟨hbehaves, hrest⟩ := List.forall_mem_cons.1 hbehaved
    obtain ⟨hcalm, hundisturbed⟩ := List.forall_mem_cons.1 hundisturbed
    have hfirst := Record.runs_after ⟨initial, trial⟩ hbehaves hcalm
    have hlast := ih hrest hundisturbed
    rw [records, List.flatMap_cons, ← List.append_assoc, ← hfirst]
    exact hlast

/-- **What has been derived in the end**: what the last of all runs that give a name a value has
given it, and otherwise what was there at the beginning.

**Proof sketch.** Induction on the attempts; what a later attempt derives goes before what an
earlier one has derived. -/
theorem derived_afterTrials (hbehaved : ∀ trial ∈ trials, trial.Behaved)
    (hundisturbed : ∀ record ∈ initial.records trials, record.Undisturbed) (name : String) :
    (initial.afterTrials trials).derived.get? name =
      if initial.facts.has name then initial.derived.get? name
      else (Extraction.latest? ((initial.records trials).flatMap Record.extractions) name).or
        (initial.derived.get? name) := by
  induction trials generalizing initial with
  | nil => simp [afterTrials, records]
  | cons trial rest ih =>
    obtain ⟨hbehaves, hrest⟩ := List.forall_mem_cons.1 hbehaved
    obtain ⟨hcalm, hundisturbed⟩ := List.forall_mem_cons.1 hundisturbed
    have hafter : (trial.after initial).derived.get? name =
        if initial.facts.has name then initial.derived.get? name
        else (Extraction.latest? (trial.extractions initial) name).or
          (initial.derived.get? name) :=
      Record.derived_after ⟨initial, trial⟩ hbehaves hcalm name
    have hfacts : (trial.after initial).facts = initial.facts :=
      (Trial.Reaches.ended.steady hbehaves).facts
    have hlast := ih hrest hundisturbed
    rw [hfacts, hafter] at hlast
    rw [records, List.flatMap_cons, Extraction.latest?_append]
    refine hlast.trans ?_
    cases initial.facts.has name <;> simp [Option.or_assoc, Record.extractions]

/-- At some moment the facts of the request are what they were: they are the same, so that they are
read the same; and no fact with the name of one of them has been derived since. -/
structure KeepsFacts (initial moment : Knowledge) : Prop where
  facts : moment.facts = initial.facts
  derived : ∀ name, initial.facts.has name = true →
    moment.derived.get? name = initial.derived.get? name
  apart : initial.Apart → moment.Apart
  fact : ∀ name, initial.facts.has name = true → moment.fact name = initial.fact name
  optionalFact : ∀ name, initial.facts.has name = true → ∀ default,
    moment.optionalFact name default = initial.optionalFact name default
  hasFact : ∀ name, initial.facts.has name = true → moment.hasFact name = initial.hasFact name

/-- What stays the same as far as the facts of the request go keeps these facts. -/
lemma Steady.keepsFacts {moment : Knowledge} (h : initial.Steady moment) :
    initial.KeepsFacts moment :=
  ⟨h.facts, h.derived, h.apart, fun _ hname => h.fact_eq hname,
    fun _ hname => h.optionalFact_eq hname, fun _ hname => h.hasFact_eq hname⟩

/-- **The facts of the request are kept at every moment of a run.**

**Proof sketch.** They stay the same over whole attempts up to the one that the moment belongs to,
and then within this one. -/
theorem keepsFacts_of_reaches (hbehaved : ∀ trial ∈ trials, trial.Behaved) {record : Record}
    (hrecord : record ∈ initial.records trials) {moment : Knowledge}
    (hmoment : record.trial.Reaches record.before moment) : initial.KeepsFacts moment := by
  have hsteady := (holds_of_records initial.Steady (.refl initial)
    fun trial htrial before h => h.trans (Trial.Reaches.ended.steady (hbehaved trial htrial))).1
  obtain ⟨htrial, hbefore⟩ := hsteady record hrecord
  exact (hbefore.trans (hmoment.steady (hbehaved _ htrial))).keepsFacts

section Past

variable {past future : List Record} {record : Record}

/-- **Nothing has run by any moment but what has been staged for a commit**, if nothing is
registered at the beginning. -/
theorem staged_of_records (hbehaved : ∀ trial ∈ trials, trial.Behaved)
    (hnone : initial.committed.extractors = [])
    (h : initial.records trials = past ++ record :: future) :
    record.before.committed.extractors.Sublist (past.flatMap Record.staging) ∧
      ∀ moment, record.trial.Reaches record.before moment →
        initial.RunsOnly moment ((past ++ [record]).flatMap Record.staging) := by
  obtain ⟨done, rest, rfl, rfl, hbefore⟩ := exists_of_records_eq_append h
  obtain ⟨hearlier, hlater⟩ := List.forall_mem_append.1 hbehaved
  have hregistered := registered_sublist_afterTrials initial hearlier
  rw [← hbefore, hnone, List.nil_append] at hregistered
  refine ⟨hregistered, fun moment hmoment => ?_⟩
  have hpast := runsOnly_afterTrials initial hearlier
  rw [← hbefore, hnone, List.nil_append] at hpast
  rw [List.flatMap_append, List.flatMap_singleton]
  exact (hpast.mono (List.subset_append_left _ _)).trans
    ((hmoment.runsOnly (hlater _ List.mem_cons_self)).mono (hregistered.append_right _).subset)

/-- **If extractors are kept, then they accumulate**: every commit runs all that have been staged
for a commit so far, in order, and they are all that the attempt runs. -/
theorem accumulated_of_records (hbehaved : ∀ trial ∈ trials, trial.Behaved)
    (hkeeps : ∀ trial ∈ trials, trial.engine.clearExtractors = false)
    (hnone : initial.committed.extractors = [])
    (hundisturbed : ∀ record ∈ initial.records trials, record.Undisturbed)
    (h : initial.records trials = past ++ record :: future) :
    record.before.committed.extractors = past.flatMap Record.staging ∧
      record.after.runs = record.before.runs ++ record.extractions ∧
      ∀ staged, record.staged? = some staged →
        record.extractions.map Extraction.extractor =
          (past ++ [record]).flatMap Record.staging := by
  rw [h] at hundisturbed
  have hcalm := hundisturbed record (List.mem_append_right _ List.mem_cons_self)
  obtain ⟨done, rest, rfl, rfl, hbefore⟩ := exists_of_records_eq_append h
  obtain ⟨hearlier, hlater⟩ := List.forall_mem_append.1 hbehaved
  have hregistered := registered_afterTrials initial hearlier (List.forall_mem_append.1 hkeeps).1
    (List.forall_mem_append.1 hundisturbed).1
  rw [← hbefore, hnone, List.nil_append] at hregistered
  have hbehaves := hlater _ List.mem_cons_self
  refine ⟨hregistered, record.runs_after hbehaves hcalm, fun staged hstaged => ?_⟩
  rw [List.flatMap_append, List.flatMap_singleton, ← hregistered]
  exact (hbehaves.commits hstaged).order

end Past

/-- **If extractors are forgotten, then none is registered between attempts**, so that an attempt
runs what has been staged for its commit, each extractor once and in order. -/
theorem forgotten_of_records (hbehaved : ∀ trial ∈ trials, trial.Behaved)
    (hclear : ∀ trial ∈ trials, trial.engine.clearExtractors = true)
    (hnone : initial.committed.extractors = []) :
    ∀ record ∈ initial.records trials, record.before.committed.extractors = [] ∧
      record.after.committed.extractors = [] ∧ record.Undisturbed ∧
      record.after.runs = record.before.runs ++ record.extractions ∧
      record.extractions.map Extraction.extractor = record.staging := by
  have hregistered := (holds_of_records (fun knowledge => knowledge.committed.extractors = []) hnone
    fun trial htrial before h => Record.registered_after_of_clear ⟨before, trial⟩
      (hbehaved trial htrial) (hclear trial htrial) h).1
  intro record hrecord
  obtain ⟨htrial, hbefore⟩ := hregistered record hrecord
  have hbehaves := hbehaved _ htrial
  have hclears := hclear _ htrial
  have hcalm : record.Undisturbed := .of_clear hbehaves hclears
  exact ⟨hbefore, record.registered_after_of_clear hbehaves hclears hbefore, hcalm,
    record.runs_after hbehaves hcalm, record.extractions_of_nil hbehaves hbefore⟩

/-- **Fact extraction over any number of attempts.**  Let conditions stage extractors only, let
actions edit what is known and register none, and let no extractor be registered at the beginning.
Then the facts of the request are kept at every moment, and no fact is derived under the name of one
of them.  An attempt that does not commit runs no extractor, and leaves no extractor and no fact
behind; whatever has run by any moment has been staged for a commit up to then.  An attempt that
commits runs those that are registered and then those that are staged, each once, over the results
right after the commit and before its actions.

If extractors are forgotten once they have run, then none is registered before or after an attempt;
an attempt runs what has been staged for its commit, each extractor once and in order, and all in
all exactly this has run.  If they are kept, and actions neither run nor forget extractors
themselves, then those that are registered when an attempt begins are those that earlier attempts
have staged for their commits, in order, and all of them run again.  What has been derived in the
end is what the last of all runs has given.

**Proof sketch.** One attempt first, where the cases are whether it commits; then induction on the
attempts. -/
theorem extraction_run {clear : Bool} (hbehaved : ∀ trial ∈ trials, trial.Behaved)
    (hclear : ∀ trial ∈ trials, trial.engine.clearExtractors = clear)
    (hnone : initial.committed.extractors = []) :
    let records := initial.records trials
    let final := initial.afterTrials trials
    (∀ record ∈ records, ∀ moment, record.trial.Reaches record.before moment →
      initial.KeepsFacts moment) ∧
    (∀ record ∈ records, record.staged? = none →
      record.staging = [] ∧ record.after.runs = record.before.runs ∧
        record.after.derived = record.before.derived ∧
        record.after.committed.extractors = record.before.committed.extractors) ∧
    (∀ past record future, records = past ++ record :: future →
      record.before.committed.extractors.Sublist (past.flatMap Record.staging) ∧
        ∀ moment, record.trial.Reaches record.before moment →
          ∃ ran, moment.runs = initial.runs ++ ran ∧ ∀ extraction ∈ ran,
            extraction.extractor ∈ (past ++ [record]).flatMap Record.staging) ∧
    (∀ record ∈ records, ∀ staged, record.staged? = some staged →
      record.trial.Commits record.before staged) ∧
    (clear = true →
      (∀ record ∈ records, record.before.committed.extractors = [] ∧
        record.after.committed.extractors = [] ∧ record.Undisturbed ∧
        record.after.runs = record.before.runs ++ record.extractions ∧
        record.extractions.map Extraction.extractor = record.staging) ∧
      final.runs = initial.runs ++ records.flatMap Record.extractions ∧
      (records.flatMap Record.extractions).map Extraction.extractor =
        records.flatMap Record.staging) ∧
    (clear = false → (∀ record ∈ records, record.Undisturbed) →
      ∀ past record future, records = past ++ record :: future →
        record.before.committed.extractors = past.flatMap Record.staging ∧
        record.after.runs = record.before.runs ++ record.extractions ∧
        ∀ staged, record.staged? = some staged →
          record.extractions.map Extraction.extractor =
            (past ++ [record]).flatMap Record.staging) ∧
    ((∀ record ∈ records, record.Undisturbed) → ∀ name,
      final.derived.get? name =
        if initial.facts.has name then initial.derived.get? name
        else (Extraction.latest? (records.flatMap Record.extractions) name).or
          (initial.derived.get? name)) := by
  intro records final
  have hbehaves {record : Record} (h : record ∈ records) : record.trial.Behaved :=
    hbehaved _ (trial_mem_of_mem_records h)
  refine ⟨fun record hrecord moment => keepsFacts_of_reaches hbehaved hrecord,
    fun record hrecord hidle => ?_, fun past record future => staged_of_records hbehaved hnone,
    fun record hrecord staged hstaged => (hbehaves hrecord).commits hstaged, ?_, ?_,
    derived_afterTrials hbehaved⟩
  · obtain ⟨-, hderived, hregistered, hruns⟩ := (hbehaves hrecord).idle hidle
    exact ⟨Trial.staging_of_none hidle, hruns, hderived, hregistered⟩
  · rintro rfl
    have hforgotten := forgotten_of_records hbehaved hclear hnone
    refine ⟨hforgotten, runs_afterTrials hbehaved fun record hrecord =>
      (hforgotten record hrecord).2.2.1, ?_⟩
    rw [List.map_flatMap]
    exact List.flatMap_congr fun record hrecord => (hforgotten record hrecord).2.2.2.2
  · rintro rfl hundisturbed past record future
    exact accumulated_of_records hbehaved hclear hnone hundisturbed

/-- An extractor that gives a fact, and tries to tell another user. -/
def grant (name : String) : Extractor :=
  fun _ => (Dict.empty.insert name (.bool true)).insert "user" (.string "nobody")

/-- A condition with a given verdict that stages such an extractor. -/
def granting (name : String) (verdict : Bool) : Condition :=
  .custom ⟨"granting", .null, fun knowledge =>
    (.ok verdict, knowledge.addExtractor (grant name) true)⟩

/-- It stages extractors only. -/
lemma stagesExtractors_granting (name : String) (verdict : Bool) :
    (granting name verdict).StagesExtractors :=
  Condition.Speculative.stagesExtractors fun _ => .addExtractor (grant name) .nothing

/-- Conditions that do not match once they have staged an extractor. -/
def refusing : List Condition := [granting "admin" true, .bool .or []]

/-- Conditions that match by an alternative. -/
def matching : List Condition := [.bool .or [granting "guest" false, granting "member" true]]

/-- An attempt at a rule with some conditions, which writes to the log. -/
def welcome (clear : Bool) (conditions : List Condition) : Trial where
  engine := ⟨.empty, .empty, clear⟩
  rule := ⟨"welcome", none, 0, conditions, [.log "welcome"]⟩
  book := ⟨[], by decide⟩

/-- An attempt that does not match, and two behind it that do. -/
def welcomes (clear : Bool) : List Trial :=
  [welcome clear refusing, welcome clear matching, welcome clear matching]

/-- They are well-behaved. -/
lemma behaved_welcomes (clear : Bool) : ∀ trial ∈ welcomes clear, trial.Behaved := by
  have hrefusing : ∀ condition ∈ refusing, condition.StagesExtractors := by
    simp only [refusing, List.forall_mem_cons]
    exact ⟨stagesExtractors_granting _ _,
      Condition.stagesExtractors_bool _ (List.forall_mem_nil _), List.forall_mem_nil _⟩
  have hmatching : ∀ condition ∈ matching, condition.StagesExtractors := by
    refine List.forall_mem_singleton.2 (Condition.stagesExtractors_bool _ ?_)
    simp only [List.forall_mem_cons]
    exact ⟨stagesExtractors_granting _ _, stagesExtractors_granting _ _, List.forall_mem_nil _⟩
  have hactions :=
    List.forall_mem_singleton.2 (RuleAction.publishesOnly_log .empty "welcome").registersNone
  simp only [welcomes, List.forall_mem_cons]
  exact ⟨⟨hrefusing, hactions⟩, ⟨hmatching, hactions⟩, ⟨hmatching, hactions⟩,
    List.forall_mem_nil _⟩

/-- Nothing is run but what an alternative that matches has staged: once for each commit if
extractors are forgotten, and else again by the next commit.  It gives its fact, and the user stays
the same. -/
theorem extraction_run_welcomes :
    let initial : Knowledge := .ofFacts (Dict.empty.insert "user" (.string "ada"))
    let forgetful := initial.records (welcomes true)
    let final := initial.afterTrials (welcomes true)
    final.runs.map Extraction.extractor = [grant "member", grant "member"] ∧
    final.derived.get? "member" = some (.bool true) ∧ final.derived.get? "admin" = none ∧
    final.derived.get? "guest" = none ∧ final.derived.get? "user" = none ∧
    (∀ record ∈ forgetful, record.after.fact "user" = .ok (.string "ada")) ∧
    ∃ record, (initial.records (welcomes false)).getLast? = some record ∧
      record.after.runs = record.before.runs ++ record.extractions ∧
      record.extractions.map Extraction.extractor = [grant "member", grant "member"] := by
  intro initial forgetful final
  have hnone : initial.committed.extractors = [] := rfl
  have hclear (clear : Bool) : ∀ trial ∈ welcomes clear, trial.engine.clearExtractors = clear := by
    simp only [welcomes, List.forall_mem_cons]
    exact ⟨rfl, rfl, rfl, List.forall_mem_nil _⟩
  have hundisturbed : ∀ record ∈ initial.records (welcomes false), record.Undisturbed := by
    have hactions := List.forall_mem_singleton.2 (RuleAction.publishesOnly_log .empty "welcome")
    simp only [welcomes, records, List.forall_mem_cons]
    exact ⟨.of_publishesOnly hactions, .of_publishesOnly hactions, .of_publishesOnly hactions,
      List.forall_mem_nil _⟩
  obtain ⟨hkeeps, -, -, -, hforgets, -, hderived⟩ :=
    extraction_run (behaved_welcomes true) (hclear true) hnone
  obtain ⟨-, -, -, -, -, hagain, -⟩ :=
    extraction_run (behaved_welcomes false) (hclear false) hnone
  obtain ⟨hall, hruns, hstaged⟩ := hforgets rfl
  have hderived := hderived fun record hrecord => (hall record hrecord).2.2.1
  obtain ⟨-, hadded, hstagings⟩ := hagain rfl hundisturbed [_, _] _ [] rfl
  refine ⟨?_, (hderived "member").trans rfl, (hderived "admin").trans rfl,
    (hderived "guest").trans rfl, (hderived "user").trans rfl, fun record hrecord => ?_,
    _, rfl, hadded, (hstagings _ rfl).trans rfl⟩
  · rw [hruns, List.map_append, hstaged]
    rfl
  · exact ((hkeeps record hrecord _ .ended).fact "user" rfl).trans rfl

/-- Knowledge in which a fact has been derived before a fact of the same name came in. -/
def overtaken : Knowledge :=
  ((empty.addExtractor (grant "admin") false).extractFacts true).withFact "admin" (.bool false)

/-- Handlers one of which derives facts itself, and forgets the extractors. -/
def forgetting : Handlers :=
  Handlers.empty.register "forget" fun _ knowledge => .finish (knowledge.extractFacts true) (.ok ())

/-- An attempt that keeps extractors, whose action forgets them. -/
def forgetful : Trial where
  engine := ⟨forgetting, .empty, false⟩
  rule := ⟨"forgetful", none, 0, [granting "guest" true], [.handler "forget"]⟩
  book := ⟨[], by decide⟩

/-- It is well-behaved. -/
lemma behaved_forgetful : forgetful.Behaved where
  conditions := List.forall_mem_singleton.2 (stagesExtractors_granting "guest" true)
  actions := List.forall_mem_singleton.2 fun _ _ _ _ => .extractFacts true .nothing

/-- Other knowledge, with another fact of the request but the same extractors. -/
def replaced (knowledge : Knowledge) : Knowledge := knowledge.withFact "user" (.string "nobody")

/-- A condition that leaves other knowledge than it has found. -/
def replacing : Condition :=
  .custom ⟨"replacing", .null, fun knowledge => (.ok true, knowledge.replaced)⟩

/-- Two attempts that replace what is known, one by a condition and one by an action. -/
def replacements : List Trial :=
  let handlers := Handlers.empty.register "replace" fun _ knowledge =>
    .finish knowledge.replaced (.ok ())
  [welcome true [replacing],
    { engine := ⟨handlers, .empty, true⟩
      rule := ⟨"replace", none, 0, matching, [.handler "replace"]⟩
      book := ⟨[], by decide⟩ }]

/-- **Four things do not hold of fact extraction.**  A derived fact may have the name of a fact of
the request, if that has come in later.  The facts of the request may change although nothing is
staged or registered, as a condition or an action may leave other knowledge than it has found.
Extractors that are kept need not accumulate, as an action may derive facts and forget them.  And an
extractor that an attempt has staged need not run although the attempt commits: an alternative that
does not match takes it back. -/
theorem not_extraction_run :
    (overtaken.committed.extractors = [] ∧ overtaken.facts.has "admin" = true ∧
      overtaken.derived.get? "admin" = some (.bool true)) ∧
    ((∀ knowledge : Knowledge, knowledge.replaced.committed.extractors =
        knowledge.committed.extractors ∧
          knowledge.replaced.stagedExtractors = knowledge.stagedExtractors) ∧
      empty.facts.has "user" = false ∧
      ∀ trial ∈ replacements, (trial.after empty).facts.has "user" = true) ∧
    ((∀ trial ∈ [forgetful, welcome false matching], trial.Behaved) ∧
      (empty.records [forgetful, welcome false matching]).map Record.staging =
        [[grant "guest"], [grant "member"]] ∧
      (empty.afterTrials [forgetful, welcome false matching]).committed.extractors =
        [grant "member"]) ∧
    ((granting "guest" false).evaluate empty.begin =
        (.ok false, empty.begin.addExtractor (grant "guest") true) ∧
      ((welcome true matching).staged? empty).isSome = true ∧
      ((welcome true matching).after empty).runs.map Extraction.extractor = [grant "member"] ∧
      ((welcome true matching).after empty).fact "guest" = .error (.missingFact "guest")) := by
  have hreplacements : ∀ trial ∈ replacements, (trial.after empty).facts.has "user" = true := by
    simp only [replacements, List.forall_mem_cons]
    exact ⟨rfl, rfl, List.forall_mem_nil _⟩
  have hbehaved : ∀ trial ∈ [forgetful, welcome false matching], trial.Behaved :=
    List.forall_mem_cons.2 ⟨behaved_forgetful, List.forall_mem_singleton.2 <|
      behaved_welcomes false _ (List.mem_cons_of_mem _ List.mem_cons_self)⟩
  exact ⟨⟨rfl, rfl, rfl⟩, ⟨fun _ => ⟨rfl, rfl⟩, rfl, hreplacements⟩, ⟨hbehaved, rfl, rfl⟩,
    rfl, rfl, rfl, rfl⟩

end Knowledge

end RequestRouting
