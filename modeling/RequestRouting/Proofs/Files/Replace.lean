import RequestRouting.Proofs.Files.Tree

/-!
# Replacing a file through a draft

A file is replaced by writing a draft, protecting it and moving it onto the file.  Writing follows a
link at the end of a path, and moving does not; so if a link lies in the place of the draft, the
link is moved, and not what has been written.  In all other cases the new contents are what is read
afterwards, provided that the path does not lead over the very place in which it ends.

## Main definitions

* `FileTree.Clear` — a tree in which a file can be replaced through a draft.

## Main results

* `FileTree.Clear.replace` — afterwards the new contents are read, and the file can be replaced
  again.
-/

set_option autoImplicit false

namespace RequestRouting

namespace FileTree

variable {tree later : FileTree} {place goal other : Location}

/-! ## Links at the end of a path -/

/-- A walk comes to the same place whether or not a link at its end is followed, unless there is
one. -/
lemma walk_false_of_true {links : Nat} {here : Location} {parts : List String}
    (h : tree.walk true links here parts = .ok place) :
    tree.walk false links here parts = .ok place ∨ ∃ last target,
      tree.walk false links here parts = .ok last ∧ tree.entry? last = some (.link target) := by
  generalize hthrough : true = through at h
  fun_induction walk tree through links here parts with
  | case1 links here =>
    rw [walk]
    exact .inl h
  | case2 links here part rest hdirectory hidle ih =>
    simp only [walk, hdirectory, if_pos hidle]
    exact ih h
  | case3 links here rest hdirectory hidle ih =>
    simp only [walk, hdirectory, if_neg hidle]
    exact ih h
  | case5 links here part rest hdirectory hidle hup hlong hnone hlast =>
    simp only [walk, hdirectory, if_neg hidle, if_neg hup, if_neg hlong, hnone, if_pos hlast]
    exact .inl h
  | case9 here part rest hdirectory hidle hup hlong target hlink hlast links ih =>
    simp only [walk, hdirectory, if_neg hidle, if_neg hup, if_neg hlong, hlink]
    by_cases hend : rest.isEmpty = true
    · simp [hend, hlink]
    · simp only [hend, Bool.false_and, if_neg, Bool.false_eq_true, not_false_eq_true]
      exact ih h
  | case10 links here part rest hdirectory hidle hup hlong entry hother hentry ih =>
    simp only [walk, hdirectory, if_neg hidle, if_neg hup, if_neg hlong]
    rw [hentry]
    cases entry with
    | link target => exact absurd rfl (hother target)
    | directory => exact ih h
    | file contents mode => exact ih h
  | case7 links here part rest hdirectory hidle hup hlong target hlink hlast =>
    subst hthrough
    simp at hlast
  | case4 | case6 | case8 | case11 => cases h

/-- A walk that ends where no link is comes to the same place if links at its end are followed. -/
lemma walk_true_of_false {links : Nat} {here : Location} {parts : List String}
    (h : tree.walk false links here parts = .ok place)
    (hlink : ∀ target, tree.entry? place ≠ some (.link target)) :
    tree.walk true links here parts = .ok place := by
  generalize hthrough : false = through at h
  fun_induction walk tree through links here parts with
  | case1 links here =>
    rw [walk]
    exact h
  | case2 links here part rest hdirectory hidle ih =>
    simp only [walk, hdirectory, if_pos hidle]
    exact ih h
  | case3 links here rest hdirectory hidle ih =>
    simp only [walk, hdirectory, if_neg hidle]
    exact ih h
  | case5 links here part rest hdirectory hidle hup hlong hnone hlast =>
    simp only [walk, hdirectory, if_neg hidle, if_neg hup, if_neg hlong, hnone, if_pos hlast]
    exact h
  | case7 links here part rest hdirectory hidle hup hlong target hfound hlast =>
    obtain rfl := Except.ok.inj h
    exact absurd hfound (hlink target)
  | case9 here part rest hdirectory hidle hup hlong target hfound hlast links ih =>
    simp only [walk, hdirectory, if_neg hidle, if_neg hup, if_neg hlong, hfound, Bool.not_true,
      Bool.and_false, Bool.false_eq_true, if_false]
    exact ih h
  | case10 links here part rest hdirectory hidle hup hlong entry hother hentry ih =>
    simp only [walk, hdirectory, if_neg hidle, if_neg hup, if_neg hlong]
    rw [hentry]
    cases entry with
    | link target => exact absurd rfl (hother target)
    | directory => exact ih h
    | file contents mode => exact ih h
  | case4 | case6 | case8 | case11 => cases h

/-- A path leads to the same place whether or not a link at its end is followed, unless there is
one. -/
lemma follow_false_of_true {path : String} (h : tree.follow true path = .ok place)
    (hlink : ∀ last target, tree.follow false path = .ok last →
      tree.entry? last ≠ some (.link target)) : tree.follow false path = .ok place := by
  unfold follow at h hlink ⊢
  split at h
  · cases h
  · split at h
    · cases h
    · next hsome hchars =>
      simp only [if_neg hsome, if_neg hchars] at hlink ⊢
      obtain hwalk | ⟨last, target, hwalk, hentry⟩ := walk_false_of_true h
      · exact hwalk
      · exact absurd hentry (hlink last target hwalk)

/-- A path that ends where no link is leads to the same place if links at its end are followed. -/
lemma follow_true_of_false {path : String} (h : tree.follow false path = .ok place)
    (hlink : ∀ target, tree.entry? place ≠ some (.link target)) :
    tree.follow true path = .ok place := by
  unfold follow at h ⊢
  split at h
  · cases h
  · split at h
    · cases h
    · next hsome hchars =>
      rw [if_neg hsome, if_neg hchars]
      exact walk_true_of_false h hlink

/-- A path of a single name leads to what lies under it in the directory where paths begin, unless
a link is to be followed there. -/
lemma follow_name {through : Bool} {path name : String}
    (hparts : Path.parts path = [name] ∨ Path.parts path = ["", name])
    (hroot : tree.workingDirectory = []) (hpath : path.isEmpty = false)
    (hchars : path.toList.contains '\x00' = false) (hsize : name.utf8ByteSize ≤ maxNameSize)
    (hname : name ≠ "" ∧ name ≠ "." ∧ name ≠ "..")
    (hlink : ∀ target, tree.entry? [name] = some (.link target) → through = false) :
    tree.follow through path = .ok [name] := by
  obtain ⟨hempty, hhere, hup⟩ := hname
  have hstart : start path tree.workingDirectory = [] := by
    unfold start
    rw [hroot, ite_self]
  have hdirectory : tree.entry? [] = some .directory := rfl
  have hwalk : tree.walk through maxLinks [] [name] = .ok [name] := by
    simp only [walk, hdirectory, hempty, hhere, hup, decide_false, Bool.or_self, Bool.false_eq_true,
      if_false, if_neg (Nat.not_lt.2 hsize), List.nil_append, List.isEmpty_nil, if_true]
    cases hentry : tree.entry? [name] with
    | none => rfl
    | some entry =>
      cases entry with
      | link target => simp [hlink target hentry]
      | directory => rfl
      | file => rfl
  unfold follow
  simp only [hpath, hchars, hstart, Bool.false_eq_true, if_false]
  obtain hparts | hparts := hparts
  · rw [hparts, hwalk]
  · rw [hparts, walk]
    simp only [hdirectory, decide_true, Bool.true_or, if_true, hwalk]

/-! ## Writing and moving -/

/-- A file can be written where nothing or a file lies. -/
lemma exists_write {path : String} (contents : ByteArray) (h : tree.follow true path = .ok place)
    (hfits : tree.Fits place) :
    ∃ mode, tree.write path contents = .ok (tree.put place (.file contents mode)) := by
  unfold write
  simp only [h, bind, Except.bind]
  obtain hentry | ⟨old, mode, hentry⟩ := hfits
  · exact ⟨newMode, by rw [hentry]⟩
  · exact ⟨mode, by rw [hentry]⟩

/-- What is moved is put where the path leads to, and taken away where it was. -/
lemma rename_eq_ok {source target : String} :
    tree.rename source target = .ok later ↔ Path.endsOpen target = false ∧
      ∃ place goal entry, tree.follow false source = .ok place ∧ tree.entry? place = some entry ∧
        entry ≠ .directory ∧ tree.follow false target = .ok goal ∧
        tree.entry? goal ≠ some .directory ∧ later = (tree.erase place).put goal entry := by
  unfold rename
  constructor
  · intro h
    cases hplace : tree.follow false source with
    | error e =>
      rw [hplace] at h
      cases h
    | ok place =>
      simp only [hplace, bind, Except.bind] at h
      split at h
      · cases h
      · cases h
      · next entry hdirectory hentry =>
        split at h
        · cases h
        · next hclosed =>
          cases hgoal : tree.follow false target with
          | error e =>
            rw [hgoal] at h
            cases h
          | ok goal =>
            simp only [hgoal] at h
            split at h
            · cases h
            · next hfree =>
              cases h
              exact ⟨Bool.not_eq_true _ ▸ hclosed, place, goal, entry, rfl, hentry, hdirectory, rfl,
                hfree, rfl⟩
  · rintro ⟨hclosed, place, goal, entry, hplace, hentry, hdirectory, hgoal, hfree, rfl⟩
    simp only [hplace, bind, Except.bind, hentry]
    cases entry with
    | directory => exact absurd rfl hdirectory
    | file contents mode => simp only [hclosed, Bool.false_eq_true, if_false, hgoal]
    | link target => simp only [hclosed, Bool.false_eq_true, if_false, hgoal]

/-! ## Replacing -/

/-- A tree in which a file can be replaced through a draft. -/
structure Clear (tree : FileTree) (draft path : String) : Prop where
  /-- No link is in the place of the draft. -/
  draft_link : ∀ place target, tree.follow false draft = .ok place →
    tree.entry? place ≠ some (.link target)
  /-- The draft and the file are where they were when a file lies where the path ends. -/
  follow_put : ∀ goal contents mode, tree.follow false path = .ok goal →
    tree.entry? goal ≠ some .directory →
    (tree.put goal (.file contents mode)).follow false path = .ok goal ∧
      ∀ place, tree.follow false draft = .ok place →
        (tree.put goal (.file contents mode)).follow false draft = .ok place

/-- A file can be replaced if no links are in its place and in the place of its draft. -/
lemma clear_of_no_links {draft path : String}
    (hdraft : ∀ place target, tree.follow false draft = .ok place →
      tree.entry? place ≠ some (.link target))
    (hpath : ∀ place target, tree.follow false path = .ok place →
      tree.entry? place ≠ some (.link target)) : tree.Clear draft path where
  draft_link := hdraft
  follow_put goal contents mode hgoal hdirectory := by
    have hsame : SameWays tree (tree.put goal (.file contents mode)) :=
      sameWays_put _ _ (fits_iff.2 ⟨hdirectory, fun target => hpath goal target hgoal⟩)
    exact ⟨hsame.follow hgoal, fun place hplace => hsame.follow hplace⟩

/-- The ways in a tree before and after a file has been moved, if it lies where it is moved to
already.  Only the place that it is moved from may differ, which is no way on. -/
lemma sameWays_move (contents : ByteArray) (mode : Nat) (hfits : tree.Fits place)
    (hgoal : goal ≠ []) : SameWays (tree.put goal (.file contents mode))
      (((tree.put place (.file contents mode)).erase place).put goal (.file contents mode)) := by
  obtain ⟨hdirectory, hlink⟩ := fits_iff.1 hfits
  refine ⟨fun other => ?_, fun other target => ?_, rfl⟩
  all_goals
    obtain rfl | hne := eq_or_ne other goal
    · simp [hgoal]
    · rw [entry?_put_of_ne hne, entry?_put_of_ne hne]
      obtain rfl | hother := eq_or_ne other place
      · simp [entry?_erase_self hfits.ne_nil, hdirectory, hlink]
      · rw [entry?_erase_of_ne hother, entry?_put_of_ne hother]

/-- **The new contents of a file that is replaced through a draft are read afterwards**, and the
file can be replaced again.

**Proof sketch.** No link is followed where the draft is written, so the draft is what is moved.
What lies where the path ends is a file from then on, and so is what lay in the place of the draft
before; neither is on the way of a path that could be followed. -/
theorem Clear.replace {draft path : String} {contents : ByteArray} {written guarded : FileTree}
    (hclear : tree.Clear draft path) (hwrite : tree.write draft contents = .ok written)
    (hprotect : written.protect draft = .ok guarded)
    (hrename : guarded.rename draft path = .ok later) :
    later.Clear draft path ∧ later.read path = .ok contents := by
  obtain ⟨place, mode, hfollow, hfits, rfl⟩ := exists_put_of_write hwrite
  obtain rfl := Except.ok.inj ((protect_put hfollow hfits).symm.trans hprotect)
  obtain ⟨-, source, goal, entry, hsource, hentry, -, hgoal, hfree, rfl⟩ := rename_eq_ok.1 hrename
  have hsame : SameWays tree (tree.put place (.file contents privateMode)) :=
    sameWays_put contents privateMode hfits
  -- what is moved is the draft
  have hdraft : tree.follow false draft = .ok place :=
    follow_false_of_true hfollow hclear.draft_link
  obtain rfl : place = source := Except.ok.inj ((hsame.follow hdraft).symm.trans hsource)
  obtain rfl : FileEntry.file contents privateMode = entry :=
    Option.some.inj ((entry?_put_self hfits.ne_nil).symm.trans hentry)
  -- it is moved to where the path ends
  rw [ne_eq, hsame.directory_iff] at hfree
  have hne : goal ≠ [] := by
    rintro rfl
    exact hfree rfl
  obtain ⟨hpath, hkept⟩ :=
    hclear.follow_put goal contents privateMode (hsame.symm.follow hgoal) hfree
  have hmoved := sameWays_move contents privateMode hfits hne
  have hend := hmoved.follow hpath
  generalize hlater : ((tree.put place (.file contents privateMode)).erase place).put goal
    (.file contents privateMode) = later at hmoved hend ⊢
  have hfile : later.entry? goal = some (.file contents privateMode) := by
    rw [← hlater]
    exact entry?_put_self hne
  refine ⟨clear_of_no_links ?_ ?_, read_eq_ok.2 ⟨goal, privateMode,
    follow_true_of_false hend fun target => by simp [hfile], hfile⟩⟩
  · intro last target hlast
    obtain rfl := Except.ok.inj ((hmoved.follow (hkept place hdraft)).symm.trans hlast)
    rw [ne_eq, hmoved.link_iff]
    obtain rfl | hplace := eq_or_ne place goal
    · simp [hne]
    · rw [entry?_put_of_ne hplace]
      exact (fits_iff.1 hfits).2 target
  · intro last target hlast
    obtain rfl := Except.ok.inj (hend.symm.trans hlast)
    simp [hfile]

end FileTree

end RequestRouting
