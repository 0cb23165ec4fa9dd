import Mathlib.Data.List.Basic
import Mathlib.Tactic.Lemma
import RequestRouting.Files.Tree

/-!
# Files that are put into trees

A file that is put where nothing was, or in the place of another file, is in the way of no path:
what could be reached before is reached still, and has the same contents unless it is that very
file.

## Main definitions

* `FileTree.Fits` — nothing or a file lies at a place.
* `FileTree.SameWays` — two trees have the same directories and links.

## Main results

* `FileTree.SameWays.follow` — paths lead to the same places in trees with the same ways.
* `FileTree.follow_put` — paths lead to the same places as before.
* `FileTree.read_put` — files at other places have the same contents as before.
-/

set_option autoImplicit false

namespace RequestRouting

namespace FileTree

variable {tree : FileTree} {place other : Location} {entry : FileEntry}

/-- What is taken away lies nowhere. -/
lemma entry?_erase_self (h : place ≠ []) : FileTree.entry? (tree.erase place) place = none := by
  simp [ entry?, erase, h]

/-- Nothing else is taken away. -/
lemma entry?_erase_of_ne (h : other ≠ place) :
    FileTree.entry? (tree.erase place) other = tree.entry? other := by
  unfold entry? erase
  rw [List.find?_filter]
  congr 3
  funext item
  by_cases hitem : item.1 = other
  · simp [hitem, h]
  · simp [hitem]

/-- What has been put at a place lies there. -/
@[simp] lemma entry?_put_self (h : place ≠ []) :
    FileTree.entry? (tree.put place entry) place = some entry := by
  simp [ entry?, put, h]

/-- Nothing changes at other places. -/
lemma entry?_put_of_ne (h : other ≠ place) :
    FileTree.entry? (tree.put place entry) other = tree.entry? other := by
  have hkeep : FileTree.entry? (tree.put place entry) other =
      FileTree.entry? (tree.erase place) other := by
    simp [ entry?, put, h.symm]
  exact hkeep.trans (entry?_erase_of_ne h)

/-- What is put at a place takes the place of what was put there before. -/
@[simp] lemma put_put (first second : FileEntry) :
    (tree.put place first).put place second = tree.put place second := by
  simp [put, erase, List.filter_filter]

/-- Nothing or a file lies at a place. -/
def Fits (tree : FileTree) (place : Location) : Prop :=
  tree.entry? place = none ∨ ∃ contents mode, tree.entry? place = some (.file contents mode)

/-- The root is a directory. -/
lemma Fits.ne_nil (h : tree.Fits place) : place ≠ [] := by
  rintro rfl
  obtain h | ⟨contents, mode, h⟩ := h <;> simp [ entry?] at h

/-- Nothing or a file lies where neither a directory nor a link does. -/
lemma fits_iff : tree.Fits place ↔ tree.entry? place ≠ some .directory ∧
    ∀ target, tree.entry? place ≠ some (.link target) := by
  unfold Fits
  rcases tree.entry? place with _ | _ | _ | _ <;> simp

/-- Two trees have the same directories and the same links; what else lies in them are files. -/
structure SameWays (tree later : FileTree) : Prop where
  directory_iff (place : Location) :
    later.entry? place = some .directory ↔ tree.entry? place = some .directory
  link_iff (place : Location) (target : String) :
    later.entry? place = some (.link target) ↔ tree.entry? place = some (.link target)
  workingDirectory_eq : later.workingDirectory = tree.workingDirectory

/-- The relation is symmetric. -/
lemma SameWays.symm {later : FileTree} (hsame : SameWays tree later) : SameWays later tree where
  directory_iff place := (hsame.directory_iff place).symm
  link_iff place target := (hsame.link_iff place target).symm
  workingDirectory_eq := hsame.workingDirectory_eq.symm

/-- Nothing or a file lies at the same places. -/
lemma SameWays.fits {later : FileTree} (hsame : SameWays tree later) (h : tree.Fits place) :
    later.Fits place := by
  rw [fits_iff, ne_eq, hsame.directory_iff]
  obtain ⟨hdirectory, hlink⟩ := fits_iff.1 h
  exact ⟨hdirectory, fun target => (hsame.link_iff place target).not.2 (hlink target)⟩

/-- A file that is put where nothing or a file was leaves all ways as they are. -/
lemma sameWays_put (contents : ByteArray) (mode : Nat) (hfits : tree.Fits place) :
    SameWays tree (tree.put place (.file contents mode)) := by
  obtain ⟨hdirectory, hlink⟩ := fits_iff.1 hfits
  refine ⟨fun other => ?_, fun other target => ?_, rfl⟩
  all_goals
    obtain rfl | hne := eq_or_ne other place
    · simp [hfits.ne_nil, hdirectory, hlink]
    · rw [entry?_put_of_ne hne]

/-- A walk comes to the same place in a tree that has the same ways.

**Proof sketch.** Induction along the walk.  It comes to a file only where it ends, and it goes on
from directories and links, which are the same. -/
theorem SameWays.walk {later : FileTree} (hsame : SameWays tree later) {through : Bool}
    {links : Nat} {here : Location} {parts : List String}
    (h : tree.walk through links here parts = .ok other) :
    later.walk through links here parts = .ok other := by
  fun_induction FileTree.walk tree through links here parts with
  | case1 links here =>
    rw [FileTree.walk]
    exact h
  | case2 links here part rest hdirectory hidle ih =>
    simp only [FileTree.walk, (hsame.directory_iff _).2 hdirectory, if_pos hidle]
    exact ih h
  | case3 links here rest hdirectory hidle ih =>
    simp only [FileTree.walk, (hsame.directory_iff _).2 hdirectory, if_neg hidle]
    exact ih h
  | case5 links here part rest hdirectory hidle hup hlong hnone hlast =>
    obtain rfl := List.isEmpty_iff.1 hlast
    simp only [FileTree.walk, (hsame.directory_iff _).2 hdirectory, if_neg hidle,
      if_neg hup, if_neg hlong]
    obtain hnew | ⟨contents, mode, hnew⟩ := hsame.fits (.inl hnone)
    · simp only [hnew]
      exact h
    · simp only [hnew]
      exact h
  | case7 links here part rest hdirectory hidle hup hlong target hlink hlast =>
    simp only [FileTree.walk, (hsame.directory_iff _).2 hdirectory, if_neg hidle,
      if_neg hup, if_neg hlong, (hsame.link_iff _ _).2 hlink, if_pos hlast]
    exact h
  | case9 here part rest hdirectory hidle hup hlong target hlink hlast links ih =>
    simp only [FileTree.walk, (hsame.directory_iff _).2 hdirectory, if_neg hidle,
      if_neg hup, if_neg hlong, (hsame.link_iff _ _).2 hlink, if_neg hlast]
    exact ih h
  | case10 links here part rest hdirectory hidle hup hlong entry hother hentry ih =>
    simp only [FileTree.walk, (hsame.directory_iff _).2 hdirectory, if_neg hidle,
      if_neg hup, if_neg hlong]
    cases entry with
    | link target => exact absurd rfl (hother target)
    | directory =>
      rw [(hsame.directory_iff _).2 hentry]
      exact ih h
    | file contents mode =>
      obtain hnew | ⟨kept, keptMode, hnew⟩ := hsame.fits (.inr ⟨contents, mode, hentry⟩)
      · cases rest with
        | nil =>
          simp only [hnew, List.isEmpty_nil, if_true]
          rw [FileTree.walk] at h
          exact h
        | cons next after => simp [FileTree.walk, hentry] at h
      · rw [hnew]
        exact ih h
  | case4 | case6 | case8 | case11 => cases h

/-- Paths lead to the same places in a tree that has the same ways. -/
theorem SameWays.follow {later : FileTree} (hsame : SameWays tree later) {through : Bool}
    {path : String} (h : tree.follow through path = .ok other) :
    later.follow through path = .ok other := by
  unfold FileTree.follow at h ⊢
  split at h
  · cases h
  · split at h
    · cases h
    · next hsome hchars =>
      rw [if_neg hsome, if_neg hchars, hsame.workingDirectory_eq]
      exact hsame.walk h

/-- Paths lead to the same places as before a file was put into a tree. -/
theorem follow_put {contents : ByteArray} {mode : Nat} (hfits : tree.Fits place) {through : Bool}
    {path : String} (h : tree.follow through path = .ok other) :
    (tree.put place (.file contents mode)).follow through path = .ok other :=
  (sameWays_put contents mode hfits).follow h

/-- What a path leads to, and where. -/
lemma locate_eq_ok {path : String} :
    tree.locate path = .ok (place, entry) ↔
      tree.follow true path = .ok place ∧ tree.entry? place = some entry := by
  unfold locate
  cases tree.follow true path with
  | error e => simp [bind, Except.bind]
  | ok reached =>
    simp only [bind, Except.bind, Except.ok.injEq]
    cases hentry : tree.entry? reached with
    | none =>
      simp only [reduceCtorEq, false_iff, not_and]
      rintro rfl
      simp [hentry]
    | some found =>
      simp only [Except.ok.injEq, Prod.mk.injEq]
      constructor
      · rintro ⟨rfl, rfl⟩
        exact ⟨rfl, hentry⟩
      · rintro ⟨rfl, hfound⟩
        exact ⟨rfl, Option.some.inj (hentry.symm.trans hfound)⟩

/-- The contents of a file are those at the place that its path leads to. -/
lemma read_eq_ok {path : String} {contents : ByteArray} :
    tree.read path = .ok contents ↔ ∃ place mode, tree.follow true path = .ok place ∧
      tree.entry? place = some (.file contents mode) := by
  simp only [← locate_eq_ok]
  unfold read
  cases tree.locate path with
  | error e => simp [bind, Except.bind]
  | ok found =>
    obtain ⟨reached, entry⟩ := found
    cases entry <;> simp [bind, Except.bind]

/-- **Files at other places have the same contents as before** a file was put into a tree. -/
theorem read_put {contents kept : ByteArray} {mode : Nat} (hfits : tree.Fits place)
    {path : String} (hother : tree.follow true path ≠ .ok place)
    (h : tree.read path = .ok kept) :
    (tree.put place (.file contents mode)).read path = .ok kept := by
  obtain ⟨reached, keptMode, hfollow, hentry⟩ := read_eq_ok.1 h
  have hne : reached ≠ place := by
    rintro rfl
    exact hother hfollow
  exact read_eq_ok.2 ⟨reached, keptMode, follow_put hfits hfollow,
    (entry?_put_of_ne hne).trans hentry⟩

/-! ## Operations that put files -/

/-- What has been written is put where the path leads to. -/
lemma exists_put_of_write {path : String} {contents : ByteArray} {later : FileTree}
    (h : tree.write path contents = .ok later) :
    ∃ place mode, tree.follow true path = .ok place ∧ tree.Fits place ∧
      later = tree.put place (.file contents mode) := by
  unfold write at h
  cases hfollow : tree.follow true path with
  | error e =>
    rw [hfollow] at h
    cases h
  | ok place =>
    simp only [hfollow, bind, Except.bind] at h
    cases hentry : tree.entry? place with
    | none =>
      simp only [hentry] at h
      cases h
      exact ⟨place, newMode, rfl, .inl hentry, rfl⟩
    | some entry =>
      simp only [hentry] at h
      cases entry with
      | directory => cases h
      | link target => cases h
      | file old mode =>
        cases h
        exact ⟨place, mode, rfl, .inr ⟨old, mode, hentry⟩, rfl⟩

/-- A file that has been put where a path leads to is protected there. -/
lemma protect_put {path : String} {contents : ByteArray} {mode : Nat}
    (hfollow : tree.follow true path = .ok place) (hfits : tree.Fits place) :
    (tree.put place (.file contents mode)).protect path =
      .ok (tree.put place (.file contents privateMode)) := by
  have hlocate : (tree.put place (.file contents mode)).locate path =
      .ok (place, .file contents mode) :=
    locate_eq_ok.2 ⟨follow_put hfits hfollow, entry?_put_self hfits.ne_nil⟩
  unfold protect
  simp [hlocate, bind, Except.bind]

end FileTree

end RequestRouting
