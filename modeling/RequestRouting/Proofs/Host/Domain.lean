import RequestRouting.Host.Domain
import RequestRouting.Proofs.Host.Punycode
import RequestRouting.Proofs.Steps
import RequestRouting.Proofs.Text.Split
import RequestRouting.Proofs.Unicode.Direction

/-!
# Domain names are canonical

The ASCII form of a domain name is its own ASCII form: every label is read back to the Unicode form
that it was written from.  There is one exception, which the limits on the length of labels bring
about.  A label may be short enough to be written, and its code too long to be read.

## Main definitions

* `Domain.Admissible` — the Unicode forms of labels.
* `Domain.isCompact` — whether all codes in a name are short enough to be read.

## Main results

* `Domain.readLabel?_labelToAscii` — the ASCII form of a label is read back.
* `Domain.toAscii?_of_toAscii?` — the ASCII form of an ASCII form.
* `Domain.toAscii?_eq_self` — the ASCII form of a name without codes.
-/

set_option autoImplicit false

namespace RequestRouting

namespace Domain

open Punycode (isAscii)

/-! ## Characters -/

/-- A character that is not forbidden is in lower case. -/
lemma toLower_eq_self {c : Char} (h : isForbidden c = false) : c.toLower = c := by
  have hupper : c.isUpper = false := by
    cases hc : c.isUpper
    · rfl
    · simp [isForbidden, hc] at h
  have hrange : ¬(c.val ≥ 'A'.val ∧ c.val ≤ 'Z'.val) := of_decide_eq_false hupper
  exact dif_neg hrange

/-- A character of the ASCII form of a name. -/
def IsNameChar (c : Char) : Prop := isAscii c ∧ isForbidden c = false

/-- A character of a label: one of a name, and no point. -/
def IsLabelChar (c : Char) : Prop := IsNameChar c ∧ c ≠ '.'

/-- Which characters occur in labels is computed. -/
lemma isLabelChar_of_all {text : List Char}
    (h : text.all (fun c => isAscii c && !isForbidden c && c != '.') = true) :
    ∀ c ∈ text, IsLabelChar c := by
  intro c hc
  have hgood := List.all_eq_true.1 h c hc
  simp only [Bool.and_eq_true, Bool.not_eq_true', bne_iff_ne] at hgood
  exact hgood

/-- The characters of codes may occur in labels. -/
lemma isLabelChar_of_mem_digitChars : ∀ c ∈ Punycode.digitChars, IsLabelChar c :=
  isLabelChar_of_all (by decide)

/-- The hyphen may occur in labels. -/
lemma isLabelChar_hyphen : IsLabelChar '-' := by
  unfold IsLabelChar IsNameChar
  decide

/-- The characters of the prefix of codes may occur in labels. -/
lemma isLabelChar_of_mem_codePrefix : ∀ c ∈ codePrefix, IsLabelChar c :=
  isLabelChar_of_all (by decide)

/-- A composed name of characters that stand for themselves is mapped to itself. -/
lemma map?_eq_self {text : List Char} (himage : ∀ c ∈ text, mapChar? c = some [c])
    (hnormal : Unicode.normalize text = text) (hforbidden : ∀ c ∈ text, isForbidden c = false) :
    map? text = some text := by
  have himages : text.mapM mapChar? = some (text.map fun c => [c]) := by
    rw [mapM_eq_some_iff, List.forall₂_map_right_iff, List.forall₂_same]
    exact himage
  have hflatten : (text.map fun c => [c]).flatten = text := by
    rw [← List.flatMap_def, List.flatMap_singleton']
  have hany : ¬ text.any isForbidden = true := by simpa using hforbidden
  simp only [map?, himages, Option.bind_eq_bind, Option.bind_some, hflatten, hnormal, hany,
    Bool.false_eq_true, ↓reduceIte]

/-- There are no forbidden characters in what is mapped. -/
lemma isForbidden_of_mem_map? {text mapped : List Char} (h : map? text = some mapped) {c : Char}
    (hc : c ∈ mapped) : isForbidden c = false := by
  simp only [map?, Option.bind_eq_bind, Option.bind_eq_some_iff] at h
  obtain ⟨images, -, h⟩ := h
  split at h
  · cases h
  · rename_i hany
    cases h
    exact Bool.eq_false_iff.2 fun hforbidden => hany (List.any_eq_true.2 ⟨c, hc, hforbidden⟩)

/-- A name of ASCII characters that are not forbidden is mapped to itself. -/
lemma map?_of_isNameChar {text : List Char} (h : ∀ c ∈ text, IsNameChar c) :
    map? text = some text := by
  have hascii : ∀ c ∈ text, c.toNat < 0x80 := fun c hc => of_decide_eq_true (h c hc).1
  refine map?_eq_self (fun c hc => ?_) ?_ fun c hc => (h c hc).2
  · rw [mapChar?, if_pos (hascii c hc), toLower_eq_self (h c hc).2]
  · rw [Unicode.normalize, if_pos]
    simpa using hascii

/-! ## Labels -/

/-- A label that is not too long to be read, if it is code. -/
def isCompactLabel (label : List Char) : Bool :=
  (stripStart? codePrefix label).all fun coded => decide (coded.length ≤ maxCodeLength)

/-- A text is the Unicode form of a label: it does not look like code, it is plain ASCII or sound,
and its ASCII characters are those of labels. -/
structure Admissible (label : List Char) : Prop where
  notCode : stripStart? codePrefix label = none
  sound : isAsciiLabel label = true ∨ isSound label = true
  plain : ∀ c ∈ label, isAscii c → IsLabelChar c

/-- What a code is read as. -/
lemma readCode?_eq_some {coded label : List Char} :
    readCode? coded = some label ↔ coded.length ≤ maxCodeLength ∧
      Punycode.decode? coded = some label ∧ isAsciiLabel label = false ∧
      stripStart? codePrefix label = none ∧ isSound label = true := by
  unfold readCode?
  split
  · simp only [reduceCtorEq, false_iff, not_and]
    omega
  · simp only [Option.filter_eq_some_iff, Bool.and_eq_true, Bool.not_eq_true',
      Option.isNone_iff_eq_none]
    constructor
    · rintro ⟨hdecode, ⟨hascii, hcode⟩, hsound⟩
      exact ⟨by omega, hdecode, hascii, hcode, hsound⟩
    · rintro ⟨-, hdecode, hascii, hcode, hsound⟩
      exact ⟨hdecode, ⟨hascii, hcode⟩, hsound⟩

/-- What is read is the Unicode form of a label. -/
lemma admissible_of_readLabel? {text label : List Char} (h : readLabel? text = some label)
    (htext : ∀ c ∈ text, isAscii c → IsLabelChar c) : Admissible label := by
  unfold readLabel? at h
  split at h
  · rename_i coded hcoded
    obtain ⟨-, hdecode, -, hcode, hsound⟩ := readCode?_eq_some.1 h
    refine ⟨hcode, .inr hsound, fun c hc hascii => htext c ?_ hascii⟩
    rw [eq_append_of_stripStart? hcoded]
    exact List.mem_append_right _ (Punycode.mem_of_decode? hdecode hc hascii)
  · rename_i hcode
    split at h
    · rename_i hlabel
      cases h
      exact ⟨hcode, by simpa using hlabel, htext⟩
    · cases h

/-- A code that is too long is not read. -/
lemma readLabel?_eq_none {label : List Char} (h : isCompactLabel label = false) :
    readLabel? label = none := by
  unfold isCompactLabel at h
  unfold readLabel?
  cases hcoded : stripStart? codePrefix label with
  | none => simp [hcoded] at h
  | some coded =>
    have hlong : maxCodeLength < coded.length := by simpa [hcoded] using h
    simp [readCode?, hlong]

namespace Admissible

variable {label : List Char}

/-- A label beyond ASCII is sound. -/
lemma isSound (h : Admissible label) (hascii : isAsciiLabel label = false) :
    Domain.isSound label = true := by
  rcases h.sound with hplain | hsound
  · rw [hascii] at hplain
    cases hplain
  · exact hsound

/-- A label beyond ASCII is short enough for its code to be read back. -/
lemma length_le (h : Admissible label) (hascii : isAsciiLabel label = false) :
    label.length ≤ Punycode.maxTextLength := by
  have hsound := h.isSound hascii
  simp only [Domain.isSound, Bool.and_eq_true, decide_eq_true_eq] at hsound
  have := hsound.1.1.1.1
  simp only [maxLength, Punycode.maxTextLength] at *
  omega

/-- The ASCII form of a label has the characters of labels. -/
lemma isLabelChar_of_mem (h : Admissible label) {c : Char} (hc : c ∈ labelToAscii label) :
    IsLabelChar c := by
  unfold labelToAscii at hc
  split at hc
  · rename_i hascii
    exact h.plain c hc (List.all_eq_true.1 hascii c hc)
  · rename_i hascii
    rcases List.mem_append.1 hc with hprefix | hcode
    · exact isLabelChar_of_mem_codePrefix c hprefix
    · rcases Punycode.mem_encode (h.length_le (by simpa using hascii)) hcode with
        ⟨hmem, hplain⟩ | rfl | hdigit
      · exact h.plain c hmem hplain
      · exact isLabelChar_hyphen
      · exact isLabelChar_of_mem_digitChars c hdigit

/-- **The ASCII form of a label is read back**, if it is not too long.

**Proof sketch.** A label in ASCII does not look like code.  The code of any other one is decoded to
the label, which has passed the checks before. -/
theorem readLabel?_labelToAscii (h : Admissible label)
    (hcompact : isCompactLabel (labelToAscii label) = true) :
    readLabel? (labelToAscii label) = some label := by
  cases hascii : isAsciiLabel label with
  | true => simp [labelToAscii, hascii, readLabel?, h.notCode]
  | false =>
    have hform : labelToAscii label = codePrefix ++ Punycode.encode label := by
      simp [labelToAscii, hascii]
    rw [hform, isCompactLabel, stripStart?_append, Option.all_some, decide_eq_true_eq] at hcompact
    rw [hform, readLabel?, stripStart?_append]
    exact readCode?_eq_some.2 ⟨hcompact, Punycode.decode?_encode (h.length_le hascii), hascii,
      h.notCode, h.isSound hascii⟩

end Admissible

/-! ## Names -/

/-- Whether the codes of a name are short enough to be read. -/
def isCompact (name : List Char) : Bool := (splitOnChar '.' name).all isCompactLabel

/-- The labels of a name, with what is known of them. -/
lemma readLabels?_eq_some {text : List Char} {labels : List (List Char)}
    (h : readLabels? text = some labels) :
    labels ≠ [] ∧ (∀ label ∈ labels, Admissible label) ∧
      (labels.any hasRightToLeft && !labels.all followsDirection) = false := by
  simp only [readLabels?, Option.bind_eq_bind, Option.bind_eq_some_iff] at h
  obtain ⟨mapped, hmap, labels', hread, hdirections⟩ := h
  have hread := mapM_eq_some_iff.1 hread
  obtain ⟨hfollow, rfl⟩ : (labels'.any hasRightToLeft && !labels'.all followsDirection) = false
      ∧ labels' = labels := by
    split at hdirections
    · cases hdirections
    · rename_i hfollow
      exact ⟨Bool.eq_false_iff.2 hfollow, Option.some.inj hdirections⟩
  refine ⟨?_, fun label hlabel => ?_, hfollow⟩
  · rintro rfl
    exact splitOnChar_ne_nil '.' mapped (List.forall₂_nil_right_iff.1 hread)
  · obtain ⟨piece, hpiece, hlabel⟩ := exists_mem_of_forall₂ hread.flip hlabel
    refine admissible_of_readLabel? hlabel fun c hc hascii => ⟨⟨hascii, ?_⟩, ?_⟩
    · exact isForbidden_of_mem_map? hmap (mem_of_mem_splitOnChar hpiece hc)
    · rintro rfl
      exact notMem_of_mem_splitOnChar hpiece hc

/-- The text of a name is its labels with points between them. -/
lemma toList_join (labels : List (List Char)) :
    (join labels).toList = ['.'].intercalate labels := by
  simp [join, List.map_map]

/-- The ASCII form of a name, and the labels that it is made of. -/
lemma exists_labels {text : List Char} {name : String} (h : toAscii? text = some name) :
    ∃ labels, readLabels? text = some labels ∧
      splitOnChar '.' name.toList = labels.map labelToAscii ∧
      ∀ c ∈ name.toList, IsNameChar c := by
  obtain ⟨labels, hlabels, rfl⟩ := Option.map_eq_some_iff.1 h
  obtain ⟨hne, hadmissible, -⟩ := readLabels?_eq_some hlabels
  have hchars : ∀ piece ∈ labels.map labelToAscii, ∀ c ∈ piece, IsLabelChar c := by
    intro piece hpiece c hc
    obtain ⟨label, hlabel, rfl⟩ := List.mem_map.1 hpiece
    exact (hadmissible label hlabel).isLabelChar_of_mem hc
  have hsplit : splitOnChar '.' (join (labels.map labelToAscii)).toList =
      labels.map labelToAscii := by
    rw [toList_join]
    refine splitOnChar_intercalate (by simpa using hne) fun piece hpiece hpoint => ?_
    exact (hchars piece hpiece _ hpoint).2 rfl
  refine ⟨labels, hlabels, hsplit, fun c hc => ?_⟩
  have hplace : c = '.' ∨ _ := mem_splitOnChar_of_mem hc
  rcases hplace with rfl | ⟨piece, hpiece, hmem⟩
  · exact ⟨by decide, by decide⟩
  · rw [hsplit] at hpiece
    exact (hchars piece hpiece c hmem).1

/-- The ASCII form of a name has the characters of names. -/
lemma isNameChar_of_toAscii? {text : List Char} {name : String} (h : toAscii? text = some name)
    {c : Char} (hc : c ∈ name.toList) : IsNameChar c := by
  obtain ⟨labels, -, -, hchars⟩ := exists_labels h
  exact hchars c hc

/-- **The ASCII form of a domain name is its own ASCII form**, if no code in it is too long; if one
is, the name is not read any more.

**Proof sketch.** The name has nothing that mapping would change, and its labels are the ASCII forms
of the labels that it was made of.  These are read back, so that the checks of the whole name see
the same labels again. -/
theorem toAscii?_of_toAscii? {text : List Char} {name : String} (h : toAscii? text = some name) :
    toAscii? name.toList = if isCompact name.toList then some name else none := by
  obtain ⟨labels, hlabels, hsplit, hchars⟩ := exists_labels h
  obtain ⟨-, hadmissible, hdirections⟩ := readLabels?_eq_some hlabels
  have hname : name = join (labels.map labelToAscii) := by
    rw [toAscii?, hlabels] at h
    exact (Option.some.inj h).symm
  have hread : readLabels? name.toList =
      (labels.map labelToAscii).mapM readLabel? >>= fun labels =>
        if labels.any hasRightToLeft && !labels.all followsDirection then none
        else some labels := by
    rw [readLabels?, map?_of_isNameChar hchars, Option.bind_eq_bind, Option.bind_some, hsplit]
  cases hcompact : isCompact name.toList with
  | true =>
    rw [isCompact, hsplit, List.all_eq_true] at hcompact
    have hback : (labels.map labelToAscii).mapM readLabel? = some labels := by
      rw [mapM_eq_some_iff, List.forall₂_map_left_iff, List.forall₂_same]
      intro label hlabel
      exact (hadmissible label hlabel).readLabel?_labelToAscii
        (hcompact _ (List.mem_map_of_mem hlabel))
    rw [toAscii?, hread, hback, Option.bind_eq_bind, Option.bind_some, hdirections]
    simp only [Bool.false_eq_true, ↓reduceIte, Option.map_some, ← hname]
  | false =>
    rw [isCompact, hsplit] at hcompact
    obtain ⟨label, hlabel, hlong⟩ := List.all_eq_false.1 hcompact
    have hback : (labels.map labelToAscii).mapM readLabel? = none := by
      refine Option.eq_none_iff_forall_ne_some.2 fun results hresults => ?_
      obtain ⟨result, -, hresult⟩ :=
        exists_mem_of_forall₂ (mapM_eq_some_iff.1 hresults) hlabel
      rw [readLabel?_eq_none (by simpa using hlong)] at hresult
      cases hresult
    rw [toAscii?, hread, hback]
    rfl

/-! ## Names without codes -/

/-- A label of ASCII characters does not run from right to left. -/
lemma hasRightToLeft_eq_false {label : List Char} (h : isAsciiLabel label = true) :
    hasRightToLeft label = false := by
  refine List.any_eq_false.2 fun c hc => ?_
  have hascii : c.toNat < 0x80 := of_decide_eq_true (List.all_eq_true.1 h c hc)
  simpa [Unicode.rightToLeft] using Unicode.not_rightToLeft_of_ascii hascii

/-- **A name of ASCII characters without codes is its own ASCII form.** -/
theorem toAscii?_eq_self {name : String} (hchars : ∀ c ∈ name.toList, IsNameChar c)
    (hcode : ∀ label ∈ splitOnChar '.' name.toList, stripStart? codePrefix label = none) :
    toAscii? name.toList = some name := by
  have hascii : ∀ label ∈ splitOnChar '.' name.toList, isAsciiLabel label = true :=
    fun label hlabel => List.all_eq_true.2 fun c hc =>
      (hchars c (mem_of_mem_splitOnChar hlabel hc)).1
  have hread : (splitOnChar '.' name.toList).mapM readLabel? =
      some (splitOnChar '.' name.toList) := by
    rw [mapM_eq_some_iff, List.forall₂_same]
    intro label hlabel
    simp [readLabel?, hcode label hlabel, hascii label hlabel]
  have hdirection : (splitOnChar '.' name.toList).any hasRightToLeft = false :=
    List.any_eq_false.2 fun label hlabel => by
      simp [hasRightToLeft_eq_false (hascii label hlabel)]
  have hlabels : (splitOnChar '.' name.toList).map labelToAscii = splitOnChar '.' name.toList := by
    refine (List.map_congr_left fun label hlabel => ?_).trans (List.map_id _)
    rw [labelToAscii, if_pos (hascii label hlabel), id]
  have hjoin : join (splitOnChar '.' name.toList) = name := by
    rw [← String.toList_inj, toList_join, intercalate_splitOnChar]
  rw [toAscii?, readLabels?, map?_of_isNameChar hchars, Option.bind_eq_bind, Option.bind_some,
    hread, Option.bind_eq_bind, Option.bind_some, hdirection]
  simp [hlabels, hjoin]

end Domain

end RequestRouting
