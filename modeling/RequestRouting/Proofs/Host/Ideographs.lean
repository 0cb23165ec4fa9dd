import RequestRouting.Proofs.Host.Basic
import RequestRouting.Proofs.Unicode.Ideographs

/-!
# Names of ideographs

A label of ideographs stands for itself.  If the ideographs are far apart, then its code is too long
to be read although the label is not.

## Main results

* `Domain.toAscii?_ideographs` — the ASCII form of a label of ideographs.
* `Host.parse_ideographs` — the host of a label of ideographs.
* `Host.isCompact_ideographs` — codes that are too long.
-/

set_option autoImplicit false

namespace RequestRouting

open Unicode (IsIdeograph)

namespace Domain

/-- No character beyond ASCII is forbidden. -/
lemma isForbidden_eq_false {c : Char} (h : 0x80 ≤ c.toNat) : isForbidden c = false := by
  have hascii : ∀ d ∈ "%#/:<>?@[\\]^|".toList, d.toNat < 0x80 := by simp
  have hlist : c ∉ "%#/:<>?@[\\]^|".toList := fun hmem => by
    have := hascii c hmem
    omega
  have hupper : c.isUpper = false := by
    have hrange : c.isUpper = decide (c.val ≥ 'A'.val ∧ c.val ≤ 'Z'.val) := rfl
    have hlast : 'Z'.val.toNat = 90 := by decide
    have hval : c.val.toNat = c.toNat := rfl
    simp only [hrange, decide_eq_false_iff_not, UInt32.le_iff_toNat_le]
    omega
  simp only [isForbidden, hupper, Bool.or_eq_false_iff, decide_eq_false_iff_not,
    List.contains_eq_mem]
  exact ⟨⟨⟨trivial, by omega⟩, by omega⟩, hlist⟩

/-- No ideograph is a mark. -/
lemma isMark_eq_false {c : Char} (h : IsIdeograph c.toNat) : isMark c = false := by
  obtain ⟨hnonspacing, hspacing, henclosing⟩ := Unicode.avoids_marks
  simp only [isMark, hnonspacing.contains_eq_false h.1 h.2, hspacing.contains_eq_false h.1 h.2,
    henclosing.contains_eq_false h.1 h.2, Bool.or_false]

/-! ## Labels of ideographs -/

section Label

variable {label : List Char} (hlabel : ∀ c ∈ label, IsIdeograph c.toNat)

include hlabel

/-- No character below the ideographs is in a label of ideographs. -/
lemma notMem_ideographs {c : Char} (hc : c.toNat < 0x4E00) : c ∉ label := fun hmem => by
  have := (hlabel c hmem).1
  omega

/-- Ideographs stand for themselves. -/
lemma map?_ideographs : map? label = some label := by
  refine map?_eq_self (fun c hc => ?_) (Unicode.normalize_eq_self hlabel) fun c hc => ?_
  · obtain ⟨hleast, hgreatest⟩ := hlabel c hc
    rw [mapChar?, if_neg (by omega), if_pos (Unicode.covers_plainTable _ hleast hgreatest)]
  · exact isForbidden_eq_false (by have := (hlabel c hc).1; omega)

/-- There are no joiners between ideographs. -/
lemma joinersAllowed_ideographs (before : List Char) : joinersAllowed before label = true := by
  induction label generalizing before with
  | nil => rfl
  | cons c rest ih =>
    obtain ⟨hc, hrest⟩ := List.forall_mem_cons.1 hlabel
    have hjoiner : c ≠ '\u200C' ∧ c ≠ '\u200D' := by
      constructor <;>
      · rintro rfl
        exact absurd hc.1 (by decide)
    rw [joinersAllowed, ih hrest, Bool.and_true, isJoinerAllowed]
    simp [hjoiner]

/-- A label of ideographs is sound, if it is not too long. -/
lemma isSound_ideographs (hlength : label.length ≤ maxLength) : isSound label = true := by
  have hplain : label.all isPlain = true := List.all_eq_true.2 fun c hc => by
    obtain ⟨hleast, hgreatest⟩ := hlabel c hc
    rw [isPlain, if_neg (by omega), Unicode.covers_plainTable _ hleast hgreatest]
  have hmark : label.head?.any isMark = false := by
    cases label with
    | nil => rfl
    | cons c rest =>
      rw [List.head?_cons, Option.any_some, isMark_eq_false (hlabel c List.mem_cons_self)]
  rw [isSound, decide_eq_true hlength, hplain, Unicode.normalize_eq_self hlabel, hmark,
    joinersAllowed_ideographs hlabel, beq_self_eq_true]
  rfl

/-- Ideographs do not run from right to left. -/
lemma hasRightToLeft_ideographs : hasRightToLeft label = false := by
  refine List.any_eq_false.2 fun c hc => ?_
  obtain ⟨hleast, hgreatest⟩ := hlabel c hc
  obtain ⟨hright, harabic, hnumber⟩ := Unicode.avoids_rightToLeft
  simpa [Unicode.rightToLeft] using Unicode.not_rightToLeft
    (hright.contains_eq_false hleast hgreatest) (harabic.contains_eq_false hleast hgreatest)
    (hnumber.contains_eq_false hleast hgreatest)

/-- **The ASCII form of a label of ideographs is its code.** -/
theorem toAscii?_ideographs (hne : label ≠ []) (hlength : label.length ≤ maxLength) :
    toAscii? label = some (String.ofList (codePrefix ++ Punycode.encode label)) := by
  have hsplit : splitOnChar '.' label = [label] :=
    splitOnChar_of_notMem (notMem_ideographs hlabel (by decide))
  have hcode : stripStart? codePrefix label = none := by
    cases hrest : stripStart? codePrefix label with
    | none => rfl
    | some rest =>
      have hx : 'x' ∈ label := by
        rw [eq_append_of_stripStart? hrest]
        exact List.mem_cons_self
      exact absurd hx (notMem_ideographs hlabel (by decide))
  have hascii : isAsciiLabel label = false := by
    obtain ⟨c, hc⟩ := List.exists_mem_of_ne_nil label hne
    refine List.all_eq_false.2 ⟨c, hc, ?_⟩
    have := (hlabel c hc).1
    simp only [Punycode.isAscii, decide_eq_true_eq]
    omega
  have hread : readLabel? label = some label := by
    simp [readLabel?, hcode, isSound_ideographs hlabel hlength]
  have hlabels : readLabels? label = some [label] := by
    simp [readLabels?, map?_ideographs hlabel, hsplit, hread, hasRightToLeft_ideographs hlabel]
  simp [toAscii?, hlabels, labelToAscii, hascii, join]

/-- The code of a label of ideographs has characters of labels only. -/
lemma mem_codes_ideographs (hlength : label.length ≤ maxLength) {c : Char}
    (hc : c ∈ codePrefix ++ Punycode.encode label) : IsLabelChar c := by
  rcases List.mem_append.1 hc with hprefix | hencode
  · exact isLabelChar_of_mem_codePrefix c hprefix
  · have hshort : label.length ≤ Punycode.maxTextLength := hlength.trans (by decide)
    rcases Punycode.mem_encode hshort hencode with ⟨hmem, hascii⟩ | rfl | hdigit
    · refine absurd hmem (notMem_ideographs hlabel ?_)
      have : c.toNat < 0x80 := of_decide_eq_true hascii
      omega
    · exact isLabelChar_hyphen
    · exact isLabelChar_of_mem_digitChars c hdigit

end Label

end Domain

namespace Host

/-- A code without points is no number. -/
lemma endsInNumber_code {coded : List Char} (h : '.' ∉ coded) :
    Ipv4.endsInNumber (Domain.codePrefix ++ coded) = false := by
  have hpoint : '.' ∉ Domain.codePrefix ++ coded := by
    simpa [Domain.codePrefix] using h
  have hparts : Ipv4.parts (Domain.codePrefix ++ coded) = [Domain.codePrefix ++ coded] := by
    simp [Ipv4.parts, splitOnChar_of_notMem hpoint]
  have hx : ('x').isDigit = false ∧ Ipv4.isDigitOf 10 'x' = false := by decide
  have hread : Ipv4.readNumber? (Domain.codePrefix ++ coded) = none := by
    simp [Domain.codePrefix, Ipv4.readNumber?, Ipv4.readDigits?, hx]
  rw [Ipv4.endsInNumber, hparts, List.getLast?_singleton]
  dsimp only
  rw [hread]
  simp [Domain.codePrefix, hx]

/-- **The host of a label of ideographs is its code.** -/
theorem parse_ideographs {label : List Char} (hlabel : ∀ c ∈ label, IsIdeograph c.toNat)
    (hne : label ≠ []) (hlength : label.length ≤ Domain.maxLength) :
    parse label = .ok (.domain (String.ofList (Domain.codePrefix ++ Punycode.encode label))) := by
  have hmark {mark : Char} (hmark : mark.toNat < 0x4E00) : mark ∉ label :=
    Domain.notMem_ideographs hlabel hmark
  have hpoint : '.' ∉ Punycode.encode label := fun hmem =>
    (Domain.mem_codes_ideographs hlabel hlength (List.mem_append_right _ hmem)).2 rfl
  have hempty : String.ofList (Domain.codePrefix ++ Punycode.encode label) ≠ "" := by
    simp [Domain.codePrefix]
  rw [parse_eq_ofDomain (hmark (by decide)) (hmark (by decide)),
    Domain.toAscii?_ideographs hlabel hne hlength]
  dsimp only
  rw [ofDomain, if_neg hempty, if_neg]
  rw [String.toList_ofList, endsInNumber_code hpoint]
  exact Bool.false_ne_true

/-- **A label of ideographs that are far apart has a code that is too long to be read.** -/
theorem isCompact_ideographs {label : List Char} (hlabel : ∀ c ∈ label, IsIdeograph c.toNat)
    (hlength : label.length ≤ Domain.maxLength)
    (hpairs : label.Pairwise fun b a => b.toNat + 28 < a.toNat)
    (hlong : Domain.maxCodeLength + 99 < 3 * label.length) :
    isCompact (.domain (String.ofList (Domain.codePrefix ++ Punycode.encode label))) = false := by
  have hcode := Punycode.le_length_encode hpairs fun c hc => by
    have := (hlabel c hc).1
    omega
  have hpoint : '.' ∉ Domain.codePrefix ++ Punycode.encode label := fun hmem =>
    (Domain.mem_codes_ideographs hlabel hlength hmem).2 rfl
  have hlonger : Domain.maxCodeLength < (Punycode.encode label).length := by omega
  simp [isCompact, Domain.isCompact, splitOnChar_of_notMem hpoint, Domain.isCompactLabel,
    stripStart?_append, hlonger]

end Host

end RequestRouting
