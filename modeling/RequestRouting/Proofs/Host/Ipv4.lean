import RequestRouting.Host.Ipv4
import RequestRouting.Proofs.Number.Decimal
import RequestRouting.Proofs.Text.Split

/-!
# IPv4 addresses are read back

The four octets between points are read as the address that they were written for.

## Main results

* `Ipv4.endsInNumber_text` — the text of an address has to be an address.
* `Ipv4.parse?_text` — the text of an address is read as the address.
-/

set_option autoImplicit false

namespace RequestRouting

namespace Ipv4

/-! ## Numbers -/

/-- The digits of a number in base ten are read as the number. -/
lemma readDigits?_toDigits (n : Nat) : readDigits? 10 (Nat.toDigits 10 n) = some n := by
  have hdigits : (Nat.toDigits 10 n).all (isDigitOf 10) = true := by
    refine List.all_eq_true.2 fun c hc => ?_
    obtain ⟨digit, hlt, rfl⟩ := exists_of_mem_toDigits (by decide) hc
    simp [isDigitOf, hexDigitValue?_digitChar digit (by omega), hlt]
  rw [readDigits?, if_pos hdigits, foldl_toDigits (by decide) (by decide)]

/-- A number in base ten is not mistaken for one in another base. -/
lemma readNumber?_toDigits (n : Nat) : readNumber? (Nat.toDigits 10 n) = some n := by
  rcases Nat.eq_zero_or_pos n with rfl | hpos
  · decide
  have hhead := @head?_toDigits 10 n (by decide) (by decide) hpos
  have hne : Nat.toDigits 10 n ≠ [] := Nat.toDigits_ne_nil
  rw [← readDigits?_toDigits n]
  generalize Nat.toDigits 10 n = digits at hhead hne ⊢
  unfold readNumber?
  split <;> simp_all [readDigits?]

/-! ## Texts -/

/-- The characters of the text of an address. -/
lemma toList_text (address : Ipv4) :
    address.text.toList = ['.'].intercalate (address.octets.map (Nat.toDigits 10)) := by
  simp [text, String.toList_intercalate, Function.comp_def]

/-- The digits of an octet have no point. -/
lemma point_notMem_toDigits (n : Nat) : '.' ∉ Nat.toDigits 10 n := fun h =>
  absurd (isDigit_of_mem_toDigits h) (by decide)

/-- The pieces of the text of an address are the digits of its octets. -/
lemma splitOnChar_text (address : Ipv4) :
    splitOnChar '.' address.text.toList = address.octets.map (Nat.toDigits 10) := by
  rw [toList_text]
  refine splitOnChar_intercalate (by simp [octets]) fun piece hpiece => ?_
  obtain ⟨octet, -, rfl⟩ := List.mem_map.1 hpiece
  exact point_notMem_toDigits octet

/-- The text of an address has digits and points. -/
lemma mem_toList_text {address : Ipv4} {c : Char} (h : c ∈ address.text.toList) :
    c = '.' ∨ ∃ digit < 10, c = Nat.digitChar digit := by
  have hplace : c = '.' ∨ _ := mem_splitOnChar_of_mem h
  refine hplace.imp_right fun hmem => ?_
  obtain ⟨piece, hpiece, hc⟩ := hmem
  rw [splitOnChar_text] at hpiece
  obtain ⟨octet, -, rfl⟩ := List.mem_map.1 hpiece
  exact exists_of_mem_toDigits (by decide) hc

/-- The parts of the text of an address are the digits of its octets too. -/
lemma parts_text (address : Ipv4) :
    parts address.text.toList = address.octets.map (Nat.toDigits 10) := by
  rw [parts, splitOnChar_text]
  simp [octets, Nat.toDigits_ne_nil]

/-- The text of an address is not empty. -/
lemma text_ne_empty (address : Ipv4) : address.text ≠ "" := by
  intro hempty
  have hsplit := splitOnChar_text address
  rw [hempty] at hsplit
  simp [splitOnChar, octets] at hsplit

/-- The text of an address ends in a number. -/
theorem endsInNumber_text (address : Ipv4) : endsInNumber address.text.toList = true := by
  simp [endsInNumber, parts_text, octets, readNumber?_toDigits]

/-- Four octets make the address that they were taken from. -/
lemma ofNumbers?_octets (address : Ipv4) : ofNumbers? address.octets = some address := by
  obtain ⟨n, hbound⟩ := address
  have hvalue :
      leading [n / 0x1000000, n / 0x10000 % 256, n / 0x100 % 256] * 256 + n % 256 = n := by
    simp only [leading, List.foldl_cons, List.foldl_nil]
    omega
  have hfirst : n / 0x1000000 < 256 := by omega
  have hlast (m : Nat) : m % 256 < 256 := Nat.mod_lt m (by decide)
  simp [ofNumbers?, octets, hvalue, hbound, hfirst, hlast]

/-- **The text of an address is read as the address.** -/
theorem parse?_text (address : Ipv4) : parse? address.text.toList = some address := by
  have hread : (address.octets.map (Nat.toDigits 10)).mapM readNumber? = some address.octets := by
    simp [octets, readNumber?_toDigits]
  simp [parse?, parts_text, hread, ofNumbers?_octets]

end Ipv4

end RequestRouting
