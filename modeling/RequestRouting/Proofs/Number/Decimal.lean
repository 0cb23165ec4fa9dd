import Mathlib.Tactic.Lemma
import RequestRouting.Number.Decimal

/-!
# Digits

The digits that are written for a number, in base ten and in the other bases up to sixteen.

## Main results

* `isDigit_of_mem_toDigits` — only digits are written for a number.
* `ofDigits_toDigits` — the digits that are written for a number are read back.
* `readInteger?_of_takeSign` — an integer is read from its sign and its digits.
* `foldl_toDigits` — the digits of a number in a base up to sixteen spell it.
-/

set_option autoImplicit false

namespace RequestRouting

/-- Only digits are written for a number. -/
lemma isDigit_of_mem_toDigits {n : Nat} {c : Char} (h : c ∈ Nat.toDigits 10 n) :
    c.isDigit = true :=
  Nat.isDigit_of_mem_toDigits (by decide) (by decide) h

/-- The digits of a number spell it. -/
lemma ofDigits_toDigits (n : Nat) : ofDigits (Nat.toDigits 10 n) = n := by
  have hstep : ∀ digits start, digits.foldl (fun n c => n * 10 + digitValue c) start =
      Nat.ofDigitChars 10 digits start := by
    intro digits start
    simp only [Nat.ofDigitChars, Nat.mul_comm 10, digitValue]
  rw [ofDigits, hstep, Nat.ofDigitChars_ten_toDigits]

/-- A digit is no sign. -/
lemma ne_sign_of_isDigit {c : Char} (h : c.isDigit) : c ≠ '-' ∧ c ≠ '+' := by
  constructor <;> (rintro rfl; exact absurd h (by decide))

variable {digits : List Char}

/-- In front of digits alone there is no sign to take off. -/
lemma takeSign_of_isDigit (hdigits : ∀ c ∈ digits, c.isDigit) :
    takeSign digits = (false, digits) := by
  cases digits with
  | nil => rfl
  | cons c rest =>
    obtain ⟨hminus, hplus⟩ := ne_sign_of_isDigit (hdigits c List.mem_cons_self)
    unfold takeSign
    split <;> simp_all

/-- An integer is read from its sign and its digits. -/
lemma readInteger?_of_takeSign {text : List Char} {negative : Bool}
    (hsign : takeSign text = (negative, digits)) (hsome : digits ≠ [])
    (hdigits : ∀ c ∈ digits, c.isDigit) :
    readInteger? text =
      some (if negative then -(ofDigits digits : Int) else ofDigits digits) := by
  have hall : digits.all Char.isDigit = true := List.all_eq_true.2 hdigits
  simp [readInteger?, hsign, hall, hsome]

/-! ## Bases up to sixteen -/

/-- The digit of a number below sixteen has its value. -/
lemma hexDigitValue?_digitChar :
    ∀ digit < 16, hexDigitValue? (Nat.digitChar digit) = some digit := by decide

/-- A digit stands for a number below sixteen. -/
lemma lt_of_hexDigitValue? {c : Char} {digit : Nat} (h : hexDigitValue? c = some digit) :
    digit < 16 := by
  have hfirst : '0'.toNat = 48 ∧ 'a'.toNat = 97 ∧ 'A'.toNat = 65 := by decide
  have hlast : '9'.toNat = 57 ∧ 'f'.toNat = 102 ∧ 'F'.toNat = 70 := by decide
  simp only [hexDigitValue?, Bool.and_eq_true, decide_eq_true_eq, Char.le_def,
    UInt32.le_iff_toNat_le, Char.toNat_val] at h
  split at h
  · cases h
    omega
  split at h
  · cases h
    omega
  split at h
  · cases h
    omega
  · cases h

section Base

variable {base n : Nat}

/-- The digits of a number stand for numbers below the base. -/
lemma exists_of_mem_toDigits (hbase : 1 < base) {c : Char} (h : c ∈ Nat.toDigits base n) :
    ∃ digit < base, c = Nat.digitChar digit := by
  induction n using Nat.strongRecOn with
  | ind n ih =>
    rw [Nat.toDigits_eq_if hbase] at h
    split at h
    case isTrue hlt => exact ⟨n, hlt, List.mem_singleton.1 h⟩
    case isFalse hlt =>
      rcases List.mem_append.1 h with hfront | hlast
      · exact ih _ (Nat.div_lt_self (by omega) hbase) hfront
      · exact ⟨n % base, Nat.mod_lt _ (by omega), List.mem_singleton.1 hlast⟩

/-- The digits of a number spell it. -/
theorem foldl_toDigits (hbase : 1 < base) (hle : base ≤ 16) (n : Nat) :
    (Nat.toDigits base n).foldl (fun n c => n * base + (hexDigitValue? c).getD 0) 0 = n := by
  induction n using Nat.strongRecOn with
  | ind n ih =>
    rw [Nat.toDigits_eq_if hbase]
    split
    case isTrue hlt => simp [hexDigitValue?_digitChar n (by omega)]
    case isFalse hlt =>
      have hmod : n % base < base := Nat.mod_lt _ (by omega)
      rw [List.foldl_append, ih _ (Nat.div_lt_self (by omega) hbase)]
      simp [hexDigitValue?_digitChar (n % base) (by omega), Nat.div_add_mod']

/-- Only zero is written with a leading zero. -/
lemma head?_toDigits (hbase : 1 < base) (hle : base ≤ 16) (hn : 0 < n) :
    (Nat.toDigits base n).head? ≠ some '0' := by
  have hdigit : ∀ digit < 16, 0 < digit → Nat.digitChar digit ≠ '0' := by decide
  induction n using Nat.strongRecOn with
  | ind n ih =>
    rw [Nat.toDigits_eq_if hbase]
    split
    case isTrue hlt => simpa using hdigit n (by omega) hn
    case isFalse hlt =>
      have hfront := ih (n / base) (Nat.div_lt_self hn hbase)
        (Nat.div_pos (by omega) (by omega))
      obtain ⟨c, rest, hdigits⟩ := List.exists_cons_of_ne_nil
        (Nat.toDigits_ne_nil (n := n / base) (b := base))
      rw [hdigits] at hfront ⊢
      simpa using hfront

end Base

end RequestRouting
