import Mathlib.Tactic.Lemma
import Mathlib.Tactic.Positivity
import Mathlib.Tactic.Ring
import RequestRouting.Number.Binary64

/-!
# Rounding natural numbers

A natural number becomes a binary64 number by rounding to 53 significant bits, ties to even.  Two
natural numbers become the same one if they are rounded to the same natural number, and only the
numbers from some limit on are rounded beyond the finite range.

## Main definitions

* `Binary64.nearest` — a natural number, rounded to 53 significant bits.
* `Binary64.limit` — the least natural number that is rounded beyond the finite range.
* `Binary64.magnitudeOf` — the magnitude bits of a natural number.
* `Binary64.rounded`, `Binary64.RoundsFrom` — the same for integers.

## Main results

* `Binary64.magnitudeOf_eq_iff` — two natural numbers have the same magnitude bits if and only if
  they are rounded to the same number.
* `Binary64.magnitudeOf_lt_iff` — the finite ones are those below the limit.
* `Binary64.RoundsFrom.sameValue_iff` — two integers become equal binary64 numbers if and only if
  they are rounded to the same integer.
-/

set_option autoImplicit false

namespace RequestRouting

namespace Binary64

/-! ## Quotients -/

/-- A quotient is rounded down or up. -/
lemma roundHalfEven_bounds (num den : Nat) :
    num / den ≤ roundHalfEven num den ∧ roundHalfEven num den ≤ num / den + 1 := by
  unfold roundHalfEven
  dsimp only
  split_ifs <;> omega

/-- A common factor has no influence on the rounded quotient. -/
lemma roundHalfEven_mul_right (num den : Nat) {factor : Nat} (h : 0 < factor) :
    roundHalfEven (num * factor) (den * factor) = roundHalfEven num den := by
  have hscale : ∀ a b : Nat, a * factor < b * factor ↔ a < b := fun _ _ =>
    Nat.mul_lt_mul_right h
  simp only [roundHalfEven, Nat.mul_div_mul_right _ _ h, Nat.mul_mod_mul_right, ← Nat.mul_assoc,
    hscale]

/-- A whole number need not be rounded. -/
@[simp] lemma roundHalfEven_one (num : Nat) : roundHalfEven num 1 = num := by
  simp [roundHalfEven, Nat.mod_one]

/-- A quotient is rounded to a number below an even bound if it is more than one half below the
bound; the tie goes to the bound. -/
lemma roundHalfEven_lt_iff {num den bound : Nat} (hden : 0 < den) (heven : bound % 2 = 0) :
    roundHalfEven num den < bound ↔ 2 * num + den < 2 * bound * den := by
  have hnum : num = den * (num / den) + num % den := (Nat.div_add_mod num den).symm
  have hrest := Nat.mod_lt num hden
  unfold roundHalfEven
  dsimp only
  generalize num / den = quotient at hnum ⊢
  generalize num % den = rest at hnum hrest ⊢
  subst hnum
  -- The quotient lies below the bound by two, by one, or not at all.
  obtain hlow | heq | hhigh : quotient + 2 ≤ bound ∨ quotient + 1 = bound ∨ bound ≤ quotient := by
    omega
  · have hmul := Nat.mul_le_mul_right den hlow
    have hright : 2 * (den * quotient + rest) + den < 2 * bound * den := by
      rw [Nat.add_mul] at hmul
      rw [Nat.mul_assoc, Nat.mul_comm den quotient]
      omega
    simp only [hright, iff_true]
    split_ifs <;> omega
  · subst heq
    have hodd : quotient % 2 = 1 := by omega
    have hright : 2 * (den * quotient + rest) + den < 2 * (quotient + 1) * den ↔
        2 * rest < den := by
      rw [Nat.mul_assoc, Nat.add_mul, Nat.mul_comm den quotient]
      omega
    rw [hright]
    split_ifs <;> omega
  · have hmul := Nat.mul_le_mul_right den hhigh
    have hright : ¬ 2 * (den * quotient + rest) + den < 2 * bound * den := by
      rw [Nat.mul_assoc, Nat.mul_comm den quotient]
      omega
    simp only [hright, iff_false]
    split_ifs <;> omega

/-! ## Natural numbers -/

/-- The natural number with 53 significant bits that is nearest to a natural number, ties to even.
A number of up to 53 bits stays as it is. -/
def nearest (n : Nat) : Nat :=
  roundHalfEven n (2 ^ (n.log2 - 52)) * 2 ^ (n.log2 - 52)

/-- The least natural number that is rounded beyond the finite range.  It is half a unit above the
greatest finite number, `(2 ^ 53 - 1) * 2 ^ 971`. -/
def limit : Nat := (2 ^ 54 - 1) * 2 ^ 970

/-- The magnitude bits of a natural number, which may lie beyond the finite range. -/
def magnitudeOf (n : Nat) : Nat := magnitudeOfRatio n 1

/-- The rounded significand of a natural number. -/
def significandOf (n : Nat) : Nat := roundHalfEven (n * 2 ^ 52) (2 ^ n.log2)

/-- The number of bits of a product with a power of two. -/
lemma log2_mul_two_pow {n : Nat} (hn : n ≠ 0) (k : Nat) : (n * 2 ^ k).log2 = n.log2 + k := by
  induction k with
  | zero => simp
  | succ k ih =>
    have hne : n * 2 ^ k ≠ 0 := Nat.mul_ne_zero hn (Nat.two_pow_pos k).ne'
    rw [pow_succ, ← Nat.mul_assoc, Nat.mul_comm _ 2, Nat.log2_two_mul hne, ih, Nat.add_assoc]

/-- The magnitude bits are the exponent, in front of the significand. -/
lemma magnitudeOf_eq {n : Nat} (hn : n ≠ 0) :
    magnitudeOf n = (n.log2 + 1022) * leadingBit + significandOf n := by
  have hone : oneInUnits = 2 ^ (52 + 1022) := by decide +kernel
  have hunit : (n * oneInUnits / 1).log2 - 52 = n.log2 + 1022 := by
    rw [Nat.div_one, hone, log2_mul_two_pow hn]
    omega
  have hscaled : roundHalfEven (n * oneInUnits) (1 * 2 ^ (n.log2 + 1022)) = significandOf n := by
    rw [hone, pow_add, ← Nat.mul_assoc, Nat.one_mul, pow_add,
      roundHalfEven_mul_right _ _ (Nat.two_pow_pos _), significandOf]
  unfold magnitudeOf magnitudeOfRatio
  dsimp only
  rw [hunit]
  exact congrArg _ hscaled

/-- The significand has 53 bits, or is rounded up to the least number that has one more. -/
lemma significandOf_bounds {n : Nat} (hn : n ≠ 0) :
    2 ^ 52 ≤ significandOf n ∧ significandOf n ≤ 2 ^ 53 := by
  have hlow : 2 ^ 52 ≤ n * 2 ^ 52 / 2 ^ n.log2 := by
    rw [Nat.le_div_iff_mul_le (Nat.two_pow_pos _), Nat.mul_comm]
    exact Nat.mul_le_mul_right _ (Nat.log2_self_le hn)
  have hhigh : n * 2 ^ 52 / 2 ^ n.log2 < 2 ^ 53 := by
    rw [Nat.div_lt_iff_lt_mul (Nat.two_pow_pos _), ← pow_add, Nat.add_comm 53,
      show n.log2 + 53 = n.log2 + 1 + 52 from rfl, pow_add]
    exact Nat.mul_lt_mul_of_pos_right Nat.lt_log2_self (Nat.two_pow_pos _)
  have hround := roundHalfEven_bounds (n * 2 ^ 52) (2 ^ n.log2)
  unfold significandOf
  omega

/-- The significand and the exponent make up the rounded number. -/
lemma significandOf_mul (n : Nat) : significandOf n * 2 ^ n.log2 = nearest n * 2 ^ 52 := by
  unfold significandOf nearest
  rcases Nat.le_total 52 n.log2 with hlong | hshort
  · have hsplit : 2 ^ n.log2 = 2 ^ (n.log2 - 52) * 2 ^ 52 := by
      rw [← pow_add, Nat.sub_add_cancel hlong]
    rw [hsplit, roundHalfEven_mul_right _ _ (Nat.two_pow_pos _), Nat.mul_assoc]
  · have hsplit : 2 ^ 52 = 2 ^ (52 - n.log2) * 2 ^ n.log2 := by
      rw [← pow_add, Nat.sub_add_cancel hshort]
    have hquotient : roundHalfEven (n * 2 ^ 52) (2 ^ n.log2) = n * 2 ^ (52 - n.log2) := by
      have hscale := roundHalfEven_mul_right (n * 2 ^ (52 - n.log2)) 1 (Nat.two_pow_pos n.log2)
      rwa [Nat.mul_assoc, ← hsplit, Nat.one_mul, roundHalfEven_one] at hscale
    rw [hquotient, Nat.sub_eq_zero_of_le hshort, pow_zero, roundHalfEven_one, Nat.mul_one,
      Nat.mul_assoc, ← hsplit]

/-- A number is rounded to one with as many bits, or to the least with one more. -/
lemma nearest_bounds {n : Nat} (hn : n ≠ 0) :
    2 ^ n.log2 ≤ nearest n ∧ nearest n ≤ 2 ^ (n.log2 + 1) := by
  obtain ⟨hlow, hhigh⟩ := significandOf_bounds hn
  have hmul := significandOf_mul n
  have hlow := Nat.mul_le_mul_right (2 ^ n.log2) hlow
  have hhigh := Nat.mul_le_mul_right (2 ^ n.log2) hhigh
  rw [hmul] at hlow hhigh
  rw [pow_succ]
  omega

/-- Exponents and significands are determined by the numbers that they make up, but for a
significand that has been rounded up to one more bit. -/
lemma exponent_significand_iff {e e' q q' : Nat} (h : 2 ^ 52 ≤ q ∧ q ≤ 2 ^ 53)
    (h' : 2 ^ 52 ≤ q' ∧ q' ≤ 2 ^ 53) :
    e * 2 ^ 52 + q = e' * 2 ^ 52 + q' ↔ q * 2 ^ e = q' * 2 ^ e' := by
  wlog hle : e ≤ e' generalizing e e' q q'
  · rw [eq_comm, this h' h (Nat.le_of_not_le hle), eq_comm]
  obtain ⟨k, rfl⟩ := Nat.exists_eq_add_of_le hle
  have hcancel : q * 2 ^ e = q' * 2 ^ (e + k) ↔ q = q' * 2 ^ k := by
    rw [pow_add, Nat.mul_comm (2 ^ e), ← Nat.mul_assoc]
    exact Nat.mul_left_inj (Nat.two_pow_pos e).ne'
  rw [hcancel]
  match k with
  | 0 => simp
  | 1 => omega
  | k + 2 =>
    -- Both sides would make the greater exponent too great.
    have hpow : 4 ≤ 2 ^ (k + 2) := Nat.pow_le_pow_right (n := 2) (by decide) (Nat.le_add_left 2 k)
    have hmul := Nat.mul_le_mul h'.1 hpow
    constructor <;> intro heq <;> omega

/-- Zero has no magnitude bits. -/
@[simp] lemma magnitudeOf_zero : magnitudeOf 0 = 0 := by
  unfold magnitudeOf magnitudeOfRatio
  rw [Nat.zero_mul]
  rfl

/-- Zero need not be rounded. -/
@[simp] lemma nearest_zero : nearest 0 = 0 := by decide +kernel

/-- Every other number has magnitude bits. -/
lemma magnitudeOf_eq_zero_iff {n : Nat} : magnitudeOf n = 0 ↔ n = 0 := by
  constructor
  · intro h
    by_contra hn
    have hlow := (significandOf_bounds hn).1
    rw [magnitudeOf_eq hn] at h
    omega
  · rintro rfl
    exact magnitudeOf_zero

/-- No other number is rounded to zero. -/
lemma nearest_eq_zero_iff {n : Nat} : nearest n = 0 ↔ n = 0 := by
  constructor
  · intro h
    by_contra hn
    have hlow := (nearest_bounds hn).1
    have hpos := Nat.two_pow_pos n.log2
    omega
  · rintro rfl
    exact nearest_zero

/-- **Two natural numbers have the same magnitude bits if and only if they are rounded to the same
number.** -/
theorem magnitudeOf_eq_iff {n m : Nat} : magnitudeOf n = magnitudeOf m ↔ nearest n = nearest m := by
  obtain rfl | hn := Nat.eq_zero_or_pos n
  · rw [magnitudeOf_zero, nearest_zero, @eq_comm _ 0, magnitudeOf_eq_zero_iff, @eq_comm _ 0,
      nearest_eq_zero_iff]
  obtain rfl | hm := Nat.eq_zero_or_pos m
  · rw [magnitudeOf_zero, nearest_zero, magnitudeOf_eq_zero_iff, nearest_eq_zero_iff]
  have hbits : n.log2 * 2 ^ 52 + significandOf n = m.log2 * 2 ^ 52 + significandOf m ↔
      significandOf n * 2 ^ n.log2 = significandOf m * 2 ^ m.log2 :=
    exponent_significand_iff (significandOf_bounds hn.ne') (significandOf_bounds hm.ne')
  have hleading : leadingBit = 2 ^ 52 := rfl
  rw [significandOf_mul, significandOf_mul, Nat.mul_left_inj (Nat.two_pow_pos 52).ne'] at hbits
  rw [← hbits, magnitudeOf_eq hn.ne', magnitudeOf_eq hm.ne', hleading, Nat.add_mul, Nat.add_mul,
    Nat.add_right_comm, Nat.add_right_comm (m.log2 * 2 ^ 52), Nat.add_left_inj]

/-- The magnitude bits reach a power of two with the numbers that are rounded up to it.

**Proof sketch.** Numbers of fewer bits are below it, and those of more are not.  A number that has
one bit less than the power is below it unless its significand is rounded up to one more bit. -/
lemma magnitudeOf_lt_iff_of_bits {n : Nat} (hn : n ≠ 0) (k : Nat) :
    magnitudeOf n < (k + 1077) * leadingBit ↔ n < (2 ^ 54 - 1) * 2 ^ k := by
  obtain ⟨hlow, hhigh⟩ := significandOf_bounds hn
  have hlog := Nat.log2_self_le hn
  have hlog' : n < 2 ^ (n.log2 + 1) := Nat.lt_log2_self
  rw [magnitudeOf_eq hn, leadingBit]
  obtain hsmall | heq | hgreat : n.log2 + 1 ≤ 53 + k ∨ n.log2 = 52 + (k + 1) ∨
      54 + k ≤ n.log2 := by omega
  · have hpow := Nat.pow_le_pow_right (show 0 < 2 by decide) hsmall
    rw [pow_add 2 53] at hpow
    constructor <;> intro <;> omega
  · have hsignificand : significandOf n = roundHalfEven n (2 ^ (k + 1)) := by
      rw [significandOf, heq, pow_add, Nat.mul_comm (2 ^ 52) (2 ^ (k + 1)),
        Nat.mul_comm n, Nat.mul_comm (2 ^ 52) n, roundHalfEven_mul_right _ _ (by positivity)]
    have hround : roundHalfEven n (2 ^ (k + 1)) < 2 ^ 53 ↔
        2 * n + 2 ^ (k + 1) < 2 * 2 ^ 53 * 2 ^ (k + 1) :=
      roundHalfEven_lt_iff (Nat.two_pow_pos _) (by decide)
    rw [← hsignificand, pow_succ] at hround
    rw [heq]
    omega
  · have hpow := Nat.pow_le_pow_right (show 0 < 2 by decide) hgreat
    rw [pow_add 2 54] at hpow
    constructor <;> intro <;> omega

/-- **The natural numbers with finite magnitude bits are those below the limit.** -/
theorem magnitudeOf_lt_iff {n : Nat} : magnitudeOf n < 0x7FF0000000000000 ↔ n < limit := by
  obtain rfl | hn := Nat.eq_zero_or_pos n
  · rw [magnitudeOf_zero]
    decide +kernel
  · exact magnitudeOf_lt_iff_of_bits hn.ne' 970

/-! ## Integers -/

/-- An integer, rounded to 53 significant bits. -/
def rounded (n : Int) : Int := if n < 0 then -(nearest n.natAbs : Int) else nearest n.natAbs

/-- A binary64 number is the one that an integer is rounded to.  Zero may have either sign. -/
structure RoundsFrom (x : Binary64) (n : Int) : Prop where
  magnitude : x.magnitude = magnitudeOf n.natAbs
  negative : n ≠ 0 → x.negative = decide (n < 0)

/-- The finite ratios of natural numbers to one. -/
lemma ofRatio_one (negative : Bool) (n : Nat) :
    (∀ h : n < limit, ofRatio negative n 1 =
      some ⟨negative, magnitudeOf n, magnitudeOf_lt_iff.2 h⟩) ∧
    (limit ≤ n → ofRatio negative n 1 = none) := by
  constructor
  · intro h
    exact dif_pos (magnitudeOf_lt_iff.2 h)
  · intro h
    exact dif_neg fun hfinite => Nat.not_lt.2 h (magnitudeOf_lt_iff.1 hfinite)

/-- **Two integers become equal binary64 numbers if and only if they are rounded to the same
integer.** -/
theorem RoundsFrom.sameValue_iff {x y : Binary64} {n m : Int} (hx : x.RoundsFrom n)
    (hy : y.RoundsFrom m) : x.sameValue y = true ↔ rounded n = rounded m := by
  have hzero (k : Int) : nearest k.natAbs = 0 ↔ k = 0 := by
    rw [nearest_eq_zero_iff, Int.natAbs_eq_zero]
  have hn := hzero n
  have hm := hzero m
  simp only [sameValue, Bool.and_eq_true, Bool.or_eq_true, beq_iff_eq, hx.magnitude, hy.magnitude,
    magnitudeOf_eq_iff, magnitudeOf_eq_zero_iff, Int.natAbs_eq_zero, rounded]
  by_cases hn0 : n = 0
  · subst hn0
    simp only [Int.natAbs_zero, nearest_zero, or_true, and_true]
    split_ifs <;> omega
  by_cases hm0 : m = 0
  · subst hm0
    simp only [Int.natAbs_zero, nearest_zero, hn, hn0, false_and, false_iff]
    split_ifs <;> omega
  simp only [hx.negative hn0, hy.negative hm0, decide_eq_decide, hn0, or_false]
  split_ifs <;> omega

end Binary64

end RequestRouting
