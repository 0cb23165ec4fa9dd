import RequestRouting.Proofs.Unicode.RangeTable
import RequestRouting.Unicode.Direction

/-!
# Characters that do not run from right to left

The classes of text from right to left are those of the first three tables, so characters that
these tables avoid are in none of them.

## Main results

* `Unicode.not_rightToLeft` — characters in none of the three tables.
* `Unicode.not_rightToLeft_of_ascii` — ASCII characters do not run from right to left.
-/

set_option autoImplicit false

namespace RequestRouting

namespace Unicode

open RangeTable (Avoids avoids_ofText)

/-- The classes of text from right to left. -/
def rightToLeft : List Direction := [.right, .arabic, .arabicNumber]

/-- A character in none of the three tables is in none of the three classes. -/
theorem not_rightToLeft {c : Char} (hright : rightLetters.contains c.toNat = false)
    (harabic : arabicLetters.contains c.toNat = false)
    (hnumber : arabicNumbers.contains c.toNat = false) : direction c ∉ rightToLeft := by
  refine RangeTable.classOf_induction (P := (· ∉ rightToLeft)) (fun entry hentry hcontains => ?_)
    (by decide)
  obtain ⟨value, table⟩ := entry
  dsimp only at hcontains ⊢
  simp only [directions, List.mem_cons, Prod.mk.injEq, List.not_mem_nil, or_false] at hentry
  rcases hentry with ⟨-, htable⟩ | ⟨-, htable⟩ | ⟨-, htable⟩ | ⟨rfl, -⟩ | ⟨rfl, -⟩ | ⟨rfl, -⟩ |
    ⟨rfl, -⟩ | ⟨rfl, -⟩ | ⟨rfl, -⟩ | ⟨rfl, -⟩
  · rw [htable, hright] at hcontains
    exact absurd hcontains Bool.false_ne_true
  · rw [htable, harabic] at hcontains
    exact absurd hcontains Bool.false_ne_true
  · rw [htable, hnumber] at hcontains
    exact absurd hcontains Bool.false_ne_true
  all_goals decide

/-! ## ASCII characters -/

section Ascii

set_option maxRecDepth 4000

/-- No ASCII character is a letter of the scripts that run from right to left. -/
lemma avoids_rightLetters : rightLetters.Avoids 0 0x7F := avoids_ofText rfl (by decide +kernel)

/-- No ASCII character is a letter of the Arabic script. -/
lemma avoids_arabicLetters : arabicLetters.Avoids 0 0x7F := avoids_ofText rfl (by decide +kernel)

/-- No ASCII character is a figure of the Arabic script. -/
lemma avoids_arabicNumbers : arabicNumbers.Avoids 0 0x7F := avoids_ofText rfl (by decide +kernel)

/-- **ASCII characters do not run from right to left.** -/
theorem not_rightToLeft_of_ascii {c : Char} (h : c.toNat < 0x80) : direction c ∉ rightToLeft :=
  not_rightToLeft (avoids_rightLetters.contains_eq_false (Nat.zero_le _) (by omega))
    (avoids_arabicLetters.contains_eq_false (Nat.zero_le _) (by omega))
    (avoids_arabicNumbers.contains_eq_false (Nat.zero_le _) (by omega))

end Ascii

end Unicode

end RequestRouting
