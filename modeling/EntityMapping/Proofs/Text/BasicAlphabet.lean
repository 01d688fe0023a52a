import Mathlib
import EntityMapping.Proofs.Text.UpperCase

/-!
# Letters and digits of the basic alphabet

In the basic alphabet letter case is that of `Char.isUpper` and `Char.toLower`
(`isUpper_of_basic`, `lowerChar_of_basic`), as only the first runs of the tables belong to it.
Letters and digits are not blank, none is an underscore, and a letter is known by its lower case and
by whether it is an upper-case letter (`eq_of_toLower_eq`).
-/

namespace EntityMapping.Text

open LetterCase

variable {c d : Char}

/-! ### Letter case -/

/-- The first run of both tables. -/
def capitals : CharRun := ⟨65, 90, 1⟩

theorem upperRuns_eq_cons : upperRuns = capitals :: upperRuns.tail := rfl

theorem lowerShifts_eq_cons : lowerShifts = ⟨capitals, 32⟩ :: lowerShifts.tail := rfl

theorem covers_capitals : capitals.covers c.toNat = c.isUpper := by
  have hrange : c.isUpper = true ↔ 65 ≤ c.toNat ∧ c.toNat ≤ 90 := by
    rw [Char.isUpper, decide_eq_true_eq]
    exact and_congr UInt32.le_iff_toNat_le UInt32.le_iff_toNat_le
  rw [Bool.eq_iff_iff, CharRun.covers_iff, hrange, ← and_assoc]
  exact and_iff_left Nat.modEq_one

theorem isUpper_of_basic (hc : c.toNat < 128) : isUpper c = c.isUpper := by
  have htail : upperRuns.tail.any (fun r => r.covers c.toNat) = false := by
    refine List.any_eq_false.mpr fun r hr => Bool.eq_false_iff.mp ?_
    have hbehind := lt_first_of_mem_tail_upperRuns hr
    exact CharRun.covers_eq_false_of_lt (by omega)
  rw [isUpper, inRuns, upperRuns_eq_cons, List.any_cons, htail, Bool.or_false, covers_capitals]

theorem lowerChar_of_basic (hc : c.toNat < 128) : lowerChar c = [c.toLower] := by
  have hdot : c ≠ 'İ' := by
    rintro rfl
    exact absurd hc (by decide)
  rw [lowerChar, if_neg hdot, lowerShifts_eq_cons, List.find?_cons, covers_capitals]
  cases hupper : c.isUpper with
  | true =>
    have hsum : ((c.toNat : Int) + 32).toNat = c.toNat + 32 := by omega
    dsimp only
    rw [Char.toLower_eq_of_isUpper hupper, hsum]
  | false =>
    have htail : lowerShifts.tail.find? (fun s => s.run.covers c.toNat) = none := by
      refine List.find?_eq_none.mpr fun s hs => Bool.eq_false_iff.mp ?_
      have hbehind := lt_first_of_mem_tail_lowerShifts hs
      exact CharRun.covers_eq_false_of_lt (by omega)
    rw [htail, Char.toLower_eq_of_not_isUpper (Bool.eq_false_iff.mp hupper)]

/-! ### Letters and digits -/

theorem toNat_of_isAlphanum (hc : c.isAlphanum = true) : 48 ≤ c.toNat ∧ c.toNat ≤ 122 := by
  have hrange : '0'.val ≤ c.val ∧ c.val ≤ 'z'.val := by
    simp only [Char.isAlphanum, Char.isAlpha, Char.isUpper, Char.isLower, Char.isDigit,
      Bool.or_eq_true, Bool.and_eq_true, decide_eq_true_eq] at hc
    rcases hc with (⟨hA, hZ⟩ | ⟨ha, hz⟩) | ⟨hzero, hnine⟩
    · exact ⟨UInt32.le_trans (by decide) hA, UInt32.le_trans hZ (by decide)⟩
    · exact ⟨UInt32.le_trans (by decide) ha, hz⟩
    · exact ⟨hzero, UInt32.le_trans hnine (by decide)⟩
  exact hrange.imp UInt32.le_iff_toNat_le.mp UInt32.le_iff_toNat_le.mp

theorem toNat_lt_of_isAlphanum (hc : c.isAlphanum = true) : c.toNat < 128 :=
  Nat.lt_of_le_of_lt (toNat_of_isAlphanum hc).2 (by decide)

theorem isBlank_of_isAlphanum (hc : c.isAlphanum = true) : isBlank c = false := by
  have hruns : ∀ r ∈ blankRuns, r.last < 48 ∨ 122 < r.first := by decide
  obtain ⟨hfirst, hlast⟩ := toNat_of_isAlphanum hc
  refine List.any_eq_false.mpr fun r hr hcovers => ?_
  obtain ⟨hfrom, hto, -⟩ := CharRun.covers_iff.mp hcovers
  rcases hruns r hr with hbelow | habove <;> omega

theorem toLower_ne_underscore (hc : c.isAlphanum = true) : c.toLower ≠ '_' := by
  intro hline
  by_cases hupper : c.isUpper = true
  · have hlower : c.toLower.isLower = true := by
      rw [Char.isLower_toLower_eq_isAlpha, Char.isAlpha, hupper, Bool.true_or]
    rw [hline] at hlower
    cases hlower
  · rw [Char.toLower_eq_of_not_isUpper hupper] at hline
    rw [hline] at hc
    cases hc

theorem toUpper_toLower_of_isUpper (hc : c.isUpper = true) : c.toLower.toUpper = c := by
  rw [Char.toUpper_toLower_eq_toUpper,
    Char.toUpper_eq_of_not_isLower (Char.not_isLower_of_isUpper hc)]

/-- Among the upper-case letters, and among the rest, a character is known by its lower case. -/
theorem eq_of_toLower_eq (hupper : c.isUpper = d.isUpper) (hlower : c.toLower = d.toLower) :
    c = d := by
  by_cases hc : c.isUpper = true
  · have hd : d.isUpper = true := hupper ▸ hc
    rw [← toUpper_toLower_of_isUpper hc, hlower, toUpper_toLower_of_isUpper hd]
  · have hd : ¬d.isUpper = true := hupper ▸ hc
    rwa [Char.toLower_eq_of_not_isUpper hc, Char.toLower_eq_of_not_isUpper hd] at hlower

end EntityMapping.Text
