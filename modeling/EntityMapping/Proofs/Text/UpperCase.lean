import EntityMapping.Proofs.Text.LetterCase
import EntityMapping.Text.Blank

/-!
# Upper-case letters and their lower case

No letter is the lower case of another one and an upper-case letter itself
(`isUpper_of_mem_lowerChar`), and blank characters have no case (`isSettled_of_isBlank`).  Only the
first runs of the tables belong to the basic alphabet.
-/

namespace EntityMapping.Text

open LetterCase

variable {c d : Char}

/-- Checked on the tables, pair by pair and run by run; of two runs that alternate, the wider one may
be either. -/
private theorem all_runs_apart :
    (lowerShifts.all fun s => upperRuns.all fun r =>
        s.image.isApart r || r.isApart s.image) = true
      ∧ (blankRuns.all fun r => upperRuns.all r.isApart
        && lowerShifts.all fun s => r.isApart s.run && r.isApart s.image) = true
      ∧ (upperRuns.tail.all fun r => Nat.blt 127 r.first) = true
      ∧ (lowerShifts.tail.all fun s => Nat.blt 127 s.run.first) = true := by
  decide +kernel

/-- A letter that is the lower case of another one is no upper-case letter. -/
theorem isUpper_of_mem_lowerChar (hc : lowerChar c ≠ [c]) (hd : d ∈ lowerChar c) :
    isUpper d = false := by
  rcases lowerChar_cases c with ⟨-, hlower⟩ | hlower | ⟨s, hs, n, -, himage, hlower⟩
  · have hcases : d = 'i' ∨ d = '\u0307' := by simpa [hlower] using hd
    rcases hcases with rfl | rfl <;> decide
  · exact absurd hlower hc
  · obtain rfl := List.mem_singleton.mp (hlower ▸ hd)
    refine List.any_eq_false.mpr fun r hr hcovers => ?_
    rw [(toNat_ofNat_image (isSound_of_mem hs) himage).1] at hcovers
    have hapart := List.all_eq_true.mp (List.all_eq_true.mp all_runs_apart.1 s hs) r hr
    rcases Bool.or_eq_true_iff.mp hapart with h | h
    · rw [CharRun.covers_eq_false_of_isApart h himage] at hcovers
      cases hcovers
    · rw [CharRun.covers_eq_false_of_isApart h hcovers] at himage
      cases himage

/-! ### Blank characters -/

theorem isUpper_of_isBlank (h : isBlank c = true) : isUpper c = false := by
  obtain ⟨r, hr, hcovers⟩ := List.any_eq_true.mp h
  have hapart := Bool.and_eq_true_iff.mp (List.all_eq_true.mp all_runs_apart.2.1 r hr)
  refine List.any_eq_false.mpr fun s hs => ?_
  rw [CharRun.covers_eq_false_of_isApart (List.all_eq_true.mp hapart.1 s hs) hcovers]
  exact Bool.false_ne_true

theorem not_covers_of_isBlank (h : isBlank c = true) {s : Shift} (hs : s ∈ lowerShifts) :
    s.run.covers c.toNat = false ∧ s.image.covers c.toNat = false := by
  obtain ⟨r, hr, hcovers⟩ := List.any_eq_true.mp h
  have hapart := Bool.and_eq_true_iff.mp (List.all_eq_true.mp all_runs_apart.2.1 r hr)
  obtain ⟨hrun, himage⟩ := Bool.and_eq_true_iff.mp (List.all_eq_true.mp hapart.2 s hs)
  exact ⟨CharRun.covers_eq_false_of_isApart hrun hcovers,
    CharRun.covers_eq_false_of_isApart himage hcovers⟩

theorem isSettled_of_isBlank (h : isBlank c = true) : IsSettled c := by
  refine isSettled_iff.mpr (lowerChar_of_forall_covers ?_ fun s hs => (not_covers_of_isBlank h hs).1)
  rintro rfl
  revert h
  decide

/-- A blank character is its own lower case, and that of no other character. -/
theorem mem_lowerChar_iff (hd : isBlank d = true) : d ∈ lowerChar c ↔ d = c := by
  rcases lowerChar_cases c with ⟨rfl, hlower⟩ | hlower | ⟨s, hs, n, hrun, himage, hlower⟩
  · have hne : d ≠ 'i' ∧ d ≠ '\u0307' ∧ d ≠ 'İ' := by
      refine ⟨?_, ?_, ?_⟩ <;> rintro rfl <;> revert hd <;> decide
    simp [hlower, hne]
  · rw [hlower, List.mem_singleton]
  · obtain ⟨hnotRun, hnotImage⟩ := not_covers_of_isBlank hd hs
    rw [hlower, List.mem_singleton]
    refine iff_of_false ?_ ?_
    · rintro rfl
      rw [(toNat_ofNat_image (isSound_of_mem hs) himage).1, himage] at hnotImage
      cases hnotImage
    · rintro rfl
      rw [hrun] at hnotRun
      cases hnotRun

/-! ### The first runs -/

theorem lt_first_of_mem_tail_upperRuns {r : CharRun} (hr : r ∈ upperRuns.tail) : 127 < r.first :=
  Nat.blt_eq.mp (List.all_eq_true.mp all_runs_apart.2.2.1 r hr)

theorem lt_first_of_mem_tail_lowerShifts {s : Shift} (hs : s ∈ lowerShifts.tail) :
    127 < s.run.first :=
  Nat.blt_eq.mp (List.all_eq_true.mp all_runs_apart.2.2.2 s hs)

end EntityMapping.Text
