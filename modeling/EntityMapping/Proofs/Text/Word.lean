import EntityMapping.Proofs.Text.LetterCase
import EntityMapping.Text.Blank
import EntityMapping.Text.Word

/-!
# Word characters

Blank characters are no word characters (`isWordChar_of_isBlank`), so a word ends where blanks
begin.
-/

namespace EntityMapping.Text

open Word

/-- Checked on the tables, run by run. -/
private theorem all_wordRuns_apart :
    (blankRuns.all fun r => numericRuns.all r.isApart && startRuns.all r.isApart) = true
      ∧ isWordChar '<' = false := by
  decide +kernel

theorem isWordChar_of_isBlank {c : Char} (h : isBlank c = true) : isWordChar c = false := by
  obtain ⟨r, hr, hcovers⟩ := List.any_eq_true.mp h
  obtain ⟨hnumeric, hstart⟩ :=
    Bool.and_eq_true_iff.mp (List.all_eq_true.mp all_wordRuns_apart.1 r hr)
  have hnot {rs : List CharRun} (hall : rs.all r.isApart = true) : inRuns rs c = false := by
    refine List.any_eq_false.mpr fun s hs => ?_
    rw [CharRun.covers_eq_false_of_isApart (List.all_eq_true.mp hall s hs) hcovers]
    exact Bool.false_ne_true
  rw [isWordChar, isIdentStart, hnot hnumeric, hnot hstart]
  rfl

theorem isWordChar_less : isWordChar '<' = false := all_wordRuns_apart.2

end EntityMapping.Text
