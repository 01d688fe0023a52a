import EntityMapping.Naming
import EntityMapping.Proofs.Text.UpperCase
import EntityMapping.Text.Line

/-!
# Line ends in storage names

A line end is a blank character, and so its own lower case and that of no letter: a storage name has
just the line ends of its identifier (`mem_storageName_iff`).
-/

namespace EntityMapping

open Text

variable {d : Char}

theorem isBlank_of_isLineBreak (hd : isLineBreak d = true) : isBlank d = true := by
  simp only [isLineBreak, decide_eq_true_eq, List.mem_cons, List.not_mem_nil, or_false] at hd
  rcases hd with rfl | rfl | rfl | rfl | rfl | rfl | rfl | rfl | rfl | rfl <;> decide

theorem mem_storageChar_iff {c : Char} (hd : isLineBreak d = true) : d ∈ storageChar c ↔ d = c := by
  have hline : d ≠ '_' := by
    rintro rfl
    cases hd
  unfold storageChar
  split_ifs
  · rw [List.mem_cons, mem_lowerChar_iff (isBlank_of_isLineBreak hd), or_iff_right hline]
  · exact List.mem_singleton

theorem mem_storageHead_iff {c : Char} (hd : isLineBreak d = true) : d ∈ storageHead c ↔ d = c := by
  unfold storageHead
  split_ifs
  · exact mem_lowerChar_iff (isBlank_of_isLineBreak hd)
  · exact List.mem_singleton

/-- The line ends of a storage name are those of its identifier. -/
theorem mem_storageName_iff {s : String} (hd : isLineBreak d = true) :
    d ∈ (storageName s).toList ↔ d ∈ s.toList := by
  rw [storageName, String.toList_ofList]
  cases s.toList with
  | nil => exact Iff.rfl
  | cons c r =>
    rw [storageChars]
    split_ifs
    · exact Iff.rfl
    · simp only [List.mem_append, mem_storageHead_iff hd, List.mem_flatMap, mem_storageChar_iff hd,
        exists_eq_right', List.mem_cons]

end EntityMapping
