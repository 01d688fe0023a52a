import EntityMapping.Text.Line
import Mathlib.Tactic.Common

/-!
# Lines of a text

Text without `\r` has its line ends unified already (`unifyNewlines_of_notMem`), and unifying line
ends does not change the lines of a text (`splitLines_unifyNewlines`).  A character that ends no
line belongs to the first line of what follows it; for the character that the signature of a file
spells, this gives the marked lines (`linesOf_cons_signature`).

## Main definitions

* `marked` — lines with the character that the signature spells before the first one.
-/

namespace EntityMapping.Text

theorem unifyNewlines_of_notMem {s : List Char} (h : '\r' ∉ s) : unifyNewlines s = s := by
  fun_induction unifyNewlines s with
  | case1 => rfl
  | case2 r ih => simp at h
  | case3 c r _ ih =>
    rw [List.mem_cons, not_or] at h
    rw [if_neg (Ne.symm h.1), ih h.2]

theorem splitLines_cons_of_break {c : Char} (hc : isLineBreak c = true) {r : List Char}
    (h : c = '\r' → r.head? ≠ some '\n') : splitLines (c :: r) = [] :: splitLines r := by
  have hpair : ∀ r', c = '\r' → r = '\n' :: r' → False := by
    rintro r' rfl rfl
    exact h rfl rfl
  exact (splitLines.eq_3 c r hpair).trans (if_pos hc)

theorem splitLines_cons_of_not_break {c : Char} (hc : isLineBreak c = false) (r : List Char) :
    splitLines (c :: r) = match splitLines r with
      | [] => [[c]]
      | l :: ls => (c :: l) :: ls := by
  have hpair : ∀ r', c = '\r' → r = '\n' :: r' → False := by
    rintro r' rfl
    cases hc
  exact (splitLines.eq_3 c r hpair).trans (if_neg (ne_true_of_eq_false hc))

/-- What ends no line belongs to the first line of what follows; here that line is empty. -/
theorem splitLines_append {l r : List Char} {ls : List (List Char)}
    (hl : ∀ c ∈ l, isLineBreak c = false) (hr : splitLines r = [] :: ls) :
    splitLines (l ++ r) = l :: ls := by
  induction l with
  | nil => exact hr
  | cons c l ih =>
    obtain ⟨hc, hl⟩ := List.forall_mem_cons.mp hl
    rw [List.cons_append, splitLines_cons_of_not_break hc, ih hl]

/-- A text without line ends is one line, unless it is empty. -/
theorem splitLines_of_unbroken {l : List Char} (hl : ∀ c ∈ l, isLineBreak c = false)
    (hne : l ≠ []) : splitLines l = [l] := by
  induction l with
  | nil => exact absurd rfl hne
  | cons c l ih =>
    obtain ⟨hc, hl⟩ := List.forall_mem_cons.mp hl
    rw [splitLines_cons_of_not_break hc]
    by_cases hnil : l = []
    · rw [hnil, splitLines_nil]
    · rw [ih hl hnil]

/-- Unifying line ends does not change the lines. -/
theorem splitLines_unifyNewlines (s : List Char) : splitLines (unifyNewlines s) = splitLines s := by
  have hnewline (r : List Char) : splitLines ('\n' :: r) = [] :: splitLines r :=
    splitLines_cons_of_break rfl fun h => nomatch h
  fun_induction unifyNewlines s with
  | case1 => rfl
  | case2 r ih => rw [hnewline, ih, splitLines]
  | case3 c r hpair ih =>
    by_cases hreturn : c = '\r'
    · have hnext : r.head? ≠ some '\n' := by
        intro hhead
        obtain ⟨r', rfl⟩ := List.head?_eq_some_iff.mp hhead
        exact hpair r' hreturn rfl
      have hbreak : isLineBreak c = true := by
        rw [hreturn]
        rfl
      rw [if_pos hreturn, hnewline, ih, splitLines_cons_of_break hbreak fun _ => hnext]
    · rw [if_neg hreturn]
      cases hbreak : isLineBreak c with
      | true =>
        rw [splitLines_cons_of_break hbreak (absurd · hreturn),
          splitLines_cons_of_break hbreak (absurd · hreturn), ih]
      | false => rw [splitLines_cons_of_not_break hbreak, splitLines_cons_of_not_break hbreak, ih]

/-- Lines with the character that the signature spells before the first one. -/
def marked : List String → List String
  | [] => ["\ufeff"]
  | l :: ls => String.ofList ('\ufeff' :: l.toList) :: ls

/-- A first character that the signature spells belongs to the first line. -/
theorem linesOf_cons_signature (r : List Char) : linesOf ('\ufeff' :: r) = marked (linesOf r) := by
  rw [linesOf, splitLines_cons_of_not_break rfl, linesOf]
  cases splitLines r with
  | nil => rfl
  | cons l ls => rw [List.map_cons, List.map_cons, marked, String.toList_ofList]

theorem ne_marked (ls : List String) : ls ≠ marked ls := by
  cases ls with
  | nil => simp [marked]
  | cons l ls =>
    rw [marked]
    intro h
    have hl : l.toList = '\ufeff' :: l.toList := by
      conv_lhs => rw [(List.cons.inj h).1, String.toList_ofList]
    exact absurd (congrArg List.length hl) (by simp)

end EntityMapping.Text
