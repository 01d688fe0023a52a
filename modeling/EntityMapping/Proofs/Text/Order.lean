import EntityMapping.Text.Letter
import Mathlib.Data.List.Lex
import Mathlib.Tactic.Common

/-!
# The order of texts

Texts are in order letter by letter.  No text precedes one that precedes it, and of two different
texts that are spelled as texts are, one precedes the other (`precedes_or_precedes`).  Texts may so be
sorted by whether the second one of two does not precede the first (`not_precedes_trans`,
`not_precedes_total`).

## Main definitions

* `IsSpelled` — a string that is the writing of its letters.
-/

namespace EntityMapping.Text

/-- A string that is the writing of its letters: no mark stands in it without what belongs to it.
Every text is given by such a string. -/
def IsSpelled (s : String) : Prop := ofLetters (letters s.toList) = s.toList

instance (s : String) : Decidable (IsSpelled s) :=
  inferInstanceAs (Decidable (ofLetters (letters s.toList) = s.toList))

theorem isHalf_of_halfOf? {c : Char} {n : Nat} (h : halfOf? c = some n) : isHalf n = true := by
  unfold halfOf? at h
  dsimp only at h
  split_ifs at h with hhalf
  exact Option.some.inj h ▸ hhalf

/-- The letters of a string are proper ones. -/
theorem isProper_of_mem_letters {s : List Char} {l : Letter} (h : l ∈ letters s) : l.IsProper := by
  fun_induction letters s with
  | case1 => cases h
  | case2 c =>
    obtain rfl := List.mem_singleton.mp h
    exact trivial
  | case3 r ih =>
    rcases List.mem_cons.mp h with rfl | h
    · exact trivial
    · exact ih h
  | case4 d r _ n hn ih =>
    rcases List.mem_cons.mp h with rfl | h
    · exact isHalf_of_halfOf? hn
    · exact ih h
  | case5 d r _ _ ih =>
    rcases List.mem_cons.mp h with rfl | h
    · exact trivial
    · exact ih h
  | case6 c d r _ ih =>
    rcases List.mem_cons.mp h with rfl | h
    · exact trivial
    · exact ih h

/-- No character has the number of half of a pair. -/
theorem Letter.number_char_ne_half {c : Char} {n : Nat} (h : (half n).IsProper) :
    (char c).number ≠ (half n).number := by
  have hvalid : c.toNat < 0xd800 ∨ 0xdfff < c.toNat ∧ c.toNat < 0x110000 := c.valid
  simp only [IsProper, isHalf, opensPair, closesPair, Bool.or_eq_true, Bool.and_eq_true,
    decide_eq_true_eq] at h
  simp only [number]
  omega

/-- Proper letters are known by their numbers. -/
theorem Letter.eq_of_number_eq {l m : Letter} (hl : l.IsProper) (hm : m.IsProper)
    (h : l.number = m.number) : l = m := by
  cases l with
  | char c =>
    cases m with
    | char d => exact congrArg Letter.char (Char.toNat_inj.mp h)
    | half n => exact absurd h (number_char_ne_half hm)
  | half n =>
    cases m with
    | char d => exact absurd h.symm (number_char_ne_half hl)
    | half k => exact congrArg Letter.half h

/-- Proper letters in a row are known by their numbers. -/
theorem Letter.eq_of_map_number_eq {ls ms : List Letter} (hl : ∀ l ∈ ls, l.IsProper)
    (hm : ∀ m ∈ ms, m.IsProper) (h : ls.map number = ms.map number) : ls = ms := by
  induction ls generalizing ms with
  | nil => exact (List.map_eq_nil_iff.mp h.symm).symm
  | cons l r ih =>
    obtain ⟨m, t, rfl⟩ : ∃ m t, ms = m :: t := by
      cases ms with
      | nil => cases h
      | cons m t => exact ⟨m, t, rfl⟩
    rw [List.forall_mem_cons] at hl hm
    rw [List.map_cons, List.map_cons, List.cons.injEq] at h
    rw [eq_of_number_eq hl.1 hm.1 h.1, ih hl.2 hm.2 h.2]

variable {s t u : String}

theorem precedes_eq_false_iff : precedes s t = false
    ↔ (letters t.toList).map Letter.number ≤ (letters s.toList).map Letter.number := by
  rw [precedes, decide_eq_false_iff_not, not_lt]

theorem not_precedes_trans (hst : precedes t s = false) (htu : precedes u t = false) :
    precedes u s = false := by
  rw [precedes_eq_false_iff] at hst htu ⊢
  exact hst.trans htu

theorem not_precedes_total (s t : String) : precedes t s = false ∨ precedes s t = false := by
  rw [precedes_eq_false_iff, precedes_eq_false_iff]
  exact le_total _ _

/-- Of two different texts one precedes the other. -/
theorem precedes_or_precedes (hs : IsSpelled s) (ht : IsSpelled t) (hne : s ≠ t) :
    precedes s t ∨ precedes t s := by
  rcases lt_trichotomy ((letters s.toList).map Letter.number)
    ((letters t.toList).map Letter.number) with h | h | h
  · exact .inl (decide_eq_true h)
  · have hletters : letters s.toList = letters t.toList :=
      Letter.eq_of_map_number_eq (fun _ => isProper_of_mem_letters)
        (fun _ => isProper_of_mem_letters) h
    refine absurd (String.toList_inj.mp ?_) hne
    rw [← hs, ← ht, hletters]
  · exact .inr (decide_eq_true h)

theorem eq_of_not_precedes (hs : IsSpelled s) (ht : IsSpelled t) (hst : precedes s t = false)
    (hts : precedes t s = false) : s = t := by
  by_contra hne
  rcases precedes_or_precedes hs ht hne with h | h
  · exact Bool.false_ne_true (hst.symm.trans h)
  · exact Bool.false_ne_true (hts.symm.trans h)

end EntityMapping.Text
