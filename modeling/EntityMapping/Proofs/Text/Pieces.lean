import EntityMapping.Text.Pieces
import Mathlib.Data.List.TakeWhile
import Mathlib.Tactic.Common

/-!
# Pieces and what separates them

The pieces of a text hold no separator, so texts without it are got back from what they are joined
to (`cut_joined`).  A text has two pieces just if it holds one separator (`cut_eq_pair`).
-/

namespace EntityMapping.Text

variable {sep : Char} {s t : List Char}

theorem cut_of_notMem (h : sep ∉ s) : cut sep s = [s] := by
  induction s with
  | nil => rfl
  | cons c r ih =>
    obtain ⟨hc, hr⟩ := not_or.mp (mt List.mem_cons.mpr h)
    rw [cut, if_neg (Ne.symm hc), ih hr]

theorem notMem_of_mem_cut {p : List Char} (h : p ∈ cut sep s) : sep ∉ p := by
  induction s generalizing p with
  | nil =>
    obtain rfl := List.mem_singleton.mp h
    exact List.not_mem_nil
  | cons c r ih =>
    rw [cut] at h
    split_ifs at h with hc
    · rcases List.mem_cons.mp h with rfl | h
      · exact List.not_mem_nil
      · exact ih h
    · cases hr : cut sep r with
      | nil => exact absurd hr (cut_ne_nil sep r)
      | cons q qs =>
        rw [hr] at h ih
        rcases List.mem_cons.mp h with rfl | h
        · exact mt List.mem_cons.mp (not_or.mpr ⟨Ne.symm hc, ih List.mem_cons_self⟩)
        · exact ih (List.mem_cons_of_mem q h)

/-- The characters of a piece are characters of the text. -/
theorem mem_of_mem_cut {c : Char} {p : List Char} (h : p ∈ cut sep s) (hc : c ∈ p) : c ∈ s := by
  induction s generalizing p with
  | nil =>
    rw [List.mem_singleton.mp h] at hc
    cases hc
  | cons d r ih =>
    rw [cut] at h
    split_ifs at h
    · rcases List.mem_cons.mp h with rfl | h
      · cases hc
      · exact List.mem_cons_of_mem d (ih h hc)
    · obtain ⟨q, qs, hr⟩ := List.exists_cons_of_ne_nil (cut_ne_nil sep r)
      rw [hr] at h ih
      rcases List.mem_cons.mp h with rfl | h
      · rcases List.mem_cons.mp hc with rfl | hc
        · exact List.mem_cons_self
        · exact List.mem_cons_of_mem d (ih List.mem_cons_self hc)
      · exact List.mem_cons_of_mem d (ih (List.mem_cons_of_mem q h) hc)

/-- A separator ends the pieces before it. -/
theorem cut_append (s t : List Char) : cut sep (s ++ sep :: t) = cut sep s ++ cut sep t := by
  induction s with
  | nil => simp [cut]
  | cons c r ih =>
    rw [List.cons_append, cut, cut, ih]
    split_ifs
    · rfl
    · cases hr : cut sep r with
      | nil => exact absurd hr (cut_ne_nil sep r)
      | cons p ps => rfl

/-- What stands before the first separator is the first piece. -/
theorem cut_append_cons (h : sep ∉ s) (t : List Char) :
    cut sep (s ++ sep :: t) = s :: cut sep t := by
  rw [cut_append, cut_of_notMem h, List.singleton_append]

/-- Texts without the separator are the pieces of what they are joined to. -/
theorem cut_joined {ps : List (List Char)} (hne : ps ≠ []) (h : ∀ p ∈ ps, sep ∉ p) :
    cut sep (joined [sep] ps) = ps := by
  induction ps with
  | nil => exact absurd rfl hne
  | cons p r ih =>
    obtain ⟨hp, hr⟩ := List.forall_mem_cons.mp h
    cases r with
    | nil => exact cut_of_notMem hp
    | cons q qs =>
      rw [joined, List.append_assoc, List.singleton_append, cut_append_cons hp,
        ih (List.cons_ne_nil q qs) hr]

theorem joined_cons (sep p : List Char) {ps : List (List Char)} (h : ps ≠ []) :
    joined sep (p :: ps) = p ++ sep ++ joined sep ps := by
  cases ps with
  | nil => exact absurd rfl h
  | cons q r => rfl

theorem joined_eq_intercalate (sep : List Char) (ps : List (List Char)) :
    joined sep ps = sep.intercalate ps := by
  induction ps with
  | nil => rfl
  | cons p r ih =>
    cases r with
    | nil => exact List.intercalate_singleton.symm
    | cons q qs => rw [joined, ih, List.intercalate_cons_cons]

theorem exists_joined_concat (ps : List (List Char)) (p : List Char) :
    ∃ before, joined [sep] (ps ++ [p]) = before ++ p := by
  induction ps with
  | nil => exact ⟨[], rfl⟩
  | cons q r ih =>
    obtain ⟨before, hbefore⟩ := ih
    cases r with
    | nil => exact ⟨q ++ [sep], rfl⟩
    | cons u us =>
      refine ⟨q ++ [sep] ++ before, ?_⟩
      rw [List.cons_append, List.cons_append, joined, ← List.cons_append, hbefore,
        List.append_assoc, List.append_assoc, List.append_assoc]

/-- A character of a text separates its pieces or is in one of them. -/
theorem eq_or_mem_of_mem_joined {sep c : Char} {ps : List (List Char)} (h : c ∈ joined [sep] ps) :
    c = sep ∨ ∃ p ∈ ps, c ∈ p := by
  induction ps with
  | nil => cases h
  | cons p r ih =>
    cases r with
    | nil => exact .inr ⟨p, List.mem_cons_self, h⟩
    | cons q qs =>
      rw [joined, List.append_assoc, List.mem_append, List.singleton_append, List.mem_cons] at h
      rcases h with h | rfl | h
      · exact .inr ⟨p, List.mem_cons_self, h⟩
      · exact .inl rfl
      · refine (ih h).imp_right ?_
        rintro ⟨p, hp, hc⟩
        exact ⟨p, List.mem_cons_of_mem _ hp, hc⟩

/-- A text that starts with another character has that one first on its first piece. -/
theorem exists_cut_cons {c : Char} (hc : c ≠ sep) (s : List Char) :
    ∃ p ps, cut sep (c :: s) = (c :: p) :: ps := by
  obtain ⟨p, ps, hs⟩ := List.exists_cons_of_ne_nil (cut_ne_nil sep s)
  exact ⟨p, ps, by rw [cut, if_neg hc, hs]⟩

/-- A text that ends with another character has that one last on its last piece. -/
theorem exists_cut_concat {c : Char} (hc : c ≠ sep) (s : List Char) :
    ∃ ps p, cut sep (s ++ [c]) = ps ++ [p ++ [c]] := by
  induction s with
  | nil => exact ⟨[], [], by simp [cut, hc]⟩
  | cons d r ih =>
    obtain ⟨ps, p, hr⟩ := ih
    rw [List.cons_append, cut, hr]
    split_ifs
    · exact ⟨[] :: ps, p, rfl⟩
    · cases ps with
      | nil => exact ⟨[], d :: p, rfl⟩
      | cons q qs => exact ⟨(d :: q) :: qs, p, rfl⟩

/-- A text has two pieces just if it holds the separator once. -/
theorem cut_eq_pair {before after : List Char} :
    cut sep s = [before, after] ↔ s = before ++ sep :: after ∧ sep ∉ before ∧ sep ∉ after := by
  constructor
  · intro h
    have hs : joined [sep] (cut sep s) = s := joined_cut sep s
    have hbefore : before ∈ cut sep s := by rw [h]; exact List.mem_cons_self
    have hafter : after ∈ cut sep s := by rw [h]; exact List.mem_cons_of_mem _ List.mem_cons_self
    refine ⟨?_, notMem_of_mem_cut hbefore, notMem_of_mem_cut hafter⟩
    rw [← hs, h, joined, joined, List.append_assoc, List.singleton_append]
  · rintro ⟨rfl, hbefore, hafter⟩
    rw [cut_append_cons hbefore, cut_of_notMem hafter]

/-! ### The last separator -/

theorem afterLast_of_notMem (h : sep ∉ s) : afterLast sep s = s := by
  have hall : ∀ c ∈ s.reverse, decide (c ≠ sep) = true := by
    intro c hc
    exact decide_eq_true fun he => h (he ▸ List.mem_reverse.mp hc)
  rw [afterLast, List.takeWhile_eq_self_iff.mpr hall, List.reverse_reverse]

theorem afterLast_append_cons (h : sep ∉ s) (t : List Char) :
    afterLast sep (t ++ sep :: s) = s := by
  have hall : ∀ c ∈ s.reverse, decide (c ≠ sep) = true := by
    intro c hc
    exact decide_eq_true fun he => h (he ▸ List.mem_reverse.mp hc)
  rw [afterLast, List.reverse_append, List.reverse_cons, List.append_assoc,
    List.takeWhile_append_of_pos hall, List.singleton_append,
    List.takeWhile_cons_of_neg (by simp), List.append_nil, List.reverse_reverse]

/-- What follows the last separator has none, and the text is that or has a separator before it. -/
theorem afterLast_eq_iff : afterLast sep s = t ↔ sep ∉ t ∧ (s = t ∨ ∃ u, s = u ++ sep :: t) := by
  constructor
  · rintro rfl
    by_cases h : sep ∈ s
    · obtain ⟨u, t, rfl, ht⟩ : ∃ u t, s = u ++ sep :: t ∧ sep ∉ t := by
        obtain ⟨v, u, hs, hv⟩ := List.eq_append_cons_of_mem (List.mem_reverse.mpr h)
        refine ⟨u.reverse, v.reverse, ?_, fun hmem => hv (List.mem_reverse.mp hmem)⟩
        rw [← s.reverse_reverse, hs, List.reverse_append, List.reverse_cons, List.append_assoc,
          List.singleton_append]
      rw [afterLast_append_cons ht]
      exact ⟨ht, Or.inr ⟨u, rfl⟩⟩
    · rw [afterLast_of_notMem h]
      exact ⟨h, Or.inl rfl⟩
  · rintro ⟨ht, rfl | ⟨u, rfl⟩⟩
    · exact afterLast_of_notMem ht
    · exact afterLast_append_cons ht u

end EntityMapping.Text
