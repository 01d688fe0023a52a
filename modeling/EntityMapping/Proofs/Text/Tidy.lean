import EntityMapping.Proofs.Text.Pieces
import EntityMapping.Text.Tidy

/-!
# Text that is tidy already

Full lines in paragraphs, with one empty line between neighbours, are a text that tidying leaves as
it is (`tidied_lined`).

## Main definitions

* `lined` — the text of lines.
* `IsFull` — a line that tidying keeps.
* `Paragraphs` — lines that stand in paragraphs.
-/

namespace EntityMapping.Text

/-- The text of lines, each with a line end after it. -/
def lined (ls : List String) : String := String.join (ls.map (· ++ "\n"))

/-- A line that is not empty, has no line end in it and does not end in a blank. -/
def IsFull (l : String) : Prop := '\n' ∉ l.toList ∧ ∃ c ∈ l.toList.getLast?, isBlank c = false

/-- Paragraphs of full lines with one empty line between neighbours. -/
inductive Paragraphs : List String → Prop
  /-- There is one paragraph. -/
  | single {p : List String} (hne : p ≠ []) (hfull : ∀ l ∈ p, IsFull l) : Paragraphs p
  /-- A paragraph stands before others. -/
  | before {p ls : List String} (hne : p ≠ []) (hfull : ∀ l ∈ p, IsFull l)
      (hls : Paragraphs ls) : Paragraphs (p ++ "" :: ls)

variable {l s t : String} {ls : List String}

/-! ### The text of lines -/

@[simp] theorem lined_nil : lined [] = "" := rfl

@[simp] theorem lined_cons : lined (l :: ls) = l ++ "\n" ++ lined ls := String.join_cons

theorem lined_append (ls ms : List String) : lined (ls ++ ms) = lined ls ++ lined ms := by
  rw [lined, List.map_append, String.join_append, lined, lined]

theorem toList_lined (hne : ls ≠ []) :
    (lined ls).toList = joined ['\n'] (ls.map String.toList) ++ ['\n'] := by
  induction ls with
  | nil => exact absurd rfl hne
  | cons l r ih =>
    cases r with
    | nil => simp [joined]
    | cons m r =>
      rw [lined_cons, String.toList_append, ih (List.cons_ne_nil m r)]
      simp [joined]

/-! ### Full lines -/

instance (l : String) : Decidable (IsFull l) :=
  @instDecidableAnd _ _ _ (Option.decidableExistsMem _)

theorem notMem_toList_append {c : Char} :
    c ∉ (s ++ t).toList ↔ c ∉ s.toList ∧ c ∉ t.toList := by
  rw [String.toList_append, List.mem_append, not_or]

namespace IsFull

/-- A full line stays full with something before it. -/
theorem append_left (h : IsFull t) (hs : '\n' ∉ s.toList) : IsFull (s ++ t) := by
  obtain ⟨ht, c, hc, hblank⟩ := h
  refine ⟨notMem_toList_append.mpr ⟨hs, ht⟩, c, ?_, hblank⟩
  rw [String.toList_append, List.getLast?_append, Option.mem_def.mp hc]
  rfl

theorem ne_nil (h : IsFull l) : l.toList ≠ [] := by
  rintro hnil
  obtain ⟨-, c, hc, -⟩ := h
  rw [hnil] at hc
  cases hc

theorem trimEnd_eq (h : IsFull l) : trimEnd l.toList = l.toList := by
  obtain ⟨-, c, hc, hblank⟩ := h
  obtain ⟨front, hl⟩ := List.getLast?_eq_some_iff.mp hc
  rw [trimEnd, hl, List.reverse_concat, List.dropWhile_cons_of_neg (by rw [hblank]; simp),
    List.reverse_cons, List.reverse_reverse]

end IsFull

/-! ### Paragraphs are tidy -/

theorem collapse_append {p : List (List Char)} (hne : p ≠ []) (hfull : ∀ l ∈ p, l ≠ [])
    (blank : Bool) (ls : List (List Char)) : collapse blank (p ++ ls) = p ++ collapse false ls := by
  induction p generalizing blank with
  | nil => exact absurd rfl hne
  | cons l r ih =>
    obtain ⟨hl, hr⟩ := List.forall_mem_cons.mp hfull
    rw [List.cons_append, collapse, if_neg hl, List.cons_append]
    by_cases hnil : r = []
    · rw [hnil]
      rfl
    · rw [ih hnil hr]

namespace Paragraphs

theorem ne_nil (h : Paragraphs ls) : ls ≠ [] := by
  cases h with
  | single hne _ => exact hne
  | before hne _ _ => exact fun h => hne (List.append_eq_nil_iff.mp h).1

theorem full_or_empty (h : Paragraphs ls) : ∀ l ∈ ls, IsFull l ∨ l = "" := by
  induction h with
  | single _ hfull => exact fun l hl => .inl (hfull l hl)
  | before _ hfull _ ih =>
    intro l hl
    rcases List.mem_append.mp hl with hl | hl
    · exact .inl (hfull l hl)
    · rcases List.mem_cons.mp hl with hl | hl
      · exact .inr hl
      · exact ih l hl

theorem full_head (h : Paragraphs ls) : ∃ l r, ls = l :: r ∧ IsFull l := by
  have hcons {p : List String} (hne : p ≠ []) (hfull : ∀ l ∈ p, IsFull l) :
      ∃ l r, p = l :: r ∧ IsFull l := by
    obtain ⟨l, r, rfl⟩ := List.exists_cons_of_ne_nil hne
    exact ⟨l, r, rfl, hfull l List.mem_cons_self⟩
  cases h with
  | single hne hfull => exact hcons hne hfull
  | before hne hfull _ =>
    obtain ⟨l, r, rfl, hl⟩ := hcons hne hfull
    exact ⟨l, _, rfl, hl⟩

theorem full_last (h : Paragraphs ls) : ∃ front l, ls = front ++ [l] ∧ IsFull l := by
  induction h with
  | single hne hfull =>
    exact ⟨_, _, (List.dropLast_concat_getLast hne).symm, hfull _ (List.getLast_mem hne)⟩
  | @before p _ _ _ _ ih =>
    obtain ⟨front, l, rfl, hl⟩ := ih
    exact ⟨p ++ "" :: front, l, by rw [List.append_assoc, List.cons_append], hl⟩

theorem collapse_eq (h : Paragraphs ls) (blank : Bool) :
    collapse blank (ls.map String.toList) = ls.map String.toList := by
  have hnonempty {p : List String} (hfull : ∀ l ∈ p, IsFull l) :
      ∀ l ∈ p.map String.toList, l ≠ [] := by
    intro _ hl
    obtain ⟨l, hmem, rfl⟩ := List.mem_map.mp hl
    exact (hfull l hmem).ne_nil
  induction h generalizing blank with
  | single hne hfull =>
    have := collapse_append (mt List.map_eq_nil_iff.mp hne) (hnonempty hfull) blank []
    simpa [collapse] using this
  | before hne hfull _ ih =>
    rw [List.map_append, collapse_append (mt List.map_eq_nil_iff.mp hne) (hnonempty hfull),
      List.map_cons, String.toList_empty, collapse, if_pos rfl, if_neg Bool.false_ne_true, ih]

end Paragraphs

/-- A text that neither starts nor ends with a line end is what stripping one at its end leaves. -/
theorem stripNewlines_concat {s : List Char} (hhead : ∃ c r, s = c :: r ∧ c ≠ '\n')
    (hlast : ∃ front c, s = front ++ [c] ∧ c ≠ '\n') : stripNewlines (s ++ ['\n']) = s := by
  obtain ⟨c, r, hcons, hc⟩ := hhead
  obtain ⟨front, d, hconcat, hd⟩ := hlast
  have hstart : (s ++ ['\n']).dropWhile (· = '\n') = s ++ ['\n'] := by
    rw [hcons, List.cons_append, List.dropWhile_cons_of_neg (by simpa using hc)]
  have hend : s.reverse.dropWhile (· = '\n') = s.reverse := by
    rw [hconcat, List.reverse_concat, List.dropWhile_cons_of_neg (by simpa using hd)]
  rw [stripNewlines, hstart, List.reverse_concat, List.dropWhile_cons_of_pos (by simp), hend,
    List.reverse_reverse]

/-- What lines with full ones at both ends are joined to neither starts nor ends with a line end. -/
private theorem exists_ends_joined (h : Paragraphs ls) :
    let s := joined ['\n'] (ls.map String.toList)
    (∃ c r, s = c :: r ∧ c ≠ '\n') ∧ ∃ front c, s = front ++ [c] ∧ c ≠ '\n' := by
  obtain ⟨l, r, hcons, hl⟩ := h.full_head
  obtain ⟨front, m, hconcat, hm⟩ := h.full_last
  constructor
  · obtain ⟨c, cs, hc⟩ := List.exists_cons_of_ne_nil hl.ne_nil
    have hne : c ≠ '\n' := fun he => hl.1 (by rw [hc, he]; exact List.mem_cons_self)
    refine ⟨c, ?_⟩
    cases r with
    | nil => exact ⟨cs, by rw [hcons, List.map_singleton, joined, hc], hne⟩
    | cons q qs =>
      exact ⟨_, by rw [hcons, List.map_cons, List.map_cons, joined, hc, List.cons_append,
        List.cons_append], hne⟩
  · obtain ⟨cs, c, hc⟩ : ∃ cs c, m.toList = cs ++ [c] :=
      ⟨_, _, (List.dropLast_concat_getLast hm.ne_nil).symm⟩
    have hne : c ≠ '\n' := fun he => hm.1 (by rw [hc, he]; simp)
    obtain ⟨before, hs⟩ : ∃ before, joined ['\n'] (ls.map String.toList) = before ++ m.toList := by
      rw [hconcat, List.map_append, List.map_singleton]
      exact exists_joined_concat _ _
    exact ⟨before ++ cs, c, by rw [hs, hc, List.append_assoc], hne⟩

/-- Tidying leaves paragraphs of full lines as they are. -/
theorem tidied_lined (h : Paragraphs ls) : tidied (lined ls) = lined ls := by
  have hne : ls.map String.toList ≠ [] := mt List.map_eq_nil_iff.mp h.ne_nil
  have hmem (P : List Char → Prop) (hempty : P []) (hfull : ∀ l, IsFull l → P l.toList) :
      ∀ l ∈ ls.map String.toList, P l := by
    intro _ hl
    obtain ⟨l, hmem, rfl⟩ := List.mem_map.mp hl
    rcases h.full_or_empty l hmem with hl | rfl
    · exact hfull l hl
    · exact hempty
  have hcut : cut '\n' (joined ['\n'] (ls.map String.toList)) = ls.map String.toList :=
    cut_joined hne (hmem _ List.not_mem_nil fun _ hl => hl.1)
  have htrim : (ls.map String.toList).map trimEnd = ls.map String.toList := by
    rw [List.map_congr_left (hmem (fun l => trimEnd l = id l) trimEnd_nil
      fun _ hl => hl.trimEnd_eq), List.map_id]
  obtain ⟨hhead, hlast⟩ := exists_ends_joined h
  have hstrip : stripNewlines (lined ls).toList = joined ['\n'] (ls.map String.toList) := by
    rw [toList_lined h.ne_nil, stripNewlines_concat hhead hlast]
  rw [tidied, tidy, hstrip, hcut, htrim, h.collapse_eq, ← toList_lined h.ne_nil,
    String.ofList_toList]

end EntityMapping.Text
