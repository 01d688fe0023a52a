import EntityMapping.Text.Blank
import Mathlib.Data.List.DropRight
import Mathlib.Data.List.TakeWhile

/-!
# What trimming takes away

Trimming takes the blank characters at the ends of a text away and nothing else.  So a text is cut
into blanks, the trimmed text and blanks, and there is no other way to cut it so (`trim_eq_iff`).

## Main definitions

* `Trims` — a text is another one without the blanks around it.
-/

namespace EntityMapping.Text

/-- The second text is the first one without the blanks around it: it has blanks on neither side. -/
def Trims (s t : List Char) : Prop :=
  (∃ u v, s = u ++ t ++ v ∧ u.all isBlank = true ∧ v.all isBlank = true)
    ∧ (∀ c ∈ t.head?, isBlank c = false) ∧ ∀ c ∈ t.getLast?, isBlank c = false

variable {s t u v : List Char}

/-! ### One end -/

theorem trimStart_append (hu : u.all isBlank = true) (ht : ∀ c ∈ t.head?, isBlank c = false) :
    trimStart (u ++ t) = t := by
  rw [trimStart, List.dropWhile_append_of_pos (List.all_eq_true.mp hu)]
  cases t with
  | nil => rfl
  | cons c r => exact List.dropWhile_cons_of_neg (Bool.eq_false_iff.mp (ht c rfl))

theorem exists_trimStart (s : List Char) :
    ∃ u, s = u ++ trimStart s ∧ u.all isBlank = true
      ∧ ∀ c ∈ (trimStart s).head?, isBlank c = false := by
  refine ⟨s.takeWhile isBlank, (List.takeWhile_append_dropWhile).symm, List.all_takeWhile, ?_⟩
  intro c hc
  have hhead := List.head?_dropWhile_not isBlank s
  rw [trimStart] at hc
  rw [hc] at hhead
  simpa using hhead

/-- Trimming at the end is trimming at the start of the text that is read backwards. -/
theorem trimEnd_eq_reverse (s : List Char) : trimEnd s = (trimStart s.reverse).reverse := rfl

theorem trimEnd_append_blank (hv : v.all isBlank = true)
    (ht : ∀ c ∈ t.getLast?, isBlank c = false) : trimEnd (t ++ v) = t := by
  rw [trimEnd_eq_reverse, List.reverse_append, trimStart_append, List.reverse_reverse]
  · rwa [List.all_reverse]
  · rwa [List.head?_reverse]

theorem exists_trimEnd (s : List Char) :
    ∃ v, s = trimEnd s ++ v ∧ v.all isBlank = true
      ∧ ∀ c ∈ (trimEnd s).getLast?, isBlank c = false := by
  obtain ⟨u, hs, hu, hhead⟩ := exists_trimStart s.reverse
  refine ⟨u.reverse, ?_, by rwa [List.all_reverse], ?_⟩
  · rw [trimEnd_eq_reverse, ← List.reverse_append, ← hs, List.reverse_reverse]
  · rwa [trimEnd_eq_reverse, List.getLast?_reverse]

theorem trimEnd_eq_nil_iff : trimEnd s = [] ↔ s.all isBlank = true := by
  rw [List.all_eq_true]
  exact List.rdropWhile_eq_nil_iff

theorem trimEnd_trimEnd (s : List Char) : trimEnd (trimEnd s) = trimEnd s :=
  List.rdropWhile_idempotent isBlank s

theorem mem_of_mem_trimEnd {c : Char} (h : c ∈ trimEnd s) : c ∈ s :=
  (List.rdropWhile_prefix isBlank s).subset h

/-! ### Both ends -/

theorem trim_of_blank (h : s.all isBlank = true) : trim s = [] := by
  rw [trim, trimStart, List.dropWhile_eq_nil_iff.mpr (List.all_eq_true.mp h)]
  rfl

/-- A text is trimmed to what is left without the blanks around it. -/
theorem trim_eq_iff : trim s = t ↔ Trims s t := by
  constructor
  · rintro rfl
    obtain ⟨u, hs, hu, hhead⟩ := exists_trimStart s
    obtain ⟨v, ht, hv, hlast⟩ := exists_trimEnd (trimStart s)
    refine ⟨⟨u, v, ?_, hu, hv⟩, ?_, hlast⟩
    · rw [trim, List.append_assoc, ← ht, ← hs]
    · intro c hc
      refine hhead c ?_
      rw [ht, List.head?_append, ← trim, hc]
      rfl
  · rintro ⟨⟨u, v, rfl, hu, hv⟩, hhead, hlast⟩
    by_cases hempty : t = []
    · subst hempty
      refine trim_of_blank ?_
      rw [List.append_nil, List.all_append, hu, hv]
      rfl
    · have hstart : ∀ c ∈ (t ++ v).head?, isBlank c = false := by
        rwa [List.head?_append_of_ne_nil t hempty]
      rw [trim, List.append_assoc, trimStart_append hu hstart, trimEnd_append_blank hv hlast]

theorem trims_self_iff :
    Trims t t ↔ (∀ c ∈ t.head?, isBlank c = false) ∧ ∀ c ∈ t.getLast?, isBlank c = false :=
  and_iff_right ⟨[], [], (List.append_nil t).symm, rfl, rfl⟩

theorem trim_trim (s : List Char) : trim (trim s) = trim s :=
  trim_eq_iff.mpr (trims_self_iff.mpr (trim_eq_iff.mp rfl).2)

theorem mem_of_mem_trim {c : Char} (h : c ∈ trim s) : c ∈ s :=
  (List.dropWhile_sublist isBlank).subset (mem_of_mem_trimEnd h)

theorem trim_eq_nil_iff : trim s = [] ↔ s.all isBlank = true := by
  refine ⟨fun h => ?_, trim_of_blank⟩
  obtain ⟨⟨u, v, rfl, hu, hv⟩, -⟩ := trim_eq_iff.mp h
  rw [List.append_nil, List.all_append, hu, hv]
  rfl

end EntityMapping.Text
