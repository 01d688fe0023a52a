import EntityMapping.Naming
import EntityMapping.Proofs.Text.UpperCase

/-!
# Storage names in lower case

Taking the storage name puts only upper-case letters into lower case.  Two kinds of letters fit
badly into that.  A title-case letter is no upper-case letter, but has a lower case other than
itself: it stays as it is, so the storage name is in lower case just if there is none.  An upper-case
letter without a lower case stays an upper-case letter, so that each time one more underscore is put
before it: the storage name is its own storage name just if there is none behind the first
character (`storageName_settled_iff`).

## Main definitions

* `IsTitle` — letters between upper and lower case.
* `IsUnpaired` — upper-case letters without a lower case.

## Main results

* `storageChars_eq_self_iff` — the texts that are their own storage names.
* `storageName_settled_iff` — when storage names are in lower case, and when they are such texts.
-/

namespace EntityMapping

open Text

/-- A letter that is no upper-case letter and has a lower case other than itself. -/
def IsTitle (c : Char) : Prop := isUpper c = false ∧ lowerChar c ≠ [c]

/-- An upper-case letter that is its own lower case. -/
def IsUnpaired (c : Char) : Prop := isUpper c = true ∧ lowerChar c = [c]

variable {c d h : Char} {q r s : List Char}

/-! ### One character -/

theorem not_isTitle_iff_of_not_isUpper (hc : isUpper c = false) : ¬IsTitle c ↔ IsSettled c := by
  rw [IsTitle, isSettled_iff, and_iff_right hc, not_not]

theorem not_isTitle_of_isBlank (hc : isBlank c = true) : ¬IsTitle c :=
  (not_isTitle_iff_of_not_isUpper (isUpper_of_isBlank hc)).mpr (isSettled_of_isBlank hc)

theorem not_isUnpaired_of_isBlank (hc : isBlank c = true) : ¬IsUnpaired c := by
  rintro ⟨hupper, -⟩
  rw [isUpper_of_isBlank hc] at hupper
  cases hupper

theorem storageHead_of_isUpper (hc : isUpper c = true) : storageHead c = lowerChar c := if_pos hc

theorem storageHead_of_not_isUpper (hc : isUpper c = false) : storageHead c = [c] := by
  rw [storageHead, hc, if_neg Bool.false_ne_true]

theorem storageChar_of_isUpper (hc : isUpper c = true) : storageChar c = '_' :: storageHead c := by
  rw [storageChar, if_pos hc, storageHead_of_isUpper hc]

theorem storageChar_of_not_isUpper (hc : isUpper c = false) : storageChar c = storageHead c := by
  rw [storageChar, hc, if_neg Bool.false_ne_true, storageHead_of_not_isUpper hc]

theorem storageHead_ne_nil (c : Char) : storageHead c ≠ [] := by
  unfold storageHead
  split
  · exact lowerChar_ne_nil c
  · exact List.cons_ne_nil c []

theorem storageChar_ne_nil (c : Char) : storageChar c ≠ [] := by
  unfold storageChar
  split <;> exact List.cons_ne_nil _ _

theorem forall_mem_storageHead_isSettled : (∀ d ∈ storageHead c, IsSettled d) ↔ ¬IsTitle c := by
  cases hc : isUpper c with
  | true =>
    rw [storageHead_of_isUpper hc]
    refine iff_of_true (fun _ => isSettled_of_mem_lowerChar) ?_
    rintro ⟨hnot, -⟩
    rw [hc] at hnot
    cases hnot
  | false =>
    rw [storageHead_of_not_isUpper hc, List.forall_mem_singleton, not_isTitle_iff_of_not_isUpper hc]

theorem forall_mem_storageChar_isSettled : (∀ d ∈ storageChar c, IsSettled d) ↔ ¬IsTitle c := by
  rw [← forall_mem_storageHead_isSettled]
  cases hc : isUpper c with
  | true =>
    have hline : IsSettled '_' := ⟨by decide, by decide⟩
    rw [storageChar_of_isUpper hc, List.forall_mem_cons, and_iff_right hline]
  | false => rw [storageChar_of_not_isUpper hc]

/-- The storage form of a character has upper-case letters just if it is the one such letter. -/
theorem forall_mem_storageHead_isUpper :
    (∀ d ∈ storageHead c, isUpper d = false) ↔ ¬IsUnpaired c := by
  cases hc : isUpper c with
  | true =>
    rw [storageHead_of_isUpper hc, IsUnpaired, and_iff_right hc]
    by_cases hsame : lowerChar c = [c]
    · rw [hsame, List.forall_mem_singleton, hc]
      simp
    · exact iff_of_true (fun _ => isUpper_of_mem_lowerChar hsame) hsame
  | false =>
    rw [storageHead_of_not_isUpper hc, List.forall_mem_singleton, IsUnpaired, hc]
    simp

theorem forall_mem_storageChar_isUpper :
    (∀ d ∈ storageChar c, isUpper d = false) ↔ ¬IsUnpaired c := by
  rw [← forall_mem_storageHead_isUpper]
  cases hc : isUpper c with
  | true =>
    have hline : isUpper '_' = false := by decide
    rw [storageChar_of_isUpper hc, List.forall_mem_cons, and_iff_right hline]
  | false => rw [storageChar_of_not_isUpper hc]

/-- What the first character comes to stays as it is the next time. -/
theorem storageHead_of_storageHead_eq (hcons : storageHead c = h :: q) :
    storageHead h = [h] ∧ ∀ d ∈ q, isUpper d = false := by
  by_cases hc : IsUnpaired c
  · have hsame : storageHead c = [c] := (storageHead_of_isUpper hc.1).trans hc.2
    obtain ⟨rfl, rfl⟩ := List.cons.inj (hsame.symm.trans hcons)
    exact ⟨hsame, List.forall_mem_nil _⟩
  · have hall := forall_mem_storageHead_isUpper.mpr hc
    rw [hcons, List.forall_mem_cons] at hall
    exact ⟨storageHead_of_not_isUpper hall.1, hall.2⟩

/-! ### Texts -/

theorem storageChars_of_blank (hs : s.all isBlank = true) : storageChars s = s := by
  cases s with
  | nil => rfl
  | cons c r => rw [storageChars, if_pos hs]

theorem storageChars_of_not_blank (hs : (c :: r).all isBlank = false) :
    storageChars (c :: r) = storageHead c ++ r.flatMap storageChar := by
  rw [storageChars, hs, if_neg Bool.false_ne_true]

theorem length_le_flatMap_storageChar (q : List Char) : q.length ≤ (q.flatMap storageChar).length := by
  induction q with
  | nil => exact Nat.le_refl _
  | cons c r ih =>
    have hpos := List.length_pos_iff.mpr (storageChar_ne_nil c)
    rw [List.flatMap_cons, List.length_append, List.length_cons]
    omega

theorem flatMap_storageChar_eq_self_iff :
    q.flatMap storageChar = q ↔ ∀ d ∈ q, isUpper d = false := by
  induction q with
  | nil => exact iff_of_true rfl (List.forall_mem_nil _)
  | cons c r ih =>
    rw [List.flatMap_cons, List.forall_mem_cons, ← ih]
    constructor
    · intro hself
      obtain ⟨hpiece, hrest⟩ :=
        eq_of_append_eq_cons hself (storageChar_ne_nil c) (length_le_flatMap_storageChar r)
      refine ⟨?_, hrest⟩
      rw [Bool.eq_false_iff]
      intro hupper
      rw [storageChar_of_isUpper hupper] at hpiece
      exact storageHead_ne_nil c (List.cons.inj hpiece).2
    · rintro ⟨hc, hrest⟩
      rw [storageChar_of_not_isUpper hc, storageHead_of_not_isUpper hc, hrest,
        List.singleton_append]

/-- A text is its own storage name just if no character but the first is an upper-case letter, and
the first stays as it is. -/
theorem storageChars_eq_self_iff :
    storageChars (h :: q) = h :: q ↔ storageHead h = [h] ∧ ∀ d ∈ q, isUpper d = false := by
  cases hblank : (h :: q).all isBlank with
  | true =>
    have hnone : ∀ d ∈ h :: q, isUpper d = false := fun d hd =>
      isUpper_of_isBlank (List.all_eq_true.mp hblank d hd)
    obtain ⟨hh, hq⟩ := List.forall_mem_cons.mp hnone
    exact iff_of_true (storageChars_of_blank hblank) ⟨storageHead_of_not_isUpper hh, hq⟩
  | false =>
    rw [storageChars_of_not_blank hblank, ← flatMap_storageChar_eq_self_iff]
    constructor
    · exact fun hself =>
        eq_of_append_eq_cons hself (storageHead_ne_nil h) (length_le_flatMap_storageChar q)
    · rintro ⟨hh, hq⟩
      rw [hh, hq, List.singleton_append]

theorem forall_mem_storageChars_isSettled :
    (∀ d ∈ storageChars s, IsSettled d) ↔ ∀ c ∈ s, ¬IsTitle c := by
  cases hblank : s.all isBlank with
  | true =>
    have hall := List.all_eq_true.mp hblank
    rw [storageChars_of_blank hblank]
    exact iff_of_true (fun c hc => isSettled_of_isBlank (hall c hc))
      fun c hc => not_isTitle_of_isBlank (hall c hc)
  | false =>
    cases s with
    | nil => cases hblank
    | cons c r =>
      rw [storageChars_of_not_blank hblank, List.forall_mem_append, List.forall_mem_flatMap,
        List.forall_mem_cons, forall_mem_storageHead_isSettled]
      exact and_congr_right fun _ => forall₂_congr fun _ _ => forall_mem_storageChar_isSettled

theorem storageChars_storageChars_iff :
    storageChars (storageChars s) = storageChars s ↔ ∀ c ∈ s.tail, ¬IsUnpaired c := by
  cases hblank : s.all isBlank with
  | true =>
    have hall := List.all_eq_true.mp hblank
    rw [storageChars_of_blank hblank, storageChars_of_blank hblank]
    exact iff_of_true rfl fun c hc => not_isUnpaired_of_isBlank (hall c (List.mem_of_mem_tail hc))
  | false =>
    cases s with
    | nil => cases hblank
    | cons c r =>
      obtain ⟨h, q, hcons⟩ := List.exists_cons_of_ne_nil (storageHead_ne_nil c)
      obtain ⟨hhead, hrest⟩ := storageHead_of_storageHead_eq hcons
      rw [storageChars_of_not_blank hblank, hcons, List.cons_append, storageChars_eq_self_iff,
        and_iff_right hhead, List.forall_mem_append, and_iff_right hrest, List.forall_mem_flatMap]
      exact forall₂_congr fun _ _ => forall_mem_storageChar_isUpper

/-- A storage name is in lower case just if its identifier has no title-case letter, and it is its
own storage name just if all upper-case letters behind the first character have a lower case. -/
theorem storageName_settled_iff (s : String) :
    (lowered (storageName s) = storageName s ↔ ∀ c ∈ s.toList, ¬IsTitle c)
      ∧ (storageName (storageName s) = storageName s ↔ ∀ c ∈ s.toList.tail, ¬IsUnpaired c) := by
  constructor
  · rw [lowered, storageName, String.toList_ofList, String.ofList_inj, lowerAfter_eq_self_iff]
    exact forall_mem_storageChars_isSettled
  · rw [storageName, storageName, String.toList_ofList, String.ofList_inj]
    exact storageChars_storageChars_iff

/-- The storage name of a text with a title-case letter is not in lower case, and that of a text with
an upper-case letter without a lower case is not its own storage name. -/
theorem storageName_not_settled :
    isBlankText "ǅep" = false ∧ storageName "ǅep" = "ǅep"
      ∧ lowered (storageName "ǅep") = "ǆep" ∧ lowered (storageName "ǅep") ≠ storageName "ǅep"
      ∧ isBlankText "aϒ" = false ∧ storageName "aϒ" = "a_ϒ"
      ∧ storageName (storageName "aϒ") = "a__ϒ"
      ∧ storageName (storageName "aϒ") ≠ storageName "aϒ" := by
  decide

end EntityMapping
