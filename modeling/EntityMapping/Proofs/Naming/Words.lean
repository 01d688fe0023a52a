import EntityMapping.Proofs.Naming.FixedPoints
import EntityMapping.Proofs.Text.Pieces

/-!
# Storage names word by word

No blank character is an upper-case letter, so a text comes to its storage form character by
character, whether it is blank or not (`storageChars_cons`).  Only at the very start of a text an
upper-case letter has no underscore before it.  So where a word that begins with one stands behind
something else, its storage form is an underscore and its own storage name
(`flatMap_storageChar_of_beginsUpper`), and the storage name of words put one after another is their
storage names with underscores between them (`storageName_join`).

## Main definitions

* `BeginsUpper` — texts that begin with an upper-case letter.
-/

namespace EntityMapping

open Text

/-- A text that begins with an upper-case letter. -/
def BeginsUpper (s : List Char) : Prop := ∃ c ∈ s.head?, isUpper c = true

instance (s : List Char) : Decidable (BeginsUpper s) :=
  decidable_of_iff (s.head?.any isUpper = true) (Option.any_eq_true _ _)

variable {s w : List Char}

theorem exists_of_beginsUpper (h : BeginsUpper s) : ∃ c r, s = c :: r ∧ isUpper c = true := by
  obtain ⟨c, hc, hupper⟩ := h
  obtain ⟨r, hr⟩ := List.head?_eq_some_iff.mp hc
  exact ⟨c, r, hr, hupper⟩

theorem BeginsUpper.append (h : BeginsUpper s) (t : List Char) : BeginsUpper (s ++ t) := by
  obtain ⟨c, r, rfl, hc⟩ := exists_of_beginsUpper h
  exact ⟨c, rfl, hc⟩

/-! ### Behind other characters -/

/-- Blank or not, a text comes to its storage form character by character. -/
theorem storageChars_cons (c : Char) (r : List Char) :
    storageChars (c :: r) = storageHead c ++ r.flatMap storageChar := by
  cases hblank : (c :: r).all isBlank with
  | false => exact storageChars_of_not_blank hblank
  | true =>
    have hnone : ∀ d ∈ c :: r, isUpper d = false := fun d hd =>
      isUpper_of_isBlank (List.all_eq_true.mp hblank d hd)
    obtain ⟨hc, hr⟩ := List.forall_mem_cons.mp hnone
    rw [storageChars_of_blank hblank, storageHead_of_not_isUpper hc,
      flatMap_storageChar_eq_self_iff.mpr hr, List.singleton_append]

theorem storageChars_append (hs : s ≠ []) (t : List Char) :
    storageChars (s ++ t) = storageChars s ++ t.flatMap storageChar := by
  obtain ⟨c, r, rfl⟩ := List.exists_cons_of_ne_nil hs
  rw [List.cons_append, storageChars_cons, storageChars_cons, List.flatMap_append,
    List.append_assoc]

/-- Behind something else, a word has an underscore before the storage form that it has alone. -/
theorem flatMap_storageChar_of_beginsUpper (hw : BeginsUpper w) :
    w.flatMap storageChar = '_' :: storageChars w := by
  obtain ⟨c, r, rfl, hc⟩ := exists_of_beginsUpper hw
  rw [List.flatMap_cons, storageChar_of_isUpper hc, storageChars_cons, List.cons_append]

/-! ### Words -/

/-- The first text need not be a word. The induction is on the words behind it, and the next of them
takes its place. -/
theorem storageChars_append_flatten {ws : List (List Char)} (hs : s ≠ [])
    (hws : ∀ w ∈ ws, BeginsUpper w) :
    storageChars (s ++ ws.flatten) = joined ['_'] ((s :: ws).map storageChars) := by
  induction ws generalizing s with
  | nil => rw [List.flatten_nil, List.append_nil, List.map_singleton, joined]
  | cons w ws ih =>
    obtain ⟨hw, hws⟩ := List.forall_mem_cons.mp hws
    have hne : w ≠ [] := by
      rintro rfl
      obtain ⟨c, hc, -⟩ := hw
      cases hc
    calc storageChars (s ++ (w :: ws).flatten)
      _ = storageChars s ++ (w ++ ws.flatten).flatMap storageChar := by
        rw [List.flatten_cons, storageChars_append hs]
      _ = storageChars s ++ '_' :: storageChars (w ++ ws.flatten) := by
        rw [flatMap_storageChar_of_beginsUpper (hw.append _)]
      _ = storageChars s ++ '_' :: joined ['_'] ((w :: ws).map storageChars) := by
        rw [ih hne hws]
      _ = joined ['_'] ((s :: w :: ws).map storageChars) := by
        rw [List.map_cons, List.map_cons, List.map_cons, joined, List.append_assoc,
          List.singleton_append]

/-- The storage name of a text and words behind it, each of which begins with an upper-case letter,
is their storage names with underscores between them. -/
theorem storageName_join {s : String} {ws : List String} (hs : s ≠ "")
    (hws : ∀ w ∈ ws, BeginsUpper w.toList) :
    storageName (String.join (s :: ws)) = String.intercalate "_" ((s :: ws).map storageName) := by
  have hmap : ((s :: ws).map storageName).map String.toList
      = (s.toList :: ws.map String.toList).map storageChars := by
    simp only [List.map_cons, List.map_map, Function.comp_def, storageName, String.toList_ofList]
  refine String.toList_inj.mp ?_
  rw [storageName, String.toList_ofList, String.toList_intercalate, hmap, String.toList_join,
    List.flatMap_cons, List.flatMap_def]
  have hne : s.toList ≠ [] := mt String.toList_eq_nil_iff.mp hs
  exact (storageChars_append_flatten hne (List.forall_mem_map.mpr hws)).trans
    (joined_eq_intercalate _ _)

/-- A blank text with words of one letter and one with a numeral of the property Uppercase. -/
theorem storageName_join_blank :
    " " ≠ "" ∧ (∀ w ∈ ["Audit", "I", "D", "Ⅷb"], BeginsUpper w.toList)
      ∧ storageName (String.join (" " :: ["Audit", "I", "D", "Ⅷb"])) = " _audit_i_d_ⅷb" := by
  have hs : " " ≠ "" := by decide
  have hws : ∀ w ∈ ["Audit", "I", "D", "Ⅷb"], BeginsUpper w.toList := by decide
  refine ⟨hs, hws, ?_⟩
  rw [storageName_join hs hws]
  decide

end EntityMapping
