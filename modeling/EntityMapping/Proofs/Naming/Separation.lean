import EntityMapping.Proofs.Naming.FixedPoints
import EntityMapping.Proofs.Text.BasicAlphabet

/-!
# Storage names of different names

A name here consists of letters and digits of the basic alphabet.  Its storage name has an underscore
just before each upper-case letter behind the first character (`spaced_storageChars`).  No letter or
digit is an underscore, so the pieces that the characters come to can be told apart one after
the other, and only the case of the first character is lost (`storageName_separates`).

## Main definitions

* `IsBasicName` — texts of letters and digits of the basic alphabet.
* `EqualButHead` — equality up to the case of the first character.
* `storagePlace` — where a character of a name stands in the storage name.
* `placeBehind` — where it stands when the first character is left out.
* `Spaced` — the letters of a name with underscores before the upper-case ones.

## Main results

* `storageChars_eq_iff` — when two names have one storage name.
* `spaced_storageChars` — where the underscores stand.
* `storageName_separates` — both.
-/

namespace EntityMapping

open Text

/-- A text of letters and digits of the basic alphabet. -/
def IsBasicName (s : List Char) : Prop := ∀ c ∈ s, c.isAlphanum = true

instance (s : List Char) : Decidable (IsBasicName s) :=
  decidable_of_iff (s.all Char.isAlphanum = true) List.all_eq_true

/-- The texts are equal up to the case of their first characters. -/
def EqualButHead (s t : List Char) : Prop :=
  s.head?.map Char.toLower = t.head?.map Char.toLower ∧ s.tail = t.tail

instance (s t : List Char) : Decidable (EqualButHead s t) := inferInstanceAs (Decidable (_ ∧ _))

/-- Where a character of a name stands in the storage name: behind the characters before it, and an
underscore for each upper-case letter up to it but the first character. -/
def storagePlace (s : List Char) (k : Nat) : Nat := k + (s.tail.take k).countP Char.isUpper

/-- The second text has the characters of the first one in lower case, with an underscore just before
each upper-case letter behind the first character and nothing else. -/
structure Spaced (s t : List Char) : Prop where
  length : t.length = s.length + s.tail.countP Char.isUpper
  letter : ∀ k c, s[k]? = some c → t[storagePlace s k]? = some c.toLower
  underscore : ∀ i, t[i]? = some '_' ↔
    ∃ k c, 0 < k ∧ s[k]? = some c ∧ c.isUpper = true ∧ i + 1 = storagePlace s k

variable {c d : Char} {q r s t : List Char}

/-! ### Letters and digits -/

theorem storageHead_of_isAlphanum (hc : c.isAlphanum = true) : storageHead c = [c.toLower] := by
  have hbasic := toNat_lt_of_isAlphanum hc
  cases hupper : isUpper c with
  | true => rw [storageHead_of_isUpper hupper, lowerChar_of_basic hbasic]
  | false =>
    have hnot : ¬c.isUpper = true := by
      rw [← isUpper_of_basic hbasic, hupper]
      exact Bool.false_ne_true
    rw [storageHead_of_not_isUpper hupper, Char.toLower_eq_of_not_isUpper hnot]

theorem storageChar_of_isAlphanum (hc : c.isAlphanum = true) :
    storageChar c = if c.isUpper = true then ['_', c.toLower] else [c.toLower] := by
  rw [← isUpper_of_basic (toNat_lt_of_isAlphanum hc), ← storageHead_of_isAlphanum hc]
  cases hupper : isUpper c with
  | true => rw [storageChar_of_isUpper hupper, if_pos rfl, storageHead_of_isAlphanum hc]
  | false => rw [storageChar_of_not_isUpper hupper, if_neg Bool.false_ne_true]

theorem storageChars_of_isBasicName (hs : IsBasicName (c :: r)) :
    storageChars (c :: r) = c.toLower :: r.flatMap storageChar := by
  have hc : c.isAlphanum = true := hs c List.mem_cons_self
  have hblank : (c :: r).all isBlank = false := by
    rw [List.all_cons, isBlank_of_isAlphanum hc, Bool.false_and]
  rw [storageChars_of_not_blank hblank, storageHead_of_isAlphanum hc, List.singleton_append]

/-! ### Two names -/

/-- The piece that a letter or digit comes to shows where it ends. -/
theorem storageChar_append_inj (hc : c.isAlphanum = true) (hd : d.isAlphanum = true)
    (h : storageChar c ++ q = storageChar d ++ r) : c = d ∧ q = r := by
  rw [storageChar_of_isAlphanum hc, storageChar_of_isAlphanum hd] at h
  have hcline := toLower_ne_underscore hc
  have hdline := toLower_ne_underscore hd
  by_cases hcupper : c.isUpper = true <;> by_cases hdupper : d.isUpper = true
  · rw [if_pos hcupper, if_pos hdupper] at h
    obtain ⟨hlower, hrest⟩ := List.cons.inj (List.cons.inj h).2
    exact ⟨eq_of_toLower_eq (hcupper.trans hdupper.symm) hlower, hrest⟩
  · rw [if_pos hcupper, if_neg hdupper] at h
    exact absurd (List.cons.inj h).1.symm hdline
  · rw [if_neg hcupper, if_pos hdupper] at h
    exact absurd (List.cons.inj h).1 hcline
  · rw [if_neg hcupper, if_neg hdupper] at h
    obtain ⟨hlower, hrest⟩ := List.cons.inj h
    have hupper : c.isUpper = d.isUpper :=
      (Bool.eq_false_iff.mpr hcupper).trans (Bool.eq_false_iff.mpr hdupper).symm
    exact ⟨eq_of_toLower_eq hupper hlower, hrest⟩

theorem flatMap_storageChar_inj (hq : IsBasicName q) (hr : IsBasicName r)
    (h : q.flatMap storageChar = r.flatMap storageChar) : q = r := by
  induction q generalizing r with
  | nil =>
    cases r with
    | nil => rfl
    | cons d r => exact absurd (List.append_eq_nil_iff.mp h.symm).1 (storageChar_ne_nil d)
  | cons c q ih =>
    cases r with
    | nil => exact absurd (List.append_eq_nil_iff.mp h).1 (storageChar_ne_nil c)
    | cons d r =>
      obtain ⟨hc, hqs⟩ := List.forall_mem_cons.mp hq
      obtain ⟨hd, hrs⟩ := List.forall_mem_cons.mp hr
      obtain ⟨rfl, hrest⟩ := storageChar_append_inj hc hd h
      rw [ih hqs hrs hrest]

/-- Two names have one storage name just if they are equal up to the case of the first character. -/
theorem storageChars_eq_iff (hs : IsBasicName s) (ht : IsBasicName t) :
    storageChars s = storageChars t ↔ EqualButHead s t := by
  cases s with
  | nil =>
    cases t with
    | nil => simp [EqualButHead]
    | cons d r => simp [EqualButHead, storageChars_of_isBasicName ht]
  | cons c q =>
    cases t with
    | nil => simp [EqualButHead, storageChars_of_isBasicName hs]
    | cons d r =>
      have hq : IsBasicName q := (List.forall_mem_cons.mp hs).2
      have hr : IsBasicName r := (List.forall_mem_cons.mp ht).2
      have hrest : q.flatMap storageChar = r.flatMap storageChar ↔ q = r :=
        ⟨flatMap_storageChar_inj hq hr, fun h => h ▸ rfl⟩
      rw [storageChars_of_isBasicName hs, storageChars_of_isBasicName ht, List.cons_eq_cons, hrest]
      simp [EqualButHead]

theorem EqualButHead.eq_of_isUpper (h : EqualButHead s t) (hs : s.head?.any Char.isUpper = true)
    (ht : t.head?.any Char.isUpper = true) : s = t := by
  obtain ⟨hhead, htail⟩ := h
  obtain ⟨c, hc, hcupper⟩ := (Option.any_eq_true _ _).mp hs
  obtain ⟨d, hd, hdupper⟩ := (Option.any_eq_true _ _).mp ht
  obtain ⟨q, rfl⟩ := List.head?_eq_some_iff.mp hc
  obtain ⟨r, rfl⟩ := List.head?_eq_some_iff.mp hd
  have hlower : c.toLower = d.toLower := Option.some.inj hhead
  rw [eq_of_toLower_eq (hcupper.trans hdupper.symm) hlower]
  exact congrArg (d :: ·) htail

/-! ### Underscores -/

/-- Where a character stands if no character is the first one: each upper-case letter up to it has its
underscore. -/
def placeBehind (r : List Char) (k : Nat) : Nat := k + (r.take (k + 1)).countP Char.isUpper

theorem storagePlace_succ (c : Char) (r : List Char) (k : Nat) :
    storagePlace (c :: r) (k + 1) = placeBehind r k + 1 := by
  rw [storagePlace, placeBehind, List.tail_cons]
  omega

theorem placeBehind_zero (c : Char) (r : List Char) :
    placeBehind (c :: r) 0 = if c.isUpper = true then 1 else 0 := by
  simp [placeBehind, List.countP_cons]

theorem placeBehind_succ (c : Char) (r : List Char) (k : Nat) :
    placeBehind (c :: r) (k + 1) = placeBehind r k + 1 + if c.isUpper = true then 1 else 0 := by
  rw [placeBehind, placeBehind, List.take_succ_cons, List.countP_cons]
  omega

theorem lt_placeBehind {k : Nat} (hk : r[k]? = some c) (hc : c.isUpper = true) :
    k < placeBehind r k := by
  have hmem : c ∈ r.take (k + 1) :=
    List.mem_of_getElem? ((List.getElem?_take_of_lt (Nat.lt_succ_self k)).trans hk)
  have hpos : 0 < (r.take (k + 1)).countP Char.isUpper := List.countP_pos_iff.mpr ⟨c, hmem, hc⟩
  rw [placeBehind]
  omega

theorem length_flatMap_storageChar (hr : IsBasicName r) :
    (r.flatMap storageChar).length = r.length + r.countP Char.isUpper := by
  induction r with
  | nil => rfl
  | cons d r ih =>
    obtain ⟨hd, hrs⟩ := List.forall_mem_cons.mp hr
    rw [List.flatMap_cons, storageChar_of_isAlphanum hd, List.length_append, ih hrs,
      List.length_cons, List.countP_cons]
    split <;> simp only [List.length_cons, List.length_nil] <;> omega

theorem getElem?_flatMap_storageChar (hr : IsBasicName r) {k : Nat} (hk : r[k]? = some c) :
    (r.flatMap storageChar)[placeBehind r k]? = some c.toLower := by
  induction r generalizing k with
  | nil => cases hk
  | cons d r ih =>
    obtain ⟨hd, hr⟩ := List.forall_mem_cons.mp hr
    rw [List.flatMap_cons, storageChar_of_isAlphanum hd]
    cases k with
    | zero =>
      obtain rfl := Option.some.inj hk
      rw [placeBehind_zero]
      split <;> rfl
    | succ k =>
      rw [placeBehind_succ]
      split
      · exact ih hr hk
      · exact ih hr hk

/-- An upper-case letter stands at the start or behind it. -/
theorem exists_placeBehind_cons {i : Nat} :
    (∃ k c, (d :: r)[k]? = some c ∧ c.isUpper = true ∧ i + 1 = placeBehind (d :: r) k)
      ↔ d.isUpper = true ∧ i = 0
        ∨ ∃ k c, r[k]? = some c ∧ c.isUpper = true
          ∧ i = placeBehind r k + if d.isUpper = true then 1 else 0 := by
  constructor
  · rintro ⟨k, c, hk, hc, hplace⟩
    cases k with
    | zero =>
      obtain rfl := Option.some.inj hk
      rw [placeBehind_zero, if_pos hc] at hplace
      exact Or.inl ⟨hc, by omega⟩
    | succ k =>
      rw [placeBehind_succ] at hplace
      exact Or.inr ⟨k, c, hk, hc, by omega⟩
  · rintro (⟨hd, rfl⟩ | ⟨k, c, hk, hc, hplace⟩)
    · exact ⟨0, d, rfl, hd, by rw [placeBehind_zero, if_pos hd]⟩
    · exact ⟨k + 1, c, hk, hc, by rw [placeBehind_succ]; omega⟩

theorem getElem?_flatMap_storageChar_eq_underscore (hr : IsBasicName r) {i : Nat} :
    (r.flatMap storageChar)[i]? = some '_'
      ↔ ∃ k c, r[k]? = some c ∧ c.isUpper = true ∧ i + 1 = placeBehind r k := by
  induction r generalizing i with
  | nil => simp
  | cons d r ih =>
    obtain ⟨hd, hrs⟩ := List.forall_mem_cons.mp hr
    have hline : some d.toLower ≠ some '_' := mt Option.some.inj (toLower_ne_underscore hd)
    -- An upper-case letter behind this one has its own underscore before it.
    have hnone : ¬∃ k c, r[k]? = some c ∧ c.isUpper = true ∧ 0 = placeBehind r k := by
      rintro ⟨k, c, hk, hc, hplace⟩
      have := lt_placeBehind hk hc
      omega
    rw [List.flatMap_cons, storageChar_of_isAlphanum hd, exists_placeBehind_cons]
    by_cases hupper : d.isUpper = true
    · rw [if_pos hupper, if_pos hupper]
      rcases i with _ | _ | i
      · exact iff_of_true rfl (Or.inl ⟨hupper, rfl⟩)
      · refine iff_of_false hline ?_
        rintro (⟨_, hzero⟩ | ⟨k, c, hk, hc, hplace⟩)
        · exact absurd hzero (Nat.succ_ne_zero 0)
        · exact hnone ⟨k, c, hk, hc, Nat.succ.inj hplace⟩
      · have hrest : ('_' :: [d.toLower] ++ r.flatMap storageChar)[i + 1 + 1]?
            = (r.flatMap storageChar)[i]? := rfl
        rw [hrest, ih hrs]
        simp
    · rw [if_neg hupper, if_neg hupper]
      simp only [hupper, Bool.false_eq_true, false_and, false_or, Nat.add_zero]
      rcases i with _ | i
      · exact iff_of_false hline hnone
      · exact ih hrs

/-- The underscores of a storage name stand just before the upper-case letters behind the first
character. -/
theorem spaced_storageChars (hs : IsBasicName s) : Spaced s (storageChars s) := by
  cases s with
  | nil => exact ⟨rfl, by simp, by simp⟩
  | cons c r =>
    obtain ⟨hc, hr⟩ := List.forall_mem_cons.mp hs
    rw [storageChars_of_isBasicName hs]
    constructor
    · rw [List.length_cons, length_flatMap_storageChar hr, List.length_cons, List.tail_cons]
      omega
    · intro k d hk
      cases k with
      | zero =>
        obtain rfl := Option.some.inj hk
        rfl
      | succ k =>
        rw [storagePlace_succ]
        exact getElem?_flatMap_storageChar hr hk
    · intro i
      constructor
      · intro hi
        cases i with
        | zero => exact absurd (Option.some.inj hi) (toLower_ne_underscore hc)
        | succ i =>
          obtain ⟨k, d, hk, hd, hplace⟩ := (getElem?_flatMap_storageChar_eq_underscore hr).mp hi
          exact ⟨k + 1, d, Nat.succ_pos k, hk, hd, by rw [storagePlace_succ, hplace]⟩
      · rintro ⟨k, d, hpos, hk, hd, hplace⟩
        obtain ⟨k, rfl⟩ := Nat.exists_eq_add_one.mpr hpos
        rw [storagePlace_succ] at hplace
        have hbehind : r[k]? = some d := hk
        have hlt : k < placeBehind r k := lt_placeBehind hbehind hd
        obtain ⟨i, rfl⟩ : ∃ j, i = j + 1 := ⟨i - 1, by omega⟩
        exact (getElem?_flatMap_storageChar_eq_underscore hr).mpr ⟨k, d, hbehind, hd, by omega⟩

theorem lt_storagePlace {k : Nat} (hpos : 0 < k) (hk : s[k]? = some c) (hc : c.isUpper = true) :
    k < storagePlace s k := by
  cases s with
  | nil => cases hk
  | cons d r =>
    obtain ⟨k, rfl⟩ := Nat.exists_eq_add_one.mpr hpos
    have hbehind : r[k]? = some c := hk
    have hlt : k < placeBehind r k := lt_placeBehind hbehind hc
    rw [storagePlace_succ]
    omega

namespace Spaced

/-- An underscore has a letter or digit before it. -/
theorem head?_ne (h : Spaced s t) : t.head? ≠ some '_' := by
  intro hhead
  rw [List.head?_eq_getElem?] at hhead
  obtain ⟨k, c, hpos, hk, hc, hplace⟩ := (h.underscore 0).mp hhead
  have hlt : k < storagePlace s k := lt_storagePlace hpos hk hc
  omega

/-- An underscore has a letter or digit behind it. -/
theorem exists_next (h : Spaced s t) (hs : IsBasicName s) {i : Nat} (hi : t[i]? = some '_') :
    ∃ c, c ≠ '_' ∧ t[i + 1]? = some c := by
  obtain ⟨k, c, -, hk, -, hplace⟩ := (h.underscore i).mp hi
  refine ⟨c.toLower, toLower_ne_underscore (hs c (List.mem_of_getElem? hk)), ?_⟩
  rw [hplace]
  exact h.letter k c hk

theorem getLast?_ne (h : Spaced s t) (hs : IsBasicName s) : t.getLast? ≠ some '_' := by
  intro hlast
  rw [List.getLast?_eq_getElem?] at hlast
  obtain ⟨c, -, hnext⟩ := h.exists_next hs hlast
  obtain ⟨hlt, -⟩ := List.getElem?_eq_some_iff.mp hnext
  omega

theorem not_doubled (h : Spaced s t) (hs : IsBasicName s) : ¬['_', '_'] <:+: t := by
  rintro ⟨q, r, rfl⟩
  have hfirst : (q ++ ['_', '_'] ++ r)[q.length]? = some '_' := by simp
  have hsecond : (q ++ ['_', '_'] ++ r)[q.length + 1]? = some '_' := by simp
  obtain ⟨c, hne, hnext⟩ := h.exists_next hs hfirst
  exact hne (Option.some.inj (hnext.symm.trans hsecond))

end Spaced

/-- The storage names of two names of letters and digits are the same just if the names are equal
up to the case of the first character, so two names that start with an upper-case letter each have
storage names of their own.  A storage name has no underscore at either end and no two in a row:
its underscores are those just before the upper-case letters behind the first character. -/
theorem storageName_separates {a b : String} (ha : IsBasicName a.toList)
    (hb : IsBasicName b.toList) :
    (storageName a = storageName b ↔ EqualButHead a.toList b.toList)
      ∧ (a.toList.head?.any Char.isUpper = true → b.toList.head?.any Char.isUpper = true →
          a ≠ b → storageName a ≠ storageName b)
      ∧ (storageName a).toList.head? ≠ some '_'
      ∧ (storageName a).toList.getLast? ≠ some '_'
      ∧ ¬['_', '_'] <:+: (storageName a).toList
      ∧ Spaced a.toList (storageName a).toList := by
  have hiff : storageName a = storageName b ↔ EqualButHead a.toList b.toList := by
    rw [storageName, storageName, String.ofList_inj, storageChars_eq_iff ha hb]
  have hspaced : Spaced a.toList (storageName a).toList := by
    rw [storageName, String.toList_ofList]
    exact spaced_storageChars ha
  refine ⟨hiff, ?_, hspaced.head?_ne, hspaced.getLast?_ne ha, hspaced.not_doubled ha, hspaced⟩
  intro hatitle hbtitle hne hsame
  exact hne (String.toList_inj.mp ((hiff.mp hsame).eq_of_isUpper hatitle hbtitle))

/-- A run of upper-case letters and a digit: only the case of the first character is lost. -/
theorem storageName_separates_userID2 :
    IsBasicName "UserID2".toList ∧ IsBasicName "userID2".toList ∧ IsBasicName "UserId2".toList
      ∧ storageName "UserID2" = storageName "userID2"
      ∧ storageName "UserID2" ≠ storageName "UserId2"
      ∧ Spaced "UserID2".toList "user_i_d2".toList := by
  have hname : IsBasicName "UserID2".toList := by decide
  have hfield : IsBasicName "userID2".toList := by decide
  have hword : IsBasicName "UserId2".toList := by decide
  have hsame := storageName_separates hname hfield
  have hother := storageName_separates hname hword
  have htext : storageName "UserID2" = "user_i_d2" := by decide
  exact ⟨hname, hfield, hword, hsame.1.mpr (by decide),
    hother.2.1 (by decide) (by decide) (by decide), htext ▸ hsame.2.2.2.2.2⟩

end EntityMapping
