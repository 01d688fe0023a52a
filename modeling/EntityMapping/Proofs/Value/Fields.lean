import EntityMapping.Proofs.Assoc
import EntityMapping.Proofs.Value.Parts
import Mathlib.Data.List.Pairwise

/-!
# Fields under text keys

A key that is a text is the same key as itself only, so under text keys an object is an association
list: `Fields.get?_text` and `Fields.set_text` say so, and what is known of association lists
carries over.  Setting all fields of one object in another looks first in the object that was laid
over (`Fields.get?_update`).

Other keys may be the same though they differ, as numbers of two kinds are.  Where an object has no
two such keys, it is an association list all the same (`Fields.update_eq`).

Values without repeated keys are equal to themselves (`Value.same_refl`), and an object laid over
another one is equal to what was laid over just if it has all keys of the other
(`Value.same_update_iff`).
-/

namespace EntityMapping

theorem Key.same_text {k : Key} {s : String} : k.same (.text s) = true ↔ k = .text s := by
  cases k <;> simp [Key.same]

theorem Key.text_same {k : Key} {s : String} : (Key.text s).same k = true ↔ k = .text s := by
  cases k with
  | text t =>
    rw [Key.same, beq_iff_eq, Key.text.injEq]
    exact eq_comm
  | _ => simp [Key.same]

theorem Key.same_comm (j k : Key) : j.same k = k.same j := by
  cases j <;> cases k <;>
    simp only [Key.same, Decimal.Binary64.same, Bool.and_comm, Bool.beq_comm]

theorem Key.same_self (k : Key) : k.same k = true := by
  cases k <;> simp [Key.same, Decimal.Binary64.same]

namespace Fields

theorem get?_text (fs : Fields) (s : String) : get? fs (.text s) = Assoc.get? (.text s) fs := by
  induction fs with
  | nil => rfl
  | cons f r ih =>
    obtain ⟨k, v⟩ := f
    rw [get?, Assoc.get?_cons, ih]
    simp only [Key.same_text]

theorem set_text (fs : Fields) (s : String) (v : Value) :
    set fs (.text s) v = Assoc.set (.text s) v fs := by
  induction fs with
  | nil => rfl
  | cons f r ih =>
    obtain ⟨k, w⟩ := f
    rw [set, Assoc.set, ih]
    simp only [Key.same_text]

/-- A text key is not touched by setting another key, of whatever kind. -/
theorem get?_set_of_ne {fs : Fields} {k : Key} {s : String} (v : Value) (h : k ≠ .text s) :
    get? (set fs k v) (.text s) = get? fs (.text s) := by
  induction fs with
  | nil => simp [set, get?, Key.same_text, h]
  | cons f r ih =>
    obtain ⟨j, w⟩ := f
    rw [set]
    split
    · rename_i hsame
      have hj : j ≠ .text s := by
        rintro rfl
        exact h (Key.text_same.mp hsame)
      simp only [get?, Key.same_text, hj, if_false]
    · simp only [get?, ih]

theorem get?_set (fs : Fields) (k : Key) (v : Value) (s : String) :
    get? (set fs k v) (.text s) = if k = .text s then some v else get? fs (.text s) := by
  by_cases h : k = .text s
  · rw [if_pos h, h, set_text, get?_text, Assoc.get?_set_same]
  · rw [if_neg h, get?_set_of_ne v h]

theorem get?_eq_none_iff {fs : Fields} {s : String} :
    get? fs (.text s) = none ↔ Key.text s ∉ keys fs := by
  rw [get?_text]
  exact Assoc.get?_eq_none_iff

theorem mem_of_get?_eq_some {fs : Fields} {s : String} {v : Value}
    (h : get? fs (.text s) = some v) : (Key.text s, v) ∈ fs := by
  rw [get?_text] at h
  exact Assoc.mem_of_get?_eq_some h

theorem get?_eq_some_iff {fs : Fields} {s : String} {v : Value} (hfs : (keys fs).Nodup) :
    get? fs (.text s) = some v ↔ (Key.text s, v) ∈ fs := by
  rw [get?_text]
  exact Assoc.get?_eq_some_iff hfs

/-- Setting a key of any kind adds it at the end if there is no such key. -/
theorem keys_set (fs : Fields) (k : Key) (v : Value) :
    keys (set fs k v) = keys fs ∨ keys (set fs k v) = keys fs ++ [k] ∧ k ∉ keys fs := by
  induction fs with
  | nil => exact Or.inr ⟨rfl, List.not_mem_nil⟩
  | cons f r ih =>
    obtain ⟨j, w⟩ := f
    rw [set]
    split
    · exact Or.inl rfl
    · rename_i hsame
      have hne : k ≠ j := by
        rintro rfl
        exact hsame (Key.same_self k)
      rcases ih with ih | ⟨ih, hnew⟩
      · exact Or.inl (congrArg (j :: ·) ih)
      · refine Or.inr ⟨congrArg (j :: ·) ih, ?_⟩
        exact fun hmem => (List.mem_cons.mp hmem).elim hne hnew

theorem mem_keys_set_of_mem {fs : Fields} {j : Key} (k : Key) (v : Value) (h : j ∈ keys fs) :
    j ∈ keys (set fs k v) := by
  rcases keys_set fs k v with hkeys | ⟨hkeys, -⟩
  · rwa [hkeys]
  · rw [hkeys]
    exact List.mem_append_left _ h

theorem mem_keys_update_of_mem {fs : Fields} {k : Key} (gs : Fields) (h : k ∈ keys fs) :
    k ∈ keys (update fs gs) := by
  induction gs generalizing fs with
  | nil => exact h
  | cons g r ih => exact ih (mem_keys_set_of_mem g.1 g.2 h)

/-- Setting a key of any kind repeats no key. -/
theorem nodup_keys_set {fs : Fields} (k : Key) (v : Value) (h : (keys fs).Nodup) :
    (keys (set fs k v)).Nodup := by
  rcases keys_set fs k v with hkeys | ⟨hkeys, hnew⟩
  · rwa [hkeys]
  · rw [hkeys]
    exact (List.perm_append_singleton k _).nodup_iff.mpr (List.nodup_cons.mpr ⟨hnew, h⟩)

theorem nodup_keys_update {fs : Fields} (gs : Fields) (h : (keys fs).Nodup) :
    (keys (update fs gs)).Nodup := by
  induction gs generalizing fs with
  | nil => exact h
  | cons g r ih => exact ih (nodup_keys_set g.1 g.2 h)

theorem update_cons (fs : Fields) (k : Key) (v : Value) (r : Fields) :
    update fs ((k, v) :: r) = update (set fs k v) r := rfl

/-- What was laid over counts first. -/
theorem get?_update (fs : Fields) {gs : Fields} (hgs : (keys gs).Nodup) (s : String) :
    get? (update fs gs) (.text s) = (get? gs (.text s)).or (get? fs (.text s)) := by
  induction gs generalizing fs with
  | nil => rfl
  | cons g r ih =>
    obtain ⟨k, v⟩ := g
    have hr : k ∉ keys r ∧ (keys r).Nodup := List.nodup_cons.mp hgs
    rw [update_cons, ih (set fs k v) hr.2, get?_set, get?]
    simp only [Key.same_text]
    by_cases hk : k = .text s
    · have hnone : get? r (.text s) = none := get?_eq_none_iff.mpr (hk ▸ hr.1)
      simp [hk, hnone]
    · simp [hk]

/-- Looking up a key among fields that were selected by their keys. -/
theorem get?_filter (fs : Fields) (P : Key → Bool) (s : String) :
    get? (fs.filter fun f => P f.1) (.text s)
      = if P (.text s) then get? fs (.text s) else none := by
  induction fs with
  | nil => simp
  | cons f r ih =>
    obtain ⟨k, v⟩ := f
    rw [List.filter_cons]
    by_cases hk : k = .text s
    · subst hk
      cases hP : P (.text s) <;> simp [get?, Key.same_self, ih, hP]
    · have hskip : get? ((k, v) :: r) (.text s) = get? r (.text s) := by
        simp only [get?, Key.same_text, hk, if_false]
      rw [hskip, ← ih]
      split
      · simp only [get?, Key.same_text, hk, if_false]
      · rfl

/-! ### Objects with text keys -/

theorem Named.set {fs : Fields} (h : Named fs) (s : String) (v : Value) :
    Named (set fs (.text s) v) where
  text k hk := by
    rw [set_text] at hk
    rcases Assoc.mem_keys_set.mp hk with rfl | hk
    · exact ⟨s, rfl⟩
    · exact h.text k hk
  nodup := by
    rw [set_text]
    exact Assoc.nodup_keys_set _ v h.nodup

theorem mem_keys_set {fs : Fields} {s : String} {v : Value} {k : Key} :
    k ∈ keys (set fs (.text s) v) ↔ k = .text s ∨ k ∈ keys fs := by
  rw [set_text]
  exact Assoc.mem_keys_set

theorem Named.update {fs gs : Fields} (hfs : Named fs)
    (hgs : ∀ k ∈ keys gs, ∃ s, k = .text s) : Named (update fs gs) := by
  induction gs generalizing fs with
  | nil => exact hfs
  | cons g r ih =>
    obtain ⟨k, v⟩ := g
    obtain ⟨s, rfl⟩ := hgs k List.mem_cons_self
    exact ih (hfs.set s v) fun j hj => hgs j (List.mem_cons_of_mem _ hj)

theorem mem_keys_update {fs gs : Fields} (hgs : ∀ k ∈ keys gs, ∃ s, k = .text s) {k : Key} :
    k ∈ keys (update fs gs) ↔ k ∈ keys fs ∨ k ∈ keys gs := by
  induction gs generalizing fs with
  | nil => simp [keys]
  | cons g r ih =>
    obtain ⟨j, v⟩ := g
    obtain ⟨s, rfl⟩ := hgs j List.mem_cons_self
    have hcons : keys ((Key.text s, v) :: r) = .text s :: keys r := rfl
    rw [update_cons, ih fun j hj => hgs j (List.mem_cons_of_mem _ hj), mem_keys_set, hcons,
      List.mem_cons]
    tauto

theorem named_ofPairs {ps : List (Key × Value)} (hps : ∀ k ∈ keys ps, ∃ s, k = .text s) :
    Named (ofPairs ps) :=
  named_nil.update hps

theorem mem_of_mem_update {fs gs : Fields} (hgs : ∀ k ∈ keys gs, ∃ s, k = .text s)
    {f : Key × Value} (h : f ∈ update fs gs) : f ∈ fs ∨ f ∈ gs := by
  induction gs generalizing fs with
  | nil => exact Or.inl h
  | cons g r ih =>
    obtain ⟨k, v⟩ := g
    obtain ⟨s, rfl⟩ := hgs k List.mem_cons_self
    rw [update_cons, set_text] at h
    rcases ih (fun j hj => hgs j (List.mem_cons_of_mem _ hj)) h with hset | hr
    · rcases Assoc.mem_of_mem_set hset with rfl | hfs
      · exact Or.inr List.mem_cons_self
      · exact Or.inl hfs
    · exact Or.inr (List.mem_cons_of_mem _ hr)

/-- Fields under further keys are put behind the ones that are there. -/
theorem update_of_disjoint {fs gs : Fields} (hgs : Named gs)
    (hdisjoint : ∀ k ∈ keys gs, k ∉ keys fs) : update fs gs = fs ++ gs := by
  induction gs generalizing fs with
  | nil => simp
  | cons g r ih =>
    obtain ⟨k, v⟩ := g
    obtain ⟨s, rfl⟩ := hgs.text k List.mem_cons_self
    have hnew : Key.text s ∉ keys fs := hdisjoint _ List.mem_cons_self
    have hset : set fs (.text s) v = fs ++ [(.text s, v)] := by
      rw [set_text]
      exact Assoc.set_of_notMem v hnew
    have hr : ∀ k ∈ keys r, k ∉ keys (fs ++ [(Key.text s, v)]) := by
      intro j hj hmem
      have hne : j ≠ .text s := fun he => (List.nodup_cons.mp hgs.nodup).1 (he ▸ hj)
      simp only [keys, List.map_append, List.mem_append, List.map_cons, List.map_nil,
        List.mem_singleton, hne, or_false] at hmem
      exact hdisjoint j (List.mem_cons_of_mem _ hj) hmem
    rw [update_cons, hset, ih hgs.of_cons hr, List.append_assoc]
    rfl

theorem update_nil_of_named {fs : Fields} (h : Named fs) : update [] fs = fs :=
  update_of_disjoint h fun _ _ => List.not_mem_nil

end Fields

/-! ### Objects among whose keys no two are the same -/

/-- Texts and perhaps further keys, no two of which are the same key. -/
structure Key.Discrete (T : Key → Prop) : Prop where
  text : ∀ s, T (.text s)
  eq_of_same : ∀ {j k}, T j → T k → j.same k = true → j = k

theorem Key.discrete_text : Key.Discrete fun k => ∃ s, k = .text s where
  text s := ⟨s, rfl⟩
  eq_of_same := by
    rintro j _ - ⟨s, rfl⟩ hsame
    exact Key.same_text.mp hsame

namespace Fields

/-- No two keys are the same key. -/
def Distinct (fs : Fields) : Prop := (keys fs).Pairwise fun j k => j.same k = false

theorem Distinct.nodup {fs : Fields} (h : Distinct fs) : (keys fs).Nodup := by
  refine h.imp fun hsame => ?_
  rintro rfl
  rw [Key.same_self] at hsame
  cases hsame

/-- Texts can be told from each other and from keys of any other kind. -/
theorem Distinct.discrete {fs : Fields} (h : Distinct fs) :
    Key.Discrete fun k => (∃ s, k = .text s) ∨ k ∈ keys fs where
  text s := Or.inl ⟨s, rfl⟩
  eq_of_same := by
    rintro j k (⟨s, rfl⟩ | hj) hk hsame
    · exact (Key.text_same.mp hsame).symm
    · rcases hk with ⟨s, rfl⟩ | hk
      · exact Key.same_text.mp hsame
      · by_contra hne
        have hsymm : Std.Symm fun j k : Key => j.same k = false :=
          ⟨fun i l hil => (Key.same_comm l i).trans hil⟩
        have hapart : j.same k = false := List.Pairwise.forall h hj hk hne
        rw [hsame] at hapart
        cases hapart

/-- All keys are some of the given ones. -/
def Within (T : Key → Prop) (fs : Fields) : Prop := ∀ k ∈ keys fs, T k

section

variable {T : Key → Prop} {fs gs hs : Fields} {k : Key} {s : String}

theorem Named.within (h : Named fs) (hT : Key.Discrete T) : Within T fs := by
  intro k hk
  obtain ⟨s, rfl⟩ := h.text k hk
  exact hT.text s

theorem Within.set (h : Within T fs) (hk : T k) (v : Value) : Within T (Fields.set fs k v) := by
  rcases keys_set fs k v with hkeys | ⟨hkeys, -⟩
  · rwa [Within, hkeys]
  · rw [Within, hkeys, List.forall_mem_append, List.forall_mem_singleton]
    exact ⟨h, hk⟩

theorem Within.update (hfs : Within T fs) (hgs : Within T gs) : Within T (Fields.update fs gs) := by
  induction gs generalizing fs with
  | nil => exact hfs
  | cons g r ih =>
    obtain ⟨hk, hr⟩ := List.forall_mem_cons.mp hgs
    exact ih (hfs.set hk g.2) hr

/-- Among such keys an object is an association list. -/
theorem set_eq (hT : Key.Discrete T) (hfs : Within T fs) (hk : T k) (v : Value) :
    set fs k v = Assoc.set k v fs := by
  induction fs with
  | nil => rfl
  | cons f r ih =>
    obtain ⟨j, w⟩ := f
    obtain ⟨hj, hr⟩ := List.forall_mem_cons.mp hfs
    have hsame : j.same k = true ↔ j = k :=
      ⟨hT.eq_of_same hj hk, fun h => h ▸ Key.same_self j⟩
    rw [set, Assoc.set, ih hr]
    simp only [hsame]

theorem update_eq (hT : Key.Discrete T) (hfs : Within T fs) (hgs : Within T gs) :
    update fs gs = Assoc.update fs gs := by
  induction gs generalizing fs with
  | nil => rfl
  | cons g r ih =>
    obtain ⟨k, v⟩ := g
    obtain ⟨hk, hr⟩ := List.forall_mem_cons.mp hgs
    rw [update_cons, Assoc.update_cons, ih (hfs.set hk v) hr, set_eq hT hfs hk]

theorem set_update (hT : Key.Discrete T) (hfs : Within T fs) (hgs : Within T gs) (v : Value)
    (hthere : Key.text s ∈ keys fs) (hnew : Key.text s ∉ keys gs) :
    set (update fs gs) (.text s) v = update (set fs (.text s) v) gs := by
  rw [update_eq hT hfs hgs, update_eq hT (hfs.set (hT.text s) v) hgs, set_text, set_text]
  exact Assoc.set_update v hthere hnew

theorem update_set (hT : Key.Discrete T) (hfs : Within T fs) (hgs : Within T gs)
    (hnodup : (keys gs).Nodup) (s : String) (v : Value) :
    update fs (set gs (.text s) v) = set (update fs gs) (.text s) v := by
  rw [update_eq hT hfs (hgs.set (hT.text s) v), update_eq hT hfs hgs, set_text, set_text]
  exact Assoc.update_set fs hnodup (.text s) v

theorem set_update_set (hT : Key.Discrete T) (hfs : Within T fs) (hgs : Within T gs) (v w : Value)
    (hthere : Key.text s ∈ keys fs) :
    set (update (set fs (.text s) v) gs) (.text s) w = set (update fs gs) (.text s) w := by
  rw [update_eq hT (hfs.set (hT.text s) v) hgs, update_eq hT hfs hgs, set_text, set_text, set_text]
  exact Assoc.set_update_set v w gs hthere

theorem update_update (hT : Key.Discrete T) (hfs : Within T fs) (hgs : Within T gs)
    (hnodup : (keys gs).Nodup) (hhs : Within T hs) :
    update fs (update gs hs) = update (update fs gs) hs := by
  rw [update_eq hT hfs (hgs.update hhs), update_eq hT (hfs.update hgs) hhs, update_eq hT hgs hhs,
    update_eq hT hfs hgs]
  exact Assoc.update_update fs hnodup hs

end

end Fields

namespace Value

theorem sameFields_iff {fs gs : Fields} :
    sameFields fs gs = true
      ↔ ∀ f ∈ fs, ∃ w, Fields.get? gs f.1 = some w ∧ f.2.same w = true := by
  induction fs with
  | nil => simp [sameFields]
  | cons f r ih =>
    obtain ⟨k, v⟩ := f
    rw [sameFields, Bool.and_eq_true, ih, List.forall_mem_cons]
    refine and_congr_left fun _ => ?_
    cases Fields.get? gs k with
    | none => simp
    | some w => simp

theorem sameAll_self {vs : List Value} (h : ∀ v ∈ vs, v.same v = true) :
    sameAll vs vs = true := by
  induction vs with
  | nil => simp [sameAll]
  | cons v r ih =>
    rw [sameAll, h v List.mem_cons_self, ih fun w hw => h w (List.mem_cons_of_mem _ hw)]
    rfl

/-- A value of a document is equal to itself. -/
theorem same_refl {v : Value} (h : v.IsDocument) : v.same v = true := by
  induction v using partsInduction with
  | parts v ih =>
    have hparts : ∀ w ∈ v.parts, w.same w = true := fun w hw => ih w hw (h.inside hw)
    cases v with
    | null => simp [same]
    | bool b => simp [same, toKey?, Key.same]
    | int n => simp [same, toKey?, Key.same]
    | float x => simp [same, toKey?, Key.same, Decimal.Binary64.same]
    | text s => simp [same]
    | list items =>
      rw [same]
      exact sameAll_self hparts
    | object fields =>
      have hnamed : Fields.Named fields := h.here fields rfl
      rw [same, Bool.and_eq_true]
      refine ⟨beq_self_eq_true _, sameFields_iff.mpr ?_⟩
      rintro ⟨k, w⟩ hf
      obtain ⟨s, rfl⟩ := hnamed.text k (List.mem_map_of_mem hf)
      exact ⟨w, (Fields.get?_eq_some_iff hnamed.nodup).mpr hf, hparts w (List.mem_map_of_mem hf)⟩

theorem length_eq_of_keys {fs gs : Fields} (hfs : (Fields.keys fs).Nodup)
    (hgs : (Fields.keys gs).Nodup) (h : ∀ k, k ∈ Fields.keys fs ↔ k ∈ Fields.keys gs) :
    fs.length = gs.length := by
  have hperm : (Fields.keys fs).Perm (Fields.keys gs) :=
    (List.perm_ext_iff_of_nodup hfs hgs).mpr h
  simpa [Fields.keys] using hperm.length_eq

/-- An object laid over another one is equal to what was laid over just if that has all keys of the
other one. -/
theorem same_update_iff {fs gs : Fields} (hfs : Fields.Named fs)
    (hgs : (Value.object gs).IsDocument) :
    (Value.object (Fields.update fs gs)).same (.object gs) = true
      ↔ ∀ k ∈ Fields.keys fs, k ∈ Fields.keys gs := by
  have hnamed : Fields.Named gs := hgs.here gs rfl
  have hupdate : Fields.Named (Fields.update fs gs) := hfs.update hnamed.text
  rw [same, Bool.and_eq_true, sameFields_iff]
  constructor
  · rintro ⟨-, hsame⟩ k hk
    obtain ⟨s, rfl⟩ := hfs.text k hk
    have hmem : Key.text s ∈ Fields.keys (Fields.update fs gs) :=
      (Fields.mem_keys_update hnamed.text).mpr (Or.inl hk)
    obtain ⟨f, hf, hfs⟩ := List.mem_map.mp hmem
    obtain ⟨w, hw, -⟩ := hsame f hf
    rw [hfs] at hw
    exact List.mem_map_of_mem (Fields.mem_of_get?_eq_some hw)
  · intro hsub
    have hkeys (k : Key) : k ∈ Fields.keys (Fields.update fs gs) ↔ k ∈ Fields.keys gs := by
      rw [Fields.mem_keys_update hnamed.text]
      exact ⟨fun h => h.elim (hsub k) id, Or.inr⟩
    refine ⟨beq_iff_eq.mpr (length_eq_of_keys hupdate.nodup hnamed.nodup hkeys), ?_⟩
    rintro ⟨k, v⟩ hf
    have hk : k ∈ Fields.keys gs := (hkeys k).mp (List.mem_map_of_mem hf)
    obtain ⟨s, rfl⟩ := hnamed.text k hk
    obtain ⟨⟨j, w⟩, hw, rfl⟩ := List.mem_map.mp hk
    have hgsw := (Fields.get?_eq_some_iff hnamed.nodup).mpr hw
    have hv := (Fields.get?_eq_some_iff hupdate.nodup).mpr hf
    rw [Fields.get?_update fs hnamed.nodup, hgsw] at hv
    obtain rfl : w = v := Option.some.inj hv
    have hdoc : w.IsDocument := hgs.inside (List.mem_map_of_mem hw)
    exact ⟨w, hgsw, same_refl hdoc⟩

end Value

end EntityMapping
