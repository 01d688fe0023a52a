import EntityMapping.Assoc
import Mathlib.Data.List.Nodup

/-!
# Keys of association lists

`Assoc.set` either keeps all keys in their places or adds one at the end, so keys never repeat and
the first key stays.  Entries that are selected by their values behave like a bag: setting a key
that holds no selected value adds one entry to them (`Assoc.filter_set_perm`).

Where keys do not repeat, looking one up finds the entry wherever it stands, so the order of the
entries does not matter (`Assoc.get?_perm`).  A list laid over another one keeps the places of that
one's keys, and it does not matter which of three lists are laid over each other first
(`Assoc.update_update`).
-/

namespace EntityMapping.Assoc

variable {α β : Type}

/-- The keys of an association list, in order. -/
def keys (l : List (α × β)) : List α := l.map Prod.fst

variable [DecidableEq α]

theorem set_of_notMem {k : α} {l : List (α × β)} (v : β) (h : k ∉ keys l) :
    set k v l = l ++ [(k, v)] := by
  induction l with
  | nil => rfl
  | cons f r ih =>
    obtain ⟨j, w⟩ := f
    simp only [keys, List.map_cons, List.mem_cons, not_or] at h
    simp only [set, if_neg (Ne.symm h.1), ih h.2, List.cons_append]

theorem keys_set_of_mem {k : α} {l : List (α × β)} (v : β) (h : k ∈ keys l) :
    keys (set k v l) = keys l := by
  induction l with
  | nil => simp [keys] at h
  | cons f r ih =>
    obtain ⟨j, w⟩ := f
    by_cases hj : j = k
    · simp [set, hj, keys]
    · have hr : k ∈ keys r := by simpa [keys, Ne.symm hj] using h
      simpa [set, hj, keys] using ih hr

theorem keys_set_of_notMem {k : α} {l : List (α × β)} (v : β) (h : k ∉ keys l) :
    keys (set k v l) = keys l ++ [k] := by
  simp [set_of_notMem v h, keys]

theorem nodup_keys_set (k : α) (v : β) {l : List (α × β)} (h : (keys l).Nodup) :
    (keys (set k v l)).Nodup := by
  by_cases hk : k ∈ keys l
  · rwa [keys_set_of_mem v hk]
  · rw [keys_set_of_notMem v hk]
    exact (List.perm_append_singleton k _).nodup_iff.mpr (List.nodup_cons.mpr ⟨hk, h⟩)

theorem head?_keys_set (k : α) (v : β) {l : List (α × β)} (h : l ≠ []) :
    (keys (set k v l)).head? = (keys l).head? := by
  obtain ⟨⟨j, w⟩, r, rfl⟩ := List.exists_cons_of_ne_nil h
  by_cases hj : j = k <;> simp [set, hj, keys]

theorem set_set_same (k : α) (v w : β) (l : List (α × β)) : set k w (set k v l) = set k w l := by
  induction l with
  | nil => simp [set]
  | cons p r ih =>
    obtain ⟨j, u⟩ := p
    by_cases hj : j = k <;> simp [set, hj, ih]

/-- Two keys can be set in either order, if one of them is there already. -/
theorem set_comm {j k : α} (v w : β) {l : List (α × β)} (hne : j ≠ k) (hk : k ∈ keys l) :
    set k v (set j w l) = set j w (set k v l) := by
  induction l with
  | nil => cases hk
  | cons p r ih =>
    obtain ⟨i, u⟩ := p
    by_cases hij : i = j
    · subst hij
      simp [set, hne]
    · by_cases hik : i = k
      · subst hik
        simp [set, hij]
      · have hr : k ∈ keys r := (List.mem_cons.mp hk).resolve_left (Ne.symm hik)
        simp [set, hij, hik, ih hr]

theorem mem_of_mem_set {k : α} {v : β} {l : List (α × β)} {p : α × β} (h : p ∈ set k v l) :
    p = (k, v) ∨ p ∈ l := by
  induction l with
  | nil => exact Or.inl (List.mem_singleton.mp h)
  | cons f r ih =>
    obtain ⟨j, w⟩ := f
    by_cases hj : j = k
    · simp only [set, hj, if_true, List.mem_cons] at h
      exact h.imp_right (List.mem_cons_of_mem _)
    · simp only [set, if_neg hj, List.mem_cons] at h
      rcases h with rfl | h
      · exact Or.inr List.mem_cons_self
      · exact (ih h).imp_right (List.mem_cons_of_mem _)

/-- When a key that holds no selected value takes a selected one, the selected entries gain just
that one. -/
theorem filter_set_perm {k : α} {v : β} {l : List (α × β)} (P : β → Bool) (hv : P v)
    (hl : ∀ w, (k, w) ∈ l → ¬P w) :
    ((set k v l).filter fun p => P p.2).Perm ((k, v) :: l.filter fun p => P p.2) := by
  induction l with
  | nil => simp [set, hv]
  | cons f r ih =>
    obtain ⟨j, w⟩ := f
    by_cases hj : j = k
    · subst hj
      have hw : ¬P w := hl w List.mem_cons_self
      simp [set, hv, hw]
    · have hr := ih fun w h => hl w (List.mem_cons_of_mem _ h)
      simp only [set, if_neg hj, List.filter_cons]
      split
      · exact (hr.cons (j, w)).trans (List.Perm.swap (k, v) (j, w) _)
      · exact hr

/-! ### Looking up -/

theorem get?_eq_none_iff {k : α} {l : List (α × β)} : get? k l = none ↔ k ∉ keys l := by
  induction l with
  | nil => simp [keys]
  | cons f r ih =>
    obtain ⟨j, w⟩ := f
    by_cases hj : j = k
    · simp [get?_cons, keys, hj]
    · rw [get?_cons, if_neg hj, ih]
      simp [keys, Ne.symm hj]

theorem has_iff {k : α} {l : List (α × β)} : has k l = true ↔ k ∈ keys l := by
  rw [has, Option.isSome_iff_ne_none, ne_eq, get?_eq_none_iff, not_not]

theorem mem_of_get?_eq_some {k : α} {v : β} {l : List (α × β)} (h : get? k l = some v) :
    (k, v) ∈ l := by
  induction l with
  | nil => cases h
  | cons f r ih =>
    obtain ⟨j, w⟩ := f
    rw [get?_cons] at h
    split at h
    · rename_i hj
      obtain rfl := Option.some.inj h
      exact hj ▸ List.mem_cons_self
    · exact List.mem_cons_of_mem _ (ih h)

theorem get?_eq_some_iff {k : α} {v : β} {l : List (α × β)} (hl : (keys l).Nodup) :
    get? k l = some v ↔ (k, v) ∈ l := by
  constructor
  · exact mem_of_get?_eq_some
  · intro hmem
    cases h : get? k l with
    | none => exact absurd (List.mem_map_of_mem hmem) (get?_eq_none_iff.mp h)
    | some w =>
      have heq := List.inj_on_of_nodup_map hl (mem_of_get?_eq_some h) hmem rfl
      exact congrArg some (Prod.mk.inj heq).2

/-- Where keys do not repeat, the order of the entries does not matter. -/
theorem get?_perm {l m : List (α × β)} (h : l.Perm m) (hl : (keys l).Nodup) (k : α) :
    get? k l = get? k m := by
  have hm : (keys m).Nodup := (h.map Prod.fst).nodup_iff.mp hl
  refine Option.ext fun v => ?_
  rw [get?_eq_some_iff hl, get?_eq_some_iff hm, h.mem_iff]

theorem get?_append (k : α) (l m : List (α × β)) :
    get? k (l ++ m) = (get? k l).or (get? k m) := List.lookup_append

/-- Where lists stand one after another, the first of them that has a key has its value. -/
theorem get?_flatMap {γ : Type} (k : α) (f : γ → List (α × β)) (l : List γ) :
    get? k (l.flatMap f) = l.findSome? fun c => get? k (f c) := by
  induction l with
  | nil => rfl
  | cons c r ih =>
    rw [List.flatMap_cons, get?_append, ih, List.findSome?_cons]
    cases get? k (f c) <;> rfl

theorem get?_append_of_some {k : α} {v : β} {l : List (α × β)} (h : get? k l = some v)
    (m : List (α × β)) : get? k (l ++ m) = some v := by
  induction l with
  | nil => cases h
  | cons f r ih =>
    obtain ⟨j, w⟩ := f
    rw [get?_cons] at h
    rw [List.cons_append, get?_cons]
    split
    · rwa [if_pos ‹_›] at h
    · rw [if_neg ‹_›] at h
      exact ih h

/-- An entry that is found is still found among the selected ones, if it is one of them. -/
theorem get?_filter_of_some {k : α} {v : β} {l : List (α × β)} (P : β → Bool)
    (h : get? k l = some v) (hv : P v = true) : get? k (l.filter fun p => P p.2) = some v := by
  induction l with
  | nil => cases h
  | cons f r ih =>
    obtain ⟨j, w⟩ := f
    rw [get?_cons] at h
    by_cases hj : j = k
    · rw [if_pos hj] at h
      obtain rfl := Option.some.inj h
      rw [List.filter_cons, if_pos hv, get?_cons, if_pos hj]
    · rw [if_neg hj] at h
      rw [List.filter_cons]
      split
      · rw [get?_cons, if_neg hj, ih h]
      · exact ih h

theorem set_eq_self {k : α} {v : β} {l : List (α × β)} (h : get? k l = some v) : set k v l = l := by
  induction l with
  | nil => cases h
  | cons f r ih =>
    obtain ⟨j, w⟩ := f
    rw [get?_cons] at h
    by_cases hj : j = k
    · rw [if_pos hj] at h
      obtain rfl := Option.some.inj h
      rw [set, if_pos hj]
    · rw [if_neg hj] at h
      rw [set, if_neg hj, ih h]

theorem mem_keys_set {j k : α} {v : β} {l : List (α × β)} :
    j ∈ keys (set k v l) ↔ j = k ∨ j ∈ keys l := by
  by_cases hk : k ∈ keys l
  · rw [keys_set_of_mem v hk]
    refine ⟨Or.inr, ?_⟩
    rintro (rfl | hj)
    · exact hk
    · exact hj
  · rw [keys_set_of_notMem v hk, List.mem_append, List.mem_singleton, or_comm]

theorem mem_keys_erase {j k : α} {l : List (α × β)} :
    j ∈ keys (erase k l) ↔ j ≠ k ∧ j ∈ keys l := by
  simp only [keys, erase, List.mem_map, List.mem_filter, decide_eq_true_eq]
  constructor
  · rintro ⟨p, ⟨hp, hne⟩, rfl⟩
    exact ⟨hne, p, hp, rfl⟩
  · rintro ⟨hne, p, hp, rfl⟩
    exact ⟨p, ⟨hp, hne⟩, rfl⟩

theorem erase_of_notMem {k : α} {l : List (α × β)} (h : k ∉ keys l) : erase k l = l := by
  refine List.filter_eq_self.mpr fun f hf => decide_eq_true ?_
  rintro rfl
  exact h (List.mem_map_of_mem hf)

/-- A key that was new leaves nothing behind when it is removed. -/
theorem erase_set_of_notMem {k : α} {l : List (α × β)} (v : β) (h : k ∉ keys l) :
    erase k (set k v l) = l := by
  have hnew : erase k [(k, v)] = [] := List.filter_cons_of_neg (by simp)
  calc
    erase k (set k v l) = erase k (l ++ [(k, v)]) := congrArg (erase k) (set_of_notMem v h)
    _ = erase k l ++ erase k [(k, v)] := List.filter_append l [(k, v)]
    _ = l := by rw [erase_of_notMem h, hnew, List.append_nil]

/-! ### One list over another -/

/-- Sets every entry of the second list in the first one. -/
def update (l m : List (α × β)) : List (α × β) := m.foldl (fun acc f => set f.1 f.2 acc) l

theorem update_cons (l : List (α × β)) (k : α) (v : β) (r : List (α × β)) :
    update l ((k, v) :: r) = update (set k v l) r := rfl

/-- An entry that is there and is not laid over can be set before or after. -/
theorem set_update {k : α} {l m : List (α × β)} (v : β) (hl : k ∈ keys l) (hnew : k ∉ keys m) :
    set k v (update l m) = update (set k v l) m := by
  induction m generalizing l with
  | nil => rfl
  | cons f r ih =>
    obtain ⟨j, w⟩ := f
    obtain ⟨hne, hr⟩ : k ≠ j ∧ k ∉ keys r := not_or.mp (mt List.mem_cons.mpr hnew)
    rw [update_cons, update_cons, ih (mem_keys_set.mpr (Or.inr hl)) hr, set_comm v w hne.symm hl]

theorem update_set (l : List (α × β)) {m : List (α × β)} (hm : (keys m).Nodup) (k : α) (v : β) :
    update l (set k v m) = set k v (update l m) := by
  induction m generalizing l with
  | nil => rfl
  | cons f r ih =>
    obtain ⟨j, w⟩ := f
    obtain ⟨hnew, hr⟩ := List.nodup_cons.mp hm
    rw [set]
    split
    · rename_i hj
      subst hj
      have hthere : j ∈ keys (set j w l) := mem_keys_set.mpr (Or.inl rfl)
      rw [update_cons, update_cons, set_update v hthere hnew, set_set_same]
    · exact ih (set j w l) hr

/-- What an entry that is set last held before does not show. -/
theorem set_update_set {k : α} {l : List (α × β)} (v w : β) (m : List (α × β)) (hl : k ∈ keys l) :
    set k w (update (set k v l) m) = set k w (update l m) := by
  induction m generalizing l with
  | nil => exact set_set_same k v w l
  | cons f r ih =>
    obtain ⟨j, u⟩ := f
    rw [update_cons, update_cons]
    by_cases hj : j = k
    · rw [hj, set_set_same]
    · rw [← set_comm v u hj hl, ih (mem_keys_set.mpr (Or.inr hl))]

/-- Laying over what was laid over is the same as laying over one after the other. -/
theorem update_update (l : List (α × β)) {m : List (α × β)} (hm : (keys m).Nodup)
    (n : List (α × β)) : update l (update m n) = update (update l m) n := by
  induction n generalizing m with
  | nil => rfl
  | cons f r ih =>
    obtain ⟨k, v⟩ := f
    rw [update_cons, ih (nodup_keys_set k v hm), update_set l hm, update_cons]

/-- Setting related values under one key keeps lists related that agree on their keys. -/
theorem forall₂_set {R : β → β → Prop} {v w : β} (hvw : R v w) (k : α) {l m : List (α × β)}
    (h : List.Forall₂ (fun p q => p.1 = q.1 ∧ R p.2 q.2) l m) :
    List.Forall₂ (fun p q => p.1 = q.1 ∧ R p.2 q.2) (set k v l) (set k w m) := by
  induction h with
  | nil => exact .cons ⟨rfl, hvw⟩ .nil
  | @cons p q l m hpq hlm ih =>
    obtain ⟨j, v'⟩ := p
    obtain ⟨j', w'⟩ := q
    obtain ⟨rfl, hvw'⟩ := hpq
    by_cases hj : j = k
    · rw [set, if_pos hj, set, if_pos hj]
      exact .cons ⟨rfl, hvw⟩ hlm
    · rw [set, if_neg hj, set, if_neg hj]
      exact .cons ⟨rfl, hvw'⟩ ih

end EntityMapping.Assoc
