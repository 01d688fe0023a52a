import EntityMapping.Proofs.Classification
import EntityMapping.Proofs.Value.Fields
import Mathlib.Data.List.Sort

/-!
# Where sorted properties stood

Sorting goes by positions and not by names or values, so properties may repeat: each position of the
list is selected for one of the three parts, and each part has the properties at its positions in
declaration order.  Public properties of the instances with a reserved name are audit fields,
whatever their type is; those without one are eligible if their type is supported; everything else
is excluded.  Of the reserved names it matters only which ones there are (`classify_eq_iff`).

## Main definitions

* `Selects` — a list has the items of another one that satisfy a predicate, at the given positions.
* `Property.IsAuditField`, `Property.IsEligible` — what the first two parts are selected by.
* `SameKeys` — two lists hold the same keys.
-/

namespace EntityMapping

/-! ### Selecting by positions -/

/-- The positions are those of the items that satisfy a predicate, in order, and the selected items
stand there. -/
structure Selects {α : Type} (P : α → Prop) (l : List α) (positions : List Nat)
    (selected : List α) : Prop where
  /-- The positions are in order and do not repeat. -/
  increasing : positions.Pairwise (· < ·)
  /-- What stands at the positions satisfies the predicate, and nothing else does. -/
  mem_iff : ∀ i, i ∈ positions ↔ ∃ a, l[i]? = some a ∧ P a
  /-- The selected items are those at the positions. -/
  items : selected.map some = positions.map (l[·]?)

section Selects

variable {α : Type} {P Q : α → Prop} {l as bs cs : List α} {is js ks : List Nat}

theorem Selects.congr (h : Selects P l is as) (hPQ : ∀ a, P a ↔ Q a) : Selects Q l is as where
  increasing := h.increasing
  mem_iff i := by simp only [h.mem_iff, hPQ]
  items := h.items

/-- A predicate selects just one list. -/
theorem Selects.unique (has : Selects P l is as) (hbs : Selects P l js bs) : as = bs := by
  have hpositions : is = js := has.increasing.eq_of_mem_iff hbs.increasing fun i => by
    rw [has.mem_iff, hbs.mem_iff]
  refine (List.map_injective_iff.mpr (Option.some_injective α)) ?_
  rw [has.items, hbs.items, hpositions]

theorem selects_filter (p : α → Bool) (l : List α) :
    Selects (p · = true) l (l.findIdxs p) (l.filter p) where
  increasing := List.pairwise_findIdxs
  mem_iff i := by simp [List.getElem?_eq_some_iff]
  items := by
    refine List.ext_getElem (by simp [List.countP_eq_length_filter]) fun i hi _ => ?_
    rw [List.length_map] at hi
    rw [List.getElem_map, List.getElem_map, List.getElem_filter_eq_getElem_getElem_findIdxs hi,
      List.getElem?_eq_getElem]

/-- Where of two predicates and their absence just one always holds, every position is selected
once. -/
theorem Selects.perm_range (has : Selects P l is as) (hbs : Selects Q l js bs)
    (hcs : Selects (fun a => ¬P a ∧ ¬Q a) l ks cs) (hPQ : ∀ a, P a → ¬Q a) :
    (is ++ js ++ ks).Perm (List.range l.length) := by
  have hnodup : (is ++ js ++ ks).Nodup := by
    rw [List.nodup_append, List.nodup_append]
    refine ⟨⟨has.increasing.nodup, hbs.increasing.nodup, ?_⟩, hcs.increasing.nodup, ?_⟩
    · rintro i hi _ hj rfl
      obtain ⟨a, ha, hP⟩ := (has.mem_iff i).mp hi
      obtain ⟨b, hb, hQ⟩ := (hbs.mem_iff i).mp hj
      exact hPQ a hP (Option.some.inj (hb.symm.trans ha) ▸ hQ)
    · rintro i hi _ hk rfl
      obtain ⟨c, hc, hnotP, hnotQ⟩ := (hcs.mem_iff i).mp hk
      rcases List.mem_append.mp hi with hi | hj
      · obtain ⟨a, ha, hP⟩ := (has.mem_iff i).mp hi
        exact hnotP (Option.some.inj (ha.symm.trans hc) ▸ hP)
      · obtain ⟨b, hb, hQ⟩ := (hbs.mem_iff i).mp hj
        exact hnotQ (Option.some.inj (hb.symm.trans hc) ▸ hQ)
  refine (List.perm_ext_iff_of_nodup hnodup List.nodup_range).mpr fun i => ?_
  rw [List.mem_append, List.mem_append, has.mem_iff, hbs.mem_iff, hcs.mem_iff, List.mem_range]
  constructor
  · rintro ((⟨a, ha, -⟩ | ⟨a, ha, -⟩) | ⟨a, ha, -⟩) <;>
      exact (List.getElem?_eq_some_iff.mp ha).1
  · intro hi
    have ha := List.getElem?_eq_getElem hi
    by_cases hP : P l[i]
    · exact Or.inl (Or.inl ⟨_, ha, hP⟩)
    · by_cases hQ : Q l[i]
      · exact Or.inl (Or.inr ⟨_, ha, hQ⟩)
      · exact Or.inr ⟨_, ha, hP, hQ⟩

end Selects

/-! ### The three parts -/

/-- A public property of the instances with a reserved name. -/
def Property.IsAuditField (reserved : List Key) (p : Property) : Prop :=
  p.isPublic = true ∧ p.isStatic = false ∧ p.HasReservedName reserved

/-- A public property of the instances, without a reserved name and of a type that is not left
out. -/
def Property.IsEligible (reserved : List Key) (p : Property) : Prop :=
  p.isPublic = true ∧ p.isStatic = false ∧ ¬p.HasReservedName reserved ∧ p.type ≠ .other

variable {reserved others : List Key} {p : Property}

theorem Property.isMappable_iff : p.isMappable = true ↔ p.isPublic = true ∧ p.isStatic = false := by
  simp [Property.isMappable]

theorem PropertyType.isSupported_iff {t : PropertyType} : t.isSupported = true ↔ t ≠ .other := by
  cases t <;> simp [PropertyType.isSupported]

theorem share_eq_audit_iff : share reserved p = .audit ↔ p.IsAuditField reserved := by
  rw [share_eq_audit, Property.isMappable_iff, and_assoc, Property.IsAuditField]

theorem share_eq_eligible_iff : share reserved p = .eligible ↔ p.IsEligible reserved := by
  rw [share_eq_eligible, Property.isMappable_iff, PropertyType.isSupported_iff, and_assoc,
    Property.IsEligible]

theorem share_eq_excluded_iff :
    share reserved p = .excluded ↔ ¬p.IsAuditField reserved ∧ ¬p.IsEligible reserved := by
  rw [← share_eq_audit_iff, ← share_eq_eligible_iff]
  cases share reserved p <;> simp

/-- Two lists hold the same keys, in whatever order and however often. -/
def SameKeys (ks ls : List Key) : Prop :=
  ∀ k : Key, (∃ j ∈ ks, j.same k = true) ↔ ∃ j ∈ ls, j.same k = true

/-- Which names are reserved decides what is done with a property. -/
theorem SameKeys.share_eq (h : SameKeys reserved others) (p : Property) :
    share others p = share reserved p := by
  have hname : (others.any (·.same p.nameKey)) = reserved.any (·.same p.nameKey) := by
    rw [Bool.eq_iff_iff, List.any_eq_true, List.any_eq_true]
    exact (h p.nameKey).symm
  rw [share, share, hname]

/-- Properties are sorted into three parts just if the audit fields, the eligible properties and the
rest are selected, each in order, so that every position is selected once.  Reserved names that are
the same set sort alike. -/
theorem classify_eq_iff (reserved : List Key) (ps : List Property) :
    (∀ parts, classify reserved ps = parts ↔ ∃ audit eligible excluded : List Nat,
        Selects (·.IsAuditField reserved) ps audit parts.audit
          ∧ Selects (·.IsEligible reserved) ps eligible parts.eligible
          ∧ Selects (fun p => ¬p.IsAuditField reserved ∧ ¬p.IsEligible reserved) ps excluded
            parts.excluded
          ∧ (audit ++ eligible ++ excluded).Perm (List.range ps.length))
      ∧ ∀ others, SameKeys reserved others → classify others ps = classify reserved ps := by
  have hselects (s : Share) := selects_filter (fun p => decide (share reserved p = s)) ps
  have haudit : Selects (·.IsAuditField reserved) ps _ _ :=
    (hselects .audit).congr fun p => decide_eq_true_iff.trans share_eq_audit_iff
  have heligible : Selects (·.IsEligible reserved) ps _ _ :=
    (hselects .eligible).congr fun p => decide_eq_true_iff.trans share_eq_eligible_iff
  have hexcluded : Selects (fun p => ¬p.IsAuditField reserved ∧ ¬p.IsEligible reserved) ps _ _ :=
    (hselects .excluded).congr fun p => decide_eq_true_iff.trans share_eq_excluded_iff
  refine ⟨fun parts => ⟨?_, ?_⟩, fun others h => ?_⟩
  · rintro rfl
    exact ⟨_, _, _, haudit, heligible, hexcluded,
      haudit.perm_range heligible hexcluded fun p hp he => he.2.2.1 hp.2.2⟩
  · rintro ⟨audit, eligible, excluded, haudit', heligible', hexcluded', -⟩
    obtain ⟨as, es, xs⟩ := parts
    rw [classify, Partition.mk.injEq]
    exact ⟨haudit.unique haudit', heligible.unique heligible', hexcluded.unique hexcluded'⟩
  · simp only [classify, h.share_eq]

namespace Property.Sample

/-- A property that is not public but has a reserved name, one of a type that is left out but with
that name, and two of one name. -/
def overlapping : List Property := [
  { name := some "CreatedAt", type := .datetime, isPublic := false },
  { name := some "CreatedAt", type := .other },
  { name := some "Email", type := .string },
  { name := some "Tags", type := .other },
  { name := some "Email", type := .string }]

end Property.Sample

/-- The tests overlap: the name comes after the access and before the type, and a name that is
reserved twice is reserved. -/
theorem classify_eq_iff_overlapping :
    SameKeys [.text "CreatedAt"] [.text "CreatedAt", .text "CreatedAt"]
      ∧ classify [.text "CreatedAt", .text "CreatedAt"] Property.Sample.overlapping
        = classify [.text "CreatedAt"] Property.Sample.overlapping
      ∧ ∃ audit eligible excluded : List Nat,
        Selects (·.IsAuditField [.text "CreatedAt"]) Property.Sample.overlapping audit
          [{ name := some "CreatedAt", type := .other }]
        ∧ (audit ++ eligible ++ excluded).Perm [0, 1, 2, 3, 4] := by
  have hsame : SameKeys [.text "CreatedAt"] [.text "CreatedAt", .text "CreatedAt"] := by
    intro k
    simp
  obtain ⟨hparts, hothers⟩ := classify_eq_iff [.text "CreatedAt"] Property.Sample.overlapping
  obtain ⟨audit, eligible, excluded, haudit, -, -, hperm⟩ := (hparts _).mp rfl
  exact ⟨hsame, hothers _ hsame, audit, eligible, excluded, haudit, hperm⟩

end EntityMapping
