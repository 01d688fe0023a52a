import EntityMapping.Classification

/-!
# The parts of sorted properties

Sorting loses no property and repeats none: the parts together hold every occurrence once
(`classify_perm`).  Which part a property is in depends on itself and the reserved names alone
(`share_eq_audit`, `share_eq_eligible`, `share_eq_excluded`), so no property is in two.
-/

namespace EntityMapping

/-- The name of the property is one of the reserved names. -/
def Property.HasReservedName (reserved : List Key) (p : Property) : Prop :=
  ∃ k ∈ reserved, k.same p.nameKey = true

variable {reserved : List Key} {p : Property}

theorem Property.any_same_nameKey :
    (reserved.any (·.same p.nameKey)) = true ↔ p.HasReservedName reserved :=
  List.any_eq_true

/-- Only mappable properties with a reserved name are left to the shared base. -/
theorem share_eq_audit :
    share reserved p = .audit ↔ p.isMappable = true ∧ p.HasReservedName reserved := by
  rw [← Property.any_same_nameKey, share]
  cases p.isMappable <;> cases reserved.any (·.same p.nameKey) <;>
    cases p.type.isSupported <;> simp

/-- Only mappable properties of a supported type without a reserved name are configured. -/
theorem share_eq_eligible :
    share reserved p = .eligible
      ↔ p.isMappable = true ∧ ¬p.HasReservedName reserved ∧ p.type.isSupported = true := by
  rw [← Property.any_same_nameKey, share]
  cases p.isMappable <;> cases reserved.any (·.same p.nameKey) <;>
    cases p.type.isSupported <;> simp

/-- Only properties that are not mappable, or have neither a reserved name nor a supported type, are
left out. -/
theorem share_eq_excluded :
    share reserved p = .excluded
      ↔ p.isMappable = false ∨ ¬p.HasReservedName reserved ∧ p.type.isSupported = false := by
  rw [← Property.any_same_nameKey, share]
  cases p.isMappable <;> cases reserved.any (·.same p.nameKey) <;>
    cases p.type.isSupported <;> simp

variable {ps : List Property}

theorem mem_audit_classify :
    p ∈ (classify reserved ps).audit ↔ p ∈ ps ∧ share reserved p = .audit := by
  simp [classify]

theorem mem_eligible_classify :
    p ∈ (classify reserved ps).eligible ↔ p ∈ ps ∧ share reserved p = .eligible := by
  simp [classify]

theorem mem_excluded_classify :
    p ∈ (classify reserved ps).excluded ↔ p ∈ ps ∧ share reserved p = .excluded := by
  simp [classify]

/-- The parts hold every occurrence of a property once. -/
theorem classify_perm (reserved : List Key) (ps : List Property) :
    ((classify reserved ps).eligible ++ (classify reserved ps).audit
      ++ (classify reserved ps).excluded).Perm ps := by
  induction ps with
  | nil => exact .nil
  | cons p r ih =>
    simp only [classify, List.filter_cons] at ih ⊢
    cases hp : share reserved p with
    | eligible => simpa using ih
    | audit =>
      simp only [reduceCtorEq, decide_false, decide_true, if_true, Bool.false_eq_true, if_false,
        List.append_assoc, List.cons_append] at ih ⊢
      exact List.perm_middle.trans (ih.cons p)
    | excluded =>
      simp only [reduceCtorEq, decide_false, decide_true, if_true, Bool.false_eq_true, if_false]
        at ih ⊢
      exact List.perm_middle.trans (ih.cons p)

end EntityMapping
