import EntityMapping.Proofs.Assoc
import EntityMapping.Registry.Request

/-!
# Registering a target

A registration enters the target first and then goes through the aliases one by one, so it can end
at any of them.  `Registration` lists what it can do, with each way to end as a constructor; the
evaluator does nothing else (`registration_registerValues`).  Statements on registries are proved by
cases on it, and no other proof opens `register`.

The loop over the aliases is described by two lemmas.  It ends at the first alias in conflict, and
what it has done by then is what it does for the aliases before (`addAliases_eq_conflict`).  Without
replacing it only adds aliases, all of them of the new target (`addAliases_eq_append`).

## Main definitions

* `Registration` — the outcomes of a registration.
* `Enlarges` — a registry has one more target, with aliases for it.

## Main results

* `registration_registerValues` — the evaluator takes only the listed outcomes.
* `enlarges_of_addAliases` — a registration for a new name enlarges the registry.
-/

namespace EntityMapping.Registry

open Text

section Aliases

variable {targets : List (String × Target)} {key : String}

/-- An alias without a conflict is no target, and is new or belongs to the target already. -/
theorem of_aliasConflict?_eq_none {aliases : List (String × String)} {name : String}
    (h : aliasConflict? targets aliases key name = none) :
    lowered name ∉ Assoc.keys targets
      ∧ (lowered name ∉ Assoc.keys aliases ∨ Assoc.get? (lowered name) aliases = some key) := by
  unfold aliasConflict? at h
  split at h
  · cases h
  · rename_i hfree
    refine ⟨mt Assoc.has_iff.mpr hfree, ?_⟩
    cases howner : Assoc.get? (lowered name) aliases with
    | none => exact Or.inl (Assoc.get?_eq_none_iff.mp howner)
    | some owner =>
      simp only [howner] at h
      split at h
      · exact Or.inr (congrArg some ‹_›)
      · cases h

/-- An alias afterwards was there before, or is one of the target. -/
theorem mem_of_mem_addAliases {replace : Bool} {names : List String}
    {aliases : List (String × String)} {p : String × String}
    (h : p ∈ (addAliases targets key replace names aliases).2) : p ∈ aliases ∨ p.2 = key := by
  induction names generalizing aliases with
  | nil => exact Or.inl h
  | cons name r ih =>
    rw [addAliases] at h
    split at h
    · exact ih h
    · split at h
      · exact Or.inl h
      · rcases ih h with hmem | howner
        · rcases Assoc.mem_of_mem_set hmem with rfl | hmem
          · exact Or.inr rfl
          · exact Or.inl hmem
        · exact Or.inr howner

/-- Without replacing, aliases are only added, wherever the loop ends. -/
theorem addAliases_eq_append (targets : List (String × Target)) (key : String)
    (names : List String) (aliases : List (String × String)) :
    ∃ added, (addAliases targets key false names aliases).2 = aliases ++ added
      ∧ ∀ p ∈ added, p.2 = key := by
  induction names generalizing aliases with
  | nil => exact ⟨[], (List.append_nil aliases).symm, List.forall_mem_nil _⟩
  | cons name r ih =>
    rw [addAliases]
    split
    · exact ih aliases
    · split
      · exact ⟨[], (List.append_nil aliases).symm, List.forall_mem_nil _⟩
      · rename_i hfree
        obtain ⟨added, hadded, howner⟩ := ih (Assoc.set (lowered name) key aliases)
        obtain ⟨-, hnew | hown⟩ := of_aliasConflict?_eq_none hfree
        · refine ⟨(lowered name, key) :: added, ?_, ?_⟩
          · rw [hadded, Assoc.set_of_notMem key hnew, List.append_assoc]
            rfl
          · exact List.forall_mem_cons.mpr ⟨rfl, howner⟩
        · exact ⟨added, by rw [hadded, Assoc.set_eq_self hown], howner⟩

/-- The loop ends at the first alias in conflict, after it has added those before. -/
theorem addAliases_eq_conflict {replace : Bool} {names : List String}
    {aliases after : List (String × String)} {e : RegistryError}
    (h : addAliases targets key replace names aliases = (some e, after)) :
    replace = false ∧ ∃ before name rest, names = before ++ name :: rest
      ∧ addAliases targets key false before aliases = (none, after)
      ∧ aliasConflict? targets after key name = some e := by
  induction names generalizing aliases with
  | nil => cases h
  | cons name r ih =>
    rw [addAliases] at h
    split at h
    · rename_i hsame
      obtain ⟨hreplace, before, taken, rest, rfl, hadd, hconflict⟩ := ih h
      refine ⟨hreplace, name :: before, taken, rest, rfl, ?_, hconflict⟩
      rw [addAliases, if_pos hsame, hadd]
    · rename_i hother
      split at h
      · rename_i e' he
        cases h
        cases replace with
        | true => cases he
        | false => exact ⟨rfl, [], name, r, rfl, rfl, he⟩
      · rename_i hfree
        obtain ⟨rfl, before, taken, rest, rfl, hadd, hconflict⟩ := ih h
        refine ⟨rfl, name :: before, taken, rest, rfl, ?_, hconflict⟩
        rw [addAliases, if_neg hother, hfree]
        exact hadd

end Aliases

/-! ### Outcomes -/

/-- What a registration can do, with its failure and the registry afterwards. -/
inductive Registration (r : Registry) (name : Value) (aliases : Value) :
    Offer → Bool → Option Failure → Registry → Prop
  | notGenerator (shown : String) (replace : Bool) :
      Registration r name aliases (.foreign shown) replace
        (some (.registry (.notGenerator shown))) r
  | notName (t : Target) (replace : Bool) (e : Fault) (hname : nameOf name = .error e) :
      Registration r name aliases (.generator t) replace (some (.fault e)) r
  | kept (t : Target) (n : String) (hname : nameOf name = .ok n)
      (hold : lowered n ∈ Assoc.keys r.targets) :
      Registration r name aliases (.generator t) false none r
  | aliasTaken (t : Target) (n : String) (e : RegistryError) (after : List (String × String))
      (hname : nameOf name = .ok n) (hnew : lowered n ∉ Assoc.keys r.targets)
      (hadd : addAliases (Assoc.set (lowered n) t r.targets) (lowered n) false
        (listedAliases aliases).1 r.aliases = (some e, after)) :
      Registration r name aliases (.generator t) false (some (.registry e))
        ⟨Assoc.set (lowered n) t r.targets, after⟩
  | registered (t : Target) (n : String) (replace : Bool) (after : List (String × String))
      (hname : nameOf name = .ok n)
      (hnew : replace = false → lowered n ∉ Assoc.keys r.targets)
      (hadd : addAliases (Assoc.set (lowered n) t r.targets) (lowered n) replace
        (listedAliases aliases).1 r.aliases = (none, after)) :
      Registration r name aliases (.generator t) replace ((listedAliases aliases).2.map .fault)
        ⟨Assoc.set (lowered n) t r.targets, after⟩

/-- The evaluator takes only the listed outcomes. -/
theorem registration_registerValues (r : Registry) (name : Value) (offer : Offer)
    (aliases : Value) (replace : Bool) :
    Registration r name aliases offer replace (r.registerValues name offer aliases replace).1
      (r.registerValues name offer aliases replace).2 := by
  unfold registerValues
  cases offer with
  | foreign shown => exact .notGenerator shown replace
  | generator t =>
    cases hname : nameOf name with
    | error e => exact .notName t replace e hname
    | ok n =>
      by_cases hkeep : Assoc.has (lowered n) r.targets ∧ ¬replace
      · -- The name is taken and is not to be replaced.
        obtain ⟨hhas, hreplace⟩ := hkeep
        obtain rfl : replace = false := Bool.eq_false_iff.mpr hreplace
        simp only [register, hhas, Bool.false_eq_true, not_false_eq_true, and_self, if_true,
          Bool.not_false]
        exact .kept t n hname (Assoc.has_iff.mp hhas)
      · have hnew : replace = false → lowered n ∉ Assoc.keys r.targets := by
          rintro rfl hold
          exact hkeep ⟨Assoc.has_iff.mpr hold, Bool.false_ne_true⟩
        have hkeeps : (Assoc.has (lowered n) r.targets && !replace) = false := by
          simpa using hkeep
        simp only [register, if_neg hkeep, hkeeps, Bool.false_eq_true, if_false]
        rcases hadd : addAliases (Assoc.set (lowered n) t r.targets) (lowered n) replace
            (listedAliases aliases).1 r.aliases with ⟨_ | e, after⟩
        · exact .registered t n replace after hname hnew hadd
        · obtain ⟨rfl, -⟩ := addAliases_eq_conflict hadd
          exact .aliasTaken t n e after hname (hnew rfl) hadd

/-! ### A new target -/

/-- The second registry has one more target, and may have further aliases for it. -/
structure Enlarges (r : Registry) (key : String) (t : Target) (r' : Registry) : Prop where
  new : key ∉ Assoc.keys r.targets
  targets : r'.targets = Assoc.set key t r.targets
  aliases : ∃ added, r'.aliases = r.aliases ++ added ∧ ∀ p ∈ added, p.2 = key

theorem enlarges_of_addAliases {r : Registry} {key : String} {t : Target} {names : List String}
    {e : Option RegistryError} {after : List (String × String)}
    (hnew : key ∉ Assoc.keys r.targets)
    (hadd : addAliases (Assoc.set key t r.targets) key false names r.aliases = (e, after)) :
    r.Enlarges key t ⟨Assoc.set key t r.targets, after⟩ where
  new := hnew
  targets := rfl
  aliases := by
    have happend := addAliases_eq_append (Assoc.set key t r.targets) key names r.aliases
    rwa [hadd] at happend

end EntityMapping.Registry
