import EntityMapping.Generation.Run
import Mathlib.Data.List.Induction

/-!
# Accepted candidates

A candidate requests a configuration if it carries the marker and its entity is known.  It is
accepted in a list if no candidate before it requests one for an entity of the same name.  This is
said without a run: a candidate is judged by the candidates before it alone, and what each candidate
of a list contributes in this way is collected by `contributions`.

A run judges a candidate by the names it has configured; after the steps for the candidates before,
that comes to the same (`Candidate.verdict_acceptedNames_eq_accept`).

## Main definitions

* `contributions` — what the elements of a list contribute, each by those before it.
* `Candidate.requested?`, `newEntity?`, `accepted` — who gets a configuration.
* `Candidate.skipReason` — why a candidate that gets none is skipped.
-/

namespace EntityMapping

section Contributions

variable {α β : Type} (f : List α → α → List β)

/-- What the elements of a list contribute, in order.  The share of an element may depend on the
elements before it; `earlier` stands before the whole list. -/
def contributions (earlier : List α) : List α → List β
  | [] => []
  | c :: r => f earlier c ++ contributions (earlier ++ [c]) r

theorem contributions_append (earlier cs ds : List α) :
    contributions f earlier (cs ++ ds)
      = contributions f earlier cs ++ contributions f (earlier ++ cs) ds := by
  induction cs generalizing earlier with
  | nil => simp [contributions]
  | cons c r ih => simp [contributions, ih]

theorem contributions_concat (earlier cs : List α) (c : α) :
    contributions f earlier (cs ++ [c]) = contributions f earlier cs ++ f (earlier ++ cs) c := by
  simp [contributions_append, contributions]

end Contributions

/-- The entity that a candidate requests a configuration for: the known entity of a marked
candidate. -/
def Candidate.requested? (c : Candidate) : Option EntityType :=
  if c.hasMarker then c.target else none

/-- The names of the entities that candidates request configurations for. -/
def requestedNames (cs : List Candidate) : List String :=
  cs.filterMap fun c => c.requested?.map (·.name)

/-- The entity that a candidate requests a configuration for, if none before it requests one for an
entity of that name. -/
def newEntity? (earlier : List Candidate) (c : Candidate) : Option EntityType :=
  c.requested?.filter fun entity => entity.name ∉ requestedNames earlier

/-- The candidates of a list that get a configuration, with their entities. -/
def accepted (cs : List Candidate) : List (Candidate × EntityType) :=
  contributions (fun earlier c => ((newEntity? earlier c).map (c, ·)).toList) [] cs

/-- The names of the entities that get a configuration. -/
def acceptedNames (cs : List Candidate) : List String := (accepted cs).map (·.2.name)

/-- Why a candidate that gets no configuration is skipped: the first reason that applies. -/
def Candidate.skipReason (c : Candidate) : String :=
  if !c.hasMarker then "no generation marker"
  else
    match c.target with
    | none => "target entity type could not be resolved"
    | some entity => "entity " ++ entity.name ++ " already configured"

@[simp] theorem accepted_nil : accepted [] = [] := rfl

theorem accepted_append (cs ds : List Candidate) :
    ∃ r, accepted (cs ++ ds) = accepted cs ++ r :=
  ⟨_, contributions_append _ [] cs ds⟩

theorem accepted_concat (cs : List Candidate) (c : Candidate) :
    accepted (cs ++ [c]) = accepted cs ++ ((newEntity? cs c).map (c, ·)).toList :=
  contributions_concat _ [] cs c

theorem mem_accepted {before : List Candidate} {c : Candidate} {entity : EntityType}
    (after : List Candidate) (h : newEntity? before c = some entity) :
    (c, entity) ∈ accepted (before ++ c :: after) := by
  obtain ⟨r, hr⟩ := accepted_append (before ++ [c]) after
  rw [List.append_assoc, List.singleton_append] at hr
  rw [hr, accepted_concat, h]
  simp

theorem acceptedNames_concat (cs : List Candidate) (c : Candidate) :
    acceptedNames (cs ++ [c]) = acceptedNames cs ++ ((newEntity? cs c).map (·.name)).toList := by
  cases h : newEntity? cs c <;> simp [acceptedNames, accepted_concat, h]

theorem requestedNames_concat (cs : List Candidate) (c : Candidate) :
    requestedNames (cs ++ [c]) = requestedNames cs ++ (c.requested?.map (·.name)).toList := by
  cases h : c.requested? <;> simp [requestedNames, h]

theorem newEntity?_eq_some {earlier : List Candidate} {c : Candidate} {entity : EntityType} :
    newEntity? earlier c = some entity
      ↔ c.requested? = some entity ∧ entity.name ∉ requestedNames earlier := by
  simp [newEntity?, Option.filter_eq_some_iff]

theorem newEntity?_eq_none {earlier : List Candidate} {c : Candidate} :
    newEntity? earlier c = none
      ↔ ∀ entity, c.requested? = some entity → entity.name ∈ requestedNames earlier := by
  simp [newEntity?, Option.filter_eq_none_iff]

/-- The accepted candidates cover every name that is requested at all. -/
theorem mem_acceptedNames {cs : List Candidate} {n : String} :
    n ∈ acceptedNames cs ↔ n ∈ requestedNames cs := by
  induction cs using List.reverseRecOn with
  | nil => rfl
  | append_singleton cs c ih =>
    rw [acceptedNames_concat, requestedNames_concat, List.mem_append, List.mem_append, ih]
    cases hn : newEntity? cs c with
    | some entity =>
      obtain ⟨hr, -⟩ := newEntity?_eq_some.mp hn
      simp [hr]
    | none =>
      cases hr : c.requested? with
      | none => simp
      | some entity =>
        have hold := newEntity?_eq_none.mp hn entity hr
        simp only [Option.map_none, Option.map_some, Option.toList, List.not_mem_nil, or_false,
          List.mem_singleton, iff_self_or]
        rintro rfl
        exact hold

/-- No two accepted candidates have entities of one name. -/
theorem nodup_acceptedNames (cs : List Candidate) : (acceptedNames cs).Nodup := by
  induction cs using List.reverseRecOn with
  | nil => exact List.nodup_nil
  | append_singleton cs c ih =>
    rw [acceptedNames_concat]
    cases hn : newEntity? cs c with
    | none => simpa using ih
    | some entity =>
      have hfresh : entity.name ∉ acceptedNames cs := fun h =>
        (newEntity?_eq_some.mp hn).2 (mem_acceptedNames.mp h)
      exact (List.perm_append_singleton entity.name _).nodup_iff.mpr
        (List.nodup_cons.mpr ⟨hfresh, ih⟩)

theorem accepted_eq_nil_iff {cs : List Candidate} :
    accepted cs = [] ↔ requestedNames cs = [] := by
  rw [← List.map_eq_nil_iff (f := fun p : Candidate × EntityType => p.2.name)]
  simp only [List.eq_nil_iff_forall_not_mem]
  exact forall_congr' fun n => not_congr mem_acceptedNames

namespace Candidate

theorem verdict_eq_accept {c : Candidate} {seen : List String} {entity : EntityType} :
    c.verdict seen = .accept entity ↔ c.requested? = some entity ∧ entity.name ∉ seen := by
  unfold verdict requested?
  cases c.hasMarker with
  | false => simp
  | true =>
    cases c.target with
    | none => simp
    | some e =>
      by_cases h : e.name ∈ seen
      · simp only [h, Bool.not_true, if_true, Bool.false_eq_true, if_false, Option.some.injEq,
          reduceCtorEq, false_iff, not_and, not_not]
        rintro rfl
        exact h
      · simp only [h, Bool.not_true, if_true, Bool.false_eq_true, if_false, Option.some.injEq,
          Verdict.accept.injEq, iff_self_and]
        rintro rfl
        exact h

theorem verdict_eq_skip {c : Candidate} {seen : List String} {reason : String}
    (h : c.verdict seen = .skip reason) :
    (∀ entity, c.requested? = some entity → entity.name ∈ seen) ∧ reason = c.skipReason := by
  unfold verdict requested? skipReason at *
  cases hm : c.hasMarker with
  | false => simp_all
  | true =>
    cases ht : c.target with
    | none => simp_all
    | some e =>
      by_cases he : e.name ∈ seen <;> simp_all

/-- A run that has gone through the candidates before accepts a candidate just if its entity is
new. -/
theorem verdict_acceptedNames_eq_accept {c : Candidate} {earlier : List Candidate}
    {entity : EntityType} :
    c.verdict (acceptedNames earlier) = .accept entity ↔ newEntity? earlier c = some entity := by
  rw [verdict_eq_accept, newEntity?_eq_some, mem_acceptedNames]

theorem verdict_acceptedNames_eq_skip {c : Candidate} {earlier : List Candidate} {reason : String}
    (h : c.verdict (acceptedNames earlier) = .skip reason) :
    newEntity? earlier c = none ∧ reason = c.skipReason := by
  obtain ⟨hr, hreason⟩ := verdict_eq_skip h
  exact ⟨newEntity?_eq_none.mpr fun entity he => mem_acceptedNames.mp (hr entity he), hreason⟩

end Candidate

end EntityMapping
