import EntityMapping.Proofs.Assoc
import EntityMapping.Proofs.Generation.Accepted
import EntityMapping.Proofs.Generation.Step

/-!
# What a run should give

The artifacts that are due for candidates can be told without a state: the shared base in the
namespace of the first accepted candidate, then one configuration for each accepted candidate, in
order.  The same goes for the diagnostics: what a candidate adds to them depends on the candidates
before it alone.

## Main definitions

* `Generator.due`, `Generator.specified` — the artifacts for candidates, as a pure function.
* `Generator.messages`, `Generator.diagnosed` — the diagnostics.
-/

namespace EntityMapping

namespace Generator

variable (g : Generator) (lines : Value)

/-- The configuration for an accepted candidate, next to a shared base in a namespace. -/
def configuration (baseSpace : Value) (p : Candidate × EntityType) : Except Failure Artifact := do
  let reserved ← reservedNames g.settings.auditFieldNames
  g.entityArtifact p.2 (g.namespaceFor p.1) (classify reserved p.2.properties).eligible baseSpace

/-- The namespace of the shared base: that of the first accepted candidate. -/
def baseSpace (cs : List Candidate) : Value :=
  match accepted cs with
  | [] => .null
  | p :: _ => g.namespaceFor p.1

/-- What is due for candidates, in order: if any is accepted, the shared base in the namespace of
the first accepted one, and one configuration for each accepted one. -/
def due (cs : List Candidate) : List (Except Failure Artifact) :=
  match accepted cs with
  | [] => []
  | p :: r =>
    g.baseArtifact lines (g.namespaceFor p.1)
      :: (p :: r).map (g.configuration (g.namespaceFor p.1))

/-- The artifacts that are due, or the first failure among them. -/
def specified (cs : List Candidate) : Except Failure (List Artifact) := (g.due lines cs).mapM id

/-- The reserved names, where the settings list any. -/
def reserved : List Key := (reservedNames g.settings.auditFieldNames).toOption.getD []

/-- What a candidate adds to the diagnostics, given the candidates before it: the reason why it is
skipped, or one message for each excluded property of its entity.  The first candidate that is not
skipped also brings the message on a missing list of audit fields. -/
def messages (earlier : List Candidate) (c : Candidate) : List String :=
  match newEntity? earlier c with
  | none => [Run.skipMessage c c.skipReason]
  | some entity =>
    (if accepted earlier = [] then g.missingListDiagnostic lines else [])
      ++ (classify g.reserved entity.properties).excluded.map (excludedDiagnostic entity)

/-- The diagnostics for candidates, in their order. -/
def diagnosed (cs : List Candidate) : List String := contributions (g.messages lines) [] cs

variable {g lines}

theorem diagnosed_concat (cs : List Candidate) (c : Candidate) :
    g.diagnosed lines (cs ++ [c]) = g.diagnosed lines cs ++ g.messages lines cs c :=
  contributions_concat _ [] cs c

theorem due_append (lines : Value) (cs ds : List Candidate) :
    ∃ r, g.due lines (cs ++ ds) = g.due lines cs ++ r := by
  obtain ⟨r, hr⟩ := accepted_append cs ds
  cases h : accepted cs with
  | nil => exact ⟨g.due lines (cs ++ ds), by simp [due, h]⟩
  | cons p q =>
    refine ⟨r.map (g.configuration (g.namespaceFor p.1)), ?_⟩
    simp [due, hr, h]

theorem due_of_ne_nil {cs : List Candidate} (h : accepted cs ≠ []) :
    g.due lines cs
      = g.baseArtifact lines (g.baseSpace cs)
        :: (accepted cs).map (g.configuration (g.baseSpace cs)) := by
  obtain ⟨p, r, hp⟩ := List.exists_cons_of_ne_nil h
  simp [due, baseSpace, hp]

theorem due_concat_of_none {cs : List Candidate} {c : Candidate} (h : newEntity? cs c = none) :
    g.due lines (cs ++ [c]) = g.due lines cs := by
  simp [due, accepted_concat, h]

theorem due_concat_first {cs : List Candidate} {c : Candidate} {entity : EntityType}
    (hcs : accepted cs = []) (h : newEntity? cs c = some entity) :
    g.due lines (cs ++ [c])
      = [g.baseArtifact lines (g.namespaceFor c),
          g.configuration (g.namespaceFor c) (c, entity)] := by
  simp [due, accepted_concat, h, hcs]

theorem due_concat_next {cs : List Candidate} {c : Candidate} {entity : EntityType}
    (hcs : accepted cs ≠ []) (h : newEntity? cs c = some entity) :
    g.due lines (cs ++ [c])
      = g.due lines cs ++ [g.configuration (g.baseSpace cs) (c, entity)] := by
  obtain ⟨p, r, hp⟩ := List.exists_cons_of_ne_nil hcs
  simp [due, baseSpace, accepted_concat, h, hp]

theorem baseSpace_concat_of_none {cs : List Candidate} {c : Candidate}
    (h : newEntity? cs c = none) : g.baseSpace (cs ++ [c]) = g.baseSpace cs := by
  simp [baseSpace, accepted_concat, h]

theorem baseSpace_concat_first {cs : List Candidate} {c : Candidate} {entity : EntityType}
    (hcs : accepted cs = []) (h : newEntity? cs c = some entity) :
    g.baseSpace (cs ++ [c]) = g.namespaceFor c := by
  simp [baseSpace, accepted_concat, h, hcs]

theorem baseSpace_concat_next {cs : List Candidate} {c : Candidate} (hcs : accepted cs ≠ []) :
    g.baseSpace (cs ++ [c]) = g.baseSpace cs := by
  obtain ⟨p, r, hp⟩ := List.exists_cons_of_ne_nil hcs
  simp [baseSpace, accepted_concat, hp]

theorem configuration_eq_of_reserved {reserved : List Key}
    (h : reservedNames g.settings.auditFieldNames = .ok reserved) (baseSpace : Value)
    (p : Candidate × EntityType) :
    g.configuration baseSpace p
      = g.entityArtifact p.2 (g.namespaceFor p.1) (classify reserved p.2.properties).eligible
          baseSpace := by
  simp only [configuration, h]
  rfl

theorem configuration_eq_ok {baseSpace : Value} {p : Candidate × EntityType} {a : Artifact}
    (h : g.configuration baseSpace p = .ok a) :
    ∃ reserved, reservedNames g.settings.auditFieldNames = .ok reserved
      ∧ g.entityArtifact p.2 (g.namespaceFor p.1) (classify reserved p.2.properties).eligible
          baseSpace
        = .ok a := by
  simpa only [configuration, bind_eq_ok, liftM_fault_eq_ok] using h

private theorem names_of_configurations {baseSpace : Value} {l : List (Candidate × EntityType)}
    {as : List Artifact} (h : l.map (g.configuration baseSpace) = as.map .ok) :
    as.map Artifact.name = l.map fun p => .text (g.entityArtifactName p.2.name) := by
  induction l generalizing as with
  | nil =>
    obtain rfl := List.map_eq_nil_iff.mp h.symm
    rfl
  | cons p r ih =>
    obtain ⟨a, as, rfl, ha, has⟩ := List.map_eq_cons_iff.mp h.symm
    obtain ⟨reserved, -, hconf⟩ := configuration_eq_ok ha.symm
    rw [List.map_cons, List.map_cons, ih has.symm, (entityArtifact_eq_ok hconf).1]

/-- When everything due is there, the names are that of the shared base and then those of the
configurations. -/
theorem names_of_due {cs : List Candidate} {as : List Artifact}
    (h : g.due lines cs = as.map .ok) :
    accepted cs = [] ∧ as = []
      ∨ ∃ base configurations, as = base :: configurations
        ∧ g.baseName.toKey = .ok base.name
        ∧ configurations.map Artifact.name
          = (acceptedNames cs).map fun n => .text (g.entityArtifactName n) := by
  unfold due at h
  cases hcs : accepted cs with
  | nil =>
    rw [hcs] at h
    exact Or.inl ⟨rfl, List.map_eq_nil_iff.mp h.symm⟩
  | cons p r =>
    rw [hcs] at h
    obtain ⟨base, configurations, rfl, hbase, hconf⟩ := List.map_eq_cons_iff.mp h.symm
    refine Or.inr ⟨base, configurations, rfl, (baseArtifact_eq_ok hbase.symm).1, ?_⟩
    rw [names_of_configurations hconf.symm, acceptedNames, hcs, List.map_map]
    rfl

theorem reserved_eq {reserved : List Key}
    (h : reservedNames g.settings.auditFieldNames = .ok reserved) : g.reserved = reserved := by
  simp [Generator.reserved, h, Except.toOption]

end Generator

end EntityMapping
