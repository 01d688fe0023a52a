import EntityMapping.Proofs.Classification
import EntityMapping.Proofs.Generation.Bundled
import EntityMapping.Proofs.Generation.Coherence
import EntityMapping.Proofs.Generation.Refinement
import Mathlib.Data.List.Nodup

/-!
# Nothing disappears

After a run that did not fail every candidate is accounted for: it has a configuration among the
artifacts, or the diagnostics say once why it was skipped.  So is every property of a configured
entity: it has a statement in the text of the configuration, or the shared base has it, or the
diagnostics say once that it is not mapped (`Run.run_accounts`).

A configuration is never lost, as only an artifact of its own name could replace it; so it can be
found by the entity that it configures, and its text is that of the specification.

## Main definitions

* `Generator.Accounted` — where the properties of a configured entity are.

## Main results

* `Run.configuration_mem_of_run` — every accepted candidate has its configuration.
* `Run.run_accounts` — every candidate and every property is accounted for.
-/

namespace EntityMapping

namespace Generator

variable {g : Generator}

/-- Where the properties of an entity are when `text` is its configuration: each is in one of the
three parts, and each eligible one has its statement in the text. -/
structure Accounted (g : Generator) (entity : EntityType) (space baseSpace : Value)
    (reserved : List Key) (text : String) : Prop where
  /-- The parts hold every occurrence of a property once. -/
  parts : let parts := classify reserved entity.properties
    (parts.eligible ++ parts.audit ++ parts.excluded).Perm entity.properties
  /-- No property is in two parts. -/
  disjoint : let parts := classify reserved entity.properties
    parts.eligible.Disjoint parts.audit ∧ parts.eligible.Disjoint parts.excluded
      ∧ parts.audit.Disjoint parts.excluded
  /-- The shared base has the mappable properties with reserved names. -/
  audit : ∀ p ∈ entity.properties, p ∈ (classify reserved entity.properties).audit
    ↔ p.isMappable = true ∧ p.HasReservedName reserved
  /-- The text is made of the eligible properties. -/
  rendered : g.entityText entity space
      ((classify reserved entity.properties).eligible.map
        (resolveProperty · g.settings.defaultStringLength)) baseSpace
    = .ok text
  /-- In the bundled layout there is one statement for each of them, in order. -/
  statements : g.UsesBundled → ∃ used statements,
    usings (nameValue entity.namespaceName) baseSpace space = .ok used
      ∧ List.Forall₂
        (fun p s => statement (resolveProperty p g.settings.defaultStringLength) = .ok s)
        (classify reserved entity.properties).eligible statements
      ∧ text = Text.tidied (g.opening entity space used ++ String.join statements ++ closing)

theorem accounted_of_entityText {entity : EntityType} {space baseSpace : Value}
    {reserved : List Key} {text : String}
    (h : g.entityText entity space
        ((classify reserved entity.properties).eligible.map
          (resolveProperty · g.settings.defaultStringLength)) baseSpace
      = .ok text) :
    g.Accounted entity space baseSpace reserved text where
  parts := classify_perm reserved entity.properties
  disjoint := by
    simp only [List.Disjoint, mem_eligible_classify, mem_audit_classify, mem_excluded_classify]
    refine ⟨?_, ?_, ?_⟩
    · rintro p ⟨-, he⟩ ⟨-, ha⟩
      exact Share.noConfusion (he.symm.trans ha)
    · rintro p ⟨-, he⟩ ⟨-, hx⟩
      exact Share.noConfusion (he.symm.trans hx)
    · rintro p ⟨-, ha⟩ ⟨-, hx⟩
      exact Share.noConfusion (ha.symm.trans hx)
  audit := by
    intro p hp
    rw [mem_audit_classify, share_eq_audit, and_iff_right hp]
  rendered := h
  statements := by
    intro hg
    obtain ⟨used, statements, hused, hs, htext⟩ := entityText_eq_ok hg h
    rw [mapM_eq_ok, List.forall₂_map_left_iff] at hs
    exact ⟨used, statements, hused, hs, htext⟩

end Generator

namespace Run

variable {g : Generator} {lines : Value} {cs : List Candidate} {st st' : Run}
  {artifacts : List (Key × Artifact)}

/-- Every accepted candidate has its configuration among the artifacts of a run. -/
theorem configuration_mem_of_run (h : run g lines cs st = (.ok artifacts, st'))
    {p : Candidate × EntityType} (hp : p ∈ accepted cs) :
    ∃ a, g.configuration (g.baseSpace cs) p = .ok a ∧ (a.name, a) ∈ artifacts := by
  obtain ⟨rfl, hreached⟩ := reached_of_run h
  obtain ⟨as, hdue, has⟩ := hreached.artifacts
  have hc := coherent_of_run h
  have hseen : p.2.name ∈ st'.seen := by
    rw [hreached.seen]
    exact List.mem_map_of_mem hp
  obtain ⟨q, hq, hentity⟩ := hc.mem_seen.mp hseen
  obtain ⟨hmem, hrole⟩ := List.mem_filter.mp hq
  have hname : q = (q.2.name, q.2) := Prod.ext (hc.placed q hmem).1 rfl
  -- The configuration that is there is one of those due, and only that of `p` has its entity.
  have hqdue : .ok q.2 ∈ g.due lines cs := by
    rw [hdue]
    exact List.mem_map_of_mem (mem_of_mem_byName (has ▸ hmem))
  rw [g.due_of_ne_nil (List.ne_nil_of_mem hp)] at hqdue
  rcases List.mem_cons.mp hqdue with hbase | hconf
  · obtain ⟨-, hshared, -⟩ := g.baseArtifact_eq_ok hbase.symm
    rw [hshared] at hrole
    cases hrole
  · obtain ⟨p', hp', hq'⟩ := List.mem_map.mp hconf
    obtain ⟨reserved, -, ha⟩ := g.configuration_eq_ok hq'
    obtain ⟨-, -, hentity', -⟩ := g.entityArtifact_eq_ok ha
    have hsame : p'.2.name = p.2.name := Option.some.inj (hentity'.symm.trans hentity)
    obtain rfl : p' = p := List.inj_on_of_nodup_map (nodup_acceptedNames cs) hp' hp hsame
    exact ⟨q.2, hq', hname ▸ hmem⟩

/-- The diagnostics of a run are those of its candidates in their order.  A candidate that is not
accepted has one message there, on why it was skipped.  One that is has its configuration among the
artifacts, a message for each property that is not mapped, and, if it is the first, the message on a
missing list of audit fields; every property of its entity is accounted for. -/
theorem run_accounts (h : run g lines cs st = (.ok artifacts, st')) :
    st'.diagnostics = g.diagnosed lines cs
      ∧ ∀ before c after, cs = before ++ c :: after →
        newEntity? before c = none ∧ g.messages lines before c = [skipMessage c c.skipReason]
        ∨ ∃ entity reserved a, newEntity? before c = some entity
          ∧ reservedNames g.settings.auditFieldNames = .ok reserved
          ∧ g.messages lines before c
            = (if accepted before = [] then g.missingListDiagnostic lines else [])
              ++ (classify reserved entity.properties).excluded.map (excludedDiagnostic entity)
          ∧ (a.name, a) ∈ artifacts ∧ a.role = .entity ∧ a.entityName = some entity.name
          ∧ g.Accounted entity (g.namespaceFor c) (g.baseSpace cs) reserved a.text := by
  refine ⟨(reached_of_run h).2.diagnostics, ?_⟩
  rintro before c after rfl
  cases hn : newEntity? before c with
  | none =>
    left
    simp [Generator.messages, hn]
  | some entity =>
    right
    obtain ⟨a, hconf, hmem⟩ := configuration_mem_of_run h (mem_accepted after hn)
    obtain ⟨reserved, hr, ha⟩ := g.configuration_eq_ok hconf
    obtain ⟨-, hrole, hentity, htext⟩ := g.entityArtifact_eq_ok ha
    refine ⟨entity, reserved, a, rfl, hr, ?_, hmem, hrole, hentity,
      g.accounted_of_entityText htext⟩
    rw [Generator.messages, hn, g.reserved_eq hr]

set_option maxRecDepth 4000 in
/-- Without a list of audit fields the shop has three skipped candidates and two properties that are
not mapped; its users have one eligible property. -/
theorem run_accounts_shop :
    ∃ artifacts st', run Shop.generator .null Shop.candidates {} = (.ok artifacts, st')
      ∧ st'.diagnostics = [
        "Skipping Shop.Data.Draft: no generation marker",
        "Skipping Shop.Data.Lost: target entity type could not be resolved",
        "Audit field list 'AuditFields.txt' not available; generating an empty base",
        "User.Secret: not mapped (string)", "User.Tags: not mapped (List<string>)",
        "Skipping Shop.Other.UserAgain: entity User already configured"]
      ∧ ∃ reserved a, (a.name, a) ∈ artifacts
        ∧ Shop.generator.Accounted Shop.user (.text "Shop.Data") (.text "Shop.Data") reserved
          a.text
        ∧ Shop.generator.UsesBundled := by
  obtain ⟨artifacts, hok⟩ := exists_eq_ok
    (by decide : (run Shop.generator .null Shop.candidates {}).1.toOption.isSome = true)
  have hrun : run Shop.generator .null Shop.candidates {} = (.ok artifacts, _) := Prod.ext hok rfl
  obtain ⟨hdiagnostics, hcandidates⟩ := run_accounts hrun
  refine ⟨artifacts, _, hrun, hdiagnostics.trans (by decide), ?_⟩
  have hnew : newEntity? (Shop.candidates.take 2) Shop.candidates[2] = some Shop.user := rfl
  rcases hcandidates (Shop.candidates.take 2) Shop.candidates[2] (Shop.candidates.drop 3) rfl with
    ⟨hnone, -⟩ | ⟨entity, reserved, a, hsome, -, -, hmem, -, -, haccounted⟩
  · rw [hnew] at hnone
    cases hnone
  · obtain rfl : Shop.user = entity := Option.some.inj (hnew.symm.trans hsome)
    exact ⟨reserved, a, hmem, haccounted, Generator.usesBundled_bundled _ _⟩

end Run

end EntityMapping
