import EntityMapping.Proofs.Generation.Bundled
import EntityMapping.Proofs.Generation.Specification
import EntityMapping.Registry

/-!
# Runs give what is due

A run is a loop over a state with five parts.  `Reached` ties the state after any number of
candidates to what is due for them, and one step either keeps it or fails with the first failure
among what is due (`Run.Reached.of_step`).  So whatever the state was before, a run ends in what is
due, or in the first failure on the way (`Run.run_fst`).

An artifact is kept under its name, so one of the same name would replace it.  The names of two
configurations never agree; where none is that of the shared base either, nothing is replaced, and
the run gives exactly what is due, in order (`Run.run_eq_specified`).

## Main definitions

* `byName` — artifacts under their names.
* `Run.Reached` — the state after the steps for candidates.

## Main results

* `Run.Reached.of_step`, `Run.Reached.of_processAll` — one step, and any number of them.
* `Run.run_fst`, `Run.reached_of_run` — a whole run.
* `Run.run_eq_specified` — a run without replacements.
-/

namespace EntityMapping

/-- Artifacts under their names, in order; a later one replaces one of the same name. -/
def byName (as : List Artifact) : List (Key × Artifact) :=
  as.foldl (fun l a => Assoc.set a.name a l) []

@[simp] theorem byName_nil : byName [] = [] := rfl

theorem byName_concat (as : List Artifact) (a : Artifact) :
    byName (as ++ [a]) = Assoc.set a.name a (byName as) := by
  simp [byName]

theorem mem_of_mem_byName {as : List Artifact} {p : Key × Artifact} (h : p ∈ byName as) :
    p.2 ∈ as := by
  induction as using List.reverseRecOn with
  | nil => cases h
  | append_singleton as a ih =>
    rw [byName_concat] at h
    rcases Assoc.mem_of_mem_set h with rfl | h
    · exact List.mem_append_right _ (List.mem_singleton.mpr rfl)
    · exact List.mem_append_left _ (ih h)

/-- Artifacts with different names are kept as they are. -/
theorem byName_of_nodup {as : List Artifact} (h : (as.map Artifact.name).Nodup) :
    byName as = as.map fun a => (a.name, a) := by
  induction as using List.reverseRecOn with
  | nil => rfl
  | append_singleton as a ih =>
    rw [List.map_append, List.nodup_append] at h
    obtain ⟨has, -, hdisj⟩ := h
    have hkeys : a.name ∉ Assoc.keys (as.map fun a => (a.name, a)) := by
      intro hmem
      have hmem' : a.name ∈ as.map Artifact.name := by simpa [Assoc.keys] using hmem
      exact hdisj _ hmem' _ (List.mem_singleton.mpr rfl) rfl
    rw [byName_concat, ih has, Assoc.set_of_notMem a hkeys, List.map_append, List.map_singleton]

namespace Run

variable {g : Generator} {lines : Value}

/-- The state is the one after the steps for candidates, none of which failed. -/
structure Reached (g : Generator) (lines : Value) (cs : List Candidate) (st : Run) : Prop where
  /-- Everything due is there, under its name. -/
  artifacts : ∃ as : List Artifact, g.due lines cs = as.map .ok ∧ st.artifacts = byName as
  /-- Every accepted entity is configured. -/
  seen : st.seen = acceptedNames cs
  /-- There is a shared base just if a candidate was accepted. -/
  baseGenerated : st.baseGenerated = !(accepted cs).isEmpty
  /-- The shared base stands in the namespace of the first accepted candidate. -/
  baseNamespace : st.baseNamespace = g.baseSpace cs
  /-- The diagnostics are those of the candidates. -/
  diagnostics : st.diagnostics = g.diagnosed lines cs

/-- What is due starts with artifacts and then has a failure. -/
def FailsWith (due : List (Except Failure Artifact)) (e : Failure) : Prop :=
  ∃ (as : List Artifact) (r : List (Except Failure Artifact)), due = as.map .ok ++ .error e :: r

theorem FailsWith.append {due : List (Except Failure Artifact)} {e : Failure}
    (h : FailsWith due e) (more : List (Except Failure Artifact)) :
    FailsWith (due ++ more) e := by
  obtain ⟨as, r, rfl⟩ := h
  exact ⟨as, r ++ more, by simp⟩

namespace Reached

theorem start (g : Generator) (lines : Value) (notes : List Note) :
    Reached g lines [] { journal := notes } where
  artifacts := ⟨[], rfl, rfl⟩
  seen := rfl
  baseGenerated := rfl
  baseNamespace := rfl
  diagnostics := rfl

variable {cs : List Candidate} {c : Candidate} {st : Run}

theorem baseGenerated_iff (h : Reached g lines cs st) :
    st.baseGenerated = true ↔ accepted cs ≠ [] := by
  rw [h.baseGenerated]
  simp

theorem accepted_eq_nil (h : Reached g lines cs st) (hg : st.baseGenerated = false) :
    accepted cs = [] := by
  by_contra hne
  exact Bool.false_ne_true (hg.symm.trans (h.baseGenerated_iff.mpr hne))

theorem newEntity?_eq_some {entity : EntityType} (h : Reached g lines cs st)
    (hv : c.verdict st.seen = .accept entity) : newEntity? cs c = some entity :=
  Candidate.verdict_acceptedNames_eq_accept.mp (h.seen ▸ hv)

/-- The state before the configuration of a new entity: the shared base is there, and of what is due
just the configuration is missing. -/
structure Awaiting (g : Generator) (lines : Value) (cs : List Candidate) (c : Candidate)
    (entity : EntityType) (mid : Run) : Prop where
  artifacts : ∃ as : List Artifact,
    g.due lines (cs ++ [c])
        = as.map .ok ++ [g.configuration mid.baseNamespace (c, entity)]
      ∧ mid.artifacts = byName as
  seen : mid.seen = acceptedNames cs
  baseGenerated : mid.baseGenerated = true
  baseNamespace : mid.baseNamespace = g.baseSpace (cs ++ [c])
  diagnostics : mid.diagnostics
    = g.diagnosed lines cs ++ if accepted cs = [] then g.missingListDiagnostic lines else []

theorem awaiting {entity : EntityType} {mid : Run} (h : Reached g lines cs st)
    (hn : newEntity? cs c = some entity) (hb : Based g lines (g.namespaceFor c) st mid) :
    Awaiting g lines cs c entity mid := by
  obtain ⟨as, hdue, has⟩ := h.artifacts
  cases hb with
  | kept hg =>
    have hcs := h.baseGenerated_iff.mp hg
    have hspace := g.baseSpace_concat_next (c := c) hcs
    exact {
      artifacts := ⟨as, by rw [g.due_concat_next hcs hn, hdue, h.baseNamespace], has⟩
      seen := h.seen
      baseGenerated := hg
      baseNamespace := by rw [hspace, h.baseNamespace]
      diagnostics := by rw [if_neg hcs, List.append_nil, h.diagnostics] }
  | made hg base hbase =>
    have hcs := h.accepted_eq_nil hg
    -- Before the first accepted candidate nothing is due, so there are no artifacts yet.
    have hnil : as = [] := by
      have : g.due lines cs = [] := by simp [Generator.due, hcs]
      exact List.map_eq_nil_iff.mp (hdue.symm.trans this)
    subst hnil
    exact {
      artifacts := by
        refine ⟨[base], ?_, ?_⟩
        · rw [g.due_concat_first hcs hn, hbase]
          rfl
        · show Assoc.set base.name base st.artifacts = _
          rw [has]
          rfl
      seen := h.seen
      baseGenerated := rfl
      baseNamespace := (g.baseSpace_concat_first hcs hn).symm
      diagnostics := by
        rw [if_pos hcs, ← h.diagnostics]
        rfl }

/-- A step that does not fail keeps the tie. -/
theorem of_step {o : Option Artifact} {st' : Run} (h : Reached g lines cs st)
    (hs : Step g lines c st (.ok o) st') : Reached g lines (cs ++ [c]) st' := by
  cases hs with
  | skipped reason hv =>
    rw [h.seen] at hv
    obtain ⟨hn, rfl⟩ := Candidate.verdict_acceptedNames_eq_skip hv
    exact {
      artifacts := by
        rw [g.due_concat_of_none hn]
        exact h.artifacts
      seen := by
        rw [acceptedNames_concat, hn]
        simpa [skip] using h.seen
      baseGenerated := by
        rw [accepted_concat, hn]
        simpa [skip] using h.baseGenerated
      baseNamespace := by
        rw [g.baseSpace_concat_of_none hn]
        exact h.baseNamespace
      diagnostics := by
        rw [g.diagnosed_concat, ← h.diagnostics, Generator.messages, hn]
        rfl }
  | configured entity mid reserved a hv hb hr ha =>
    have hn := h.newEntity?_eq_some hv
    have hw := h.awaiting hn hb
    obtain ⟨as, hdue, has⟩ := hw.artifacts
    exact {
      artifacts := by
        refine ⟨as ++ [a], ?_, ?_⟩
        · rw [hdue, g.configuration_eq_of_reserved hr, ha, List.map_append]
          rfl
        · rw [byName_concat, ← has]
          rfl
      seen := by
        rw [acceptedNames_concat, hn, ← hw.seen]
        rfl
      baseGenerated := by
        rw [accepted_concat, hn]
        simp [withEntity, report, addArtifact, hw.baseGenerated]
      baseNamespace := hw.baseNamespace
      diagnostics := by
        rw [g.diagnosed_concat, Generator.messages, hn, g.reserved_eq hr, ← List.append_assoc,
          ← hw.diagnostics]
        rfl }

/-- A step fails with the first failure among what is due. -/
theorem failsWith_of_step {e : Failure} {st' : Run} (h : Reached g lines cs st)
    (hs : Step g lines c st (.error e) st') : FailsWith (g.due lines (cs ++ [c])) e := by
  cases hs with
  | baseFailed entity _ hv hg he =>
    have hn := h.newEntity?_eq_some hv
    refine ⟨[], [g.configuration (g.namespaceFor c) (c, entity)], ?_⟩
    rw [g.due_concat_first (h.accepted_eq_nil hg) hn, he]
    rfl
  | namesFailed entity mid e hv hb he =>
    have hn := h.newEntity?_eq_some hv
    obtain ⟨as, hdue, -⟩ := (h.awaiting hn hb).artifacts
    refine ⟨as, [], ?_⟩
    rw [hdue, Generator.configuration, he]
    rfl
  | textFailed entity mid reserved e hv hb hr he =>
    have hn := h.newEntity?_eq_some hv
    obtain ⟨as, hdue, -⟩ := (h.awaiting hn hb).artifacts
    refine ⟨as, [], ?_⟩
    rw [hdue, g.configuration_eq_of_reserved hr, he]

/-- The steps for further candidates keep the tie, or they fail with the first failure among what is
due. -/
theorem of_processAll (ds : List Candidate) (h : Reached g lines cs st) :
    match processAll g lines ds st with
    | (none, st') => Reached g lines (cs ++ ds) st'
    | (some e, _) => FailsWith (g.due lines (cs ++ ds)) e := by
  induction ds generalizing cs st with
  | nil => simpa [processAll] using h
  | cons d r ih =>
    have hs := step_process g lines d st
    rw [processAll]
    rcases hp : process g lines d st with ⟨_ | _, st'⟩
    · rw [hp] at hs
      obtain ⟨more, hmore⟩ := g.due_append lines (cs ++ [d]) r
      rw [List.append_assoc, List.singleton_append] at hmore
      rw [hmore]
      exact (h.failsWith_of_step hs).append more
    · rw [hp] at hs
      simpa using ih (h.of_step hs)

end Reached

/-- A run gives what is due, each artifact under its name, or the first failure among it; what the
state was before does not matter. -/
theorem run_fst (cs : List Candidate) (st : Run) :
    (run g lines cs st).1 = (g.specified lines cs).map byName := by
  have h := (Reached.start g lines st.journal).of_processAll cs
  rw [List.nil_append] at h
  rcases run_cases g lines cs st with ⟨e, mid, hp, hrun⟩ | ⟨mid, hp, hrun⟩
  · rw [hp] at h
    obtain ⟨as, r, hdue⟩ := h
    rw [hrun, Generator.specified, hdue, sequence_error]
    rfl
  · rw [hp] at h
    obtain ⟨as, hdue, has⟩ := h.artifacts
    rw [hrun, Generator.specified, sequence_eq_ok.mpr hdue]
    exact congrArg Except.ok has

/-- After a run that did not fail, the state is the one after the steps for its candidates. -/
theorem reached_of_run {cs : List Candidate} {st st' : Run} {artifacts : List (Key × Artifact)}
    (h : run g lines cs st = (.ok artifacts, st')) :
    st'.artifacts = artifacts ∧ Reached g lines cs st' := by
  have hall := (Reached.start g lines st.journal).of_processAll cs
  rw [List.nil_append] at hall
  rcases run_cases g lines cs st with ⟨e, mid, -, hrun⟩ | ⟨mid, hp, hrun⟩
  · rw [hrun] at h
    cases h
  · rw [hrun] at h
    rw [hp] at hall
    cases h
    exact ⟨rfl, ⟨hall.artifacts, hall.seen, hall.baseGenerated, hall.baseNamespace,
      hall.diagnostics⟩⟩

/-- Where no configuration has the name of the shared base, everything due has a name of its own. -/
theorem nodup_names_of_due {cs : List Candidate} {as : List Artifact}
    (hname : ∀ n ∈ acceptedNames cs,
      g.settings.baseClassName ≠ .text (g.entityArtifactName n))
    (hdue : g.due lines cs = as.map .ok) : (as.map Artifact.name).Nodup := by
  rcases g.names_of_due hdue with ⟨-, rfl⟩ | ⟨base, configurations, rfl, hbase, hconf⟩
  · exact List.nodup_nil
  · rw [List.map_cons, hconf, List.nodup_cons]
    constructor
    · intro hmem
      obtain ⟨n, hn, heq⟩ := List.mem_map.mp hmem
      exact hname n hn (Value.toKey_eq_text.mp (heq ▸ hbase))
    · refine List.Pairwise.map _ ?_ (nodup_acceptedNames cs)
      intro m n hmn heq
      exact hmn (g.entityArtifactName_inj.mp (Key.text.inj heq))

namespace Shop

/-- The users of the shop. -/
def user : EntityType where
  name := "User"
  namespaceName := some "Shop.Domain"
  properties := [
    { name := some "CreatedAt", type := .datetime },
    { name := some "Email", type := .string, annotations := [{ kind := .required }] },
    { name := some "Secret", type := .string, isPublic := false },
    { name := some "Tags", type := .other, typeName := "List<string>" }]

/-- The orders of the shop. -/
def order : EntityType where
  name := "Order"
  properties := [{ name := some "Total", type := .double }]

/-- The declarations of the shop: one without the marker, one without a known entity, two for its
users and one for its orders. -/
def candidates : List Candidate := [
  { name := "Draft", namespaceName := some "Shop.Data", target := some order, hasMarker := false },
  { name := "Lost", namespaceName := some "Shop.Data" },
  { name := "UserConfiguration", namespaceName := some "Shop.Data", target := some user },
  { name := "UserAgain", namespaceName := some "Shop.Other", target := some user },
  { name := "OrderConfiguration", namespaceName := some "Shop.Orders", target := some order }]

/-- The generator of the shop. -/
def generator : Generator := .bundled .csharp {}

/-- A state that an earlier run left behind. -/
def leftover : Run where
  artifacts := [(.text "UserCommonConfiguration",
    { name := .text "UserCommonConfiguration", role := .entity, text := "",
      entityName := some "User" })]
  diagnostics := ["Skipping Shop.Data.Lost: no generation marker"]
  baseGenerated := true
  baseNamespace := .text "Elsewhere"
  seen := ["User"]

end Shop

end Run

end EntityMapping
