import EntityMapping.Generation.Run
import EntityMapping.Proofs.Outcome

/-!
# Steps of a run

`Step` lists what one step of a run can do to the state, with the place where it can fail as a
constructor of its own: the candidate is skipped, the shared base fails, the reserved names cannot
be read, the configuration fails, or the entity is configured.  Before the last three the shared
base is there (`Based`): it was there already, or this step made it.

The evaluator takes only these steps (`step_process`), so what holds of a step is proved by cases on
`Step`, and what holds of a run by induction over its candidates (`run_cases`).
-/

namespace EntityMapping

theorem Value.toKey_eq_text {v : Value} {s : String} :
    v.toKey = .ok (.text s) ↔ v = .text s := by
  cases v <;> simp [Value.toKey, Value.toKey?]

namespace Generator

variable {g : Generator}

/-- The shared base stands under the configured name and configures no entity. -/
theorem baseArtifact_eq_ok {lines space : Value} {a : Artifact}
    (h : g.baseArtifact lines space = .ok a) :
    g.baseName.toKey = .ok a.name ∧ a.role = .sharedBase ∧ a.entityName = none := by
  simp only [baseArtifact, bind_eq_ok, liftM_fault_eq_ok, pure_eq_ok] at h
  obtain ⟨fields, -, text, -, name, hname, rfl⟩ := h
  exact ⟨hname, rfl, rfl⟩

/-- The configuration of an entity stands under a name made of its name, and its text is that of
the eligible properties with their directives. -/
theorem entityArtifact_eq_ok {entity : EntityType} {space baseSpace : Value}
    {eligible : List Property} {a : Artifact}
    (h : g.entityArtifact entity space eligible baseSpace = .ok a) :
    a.name = .text (g.entityArtifactName entity.name) ∧ a.role = .entity
      ∧ a.entityName = some entity.name
      ∧ g.entityText entity space
          (eligible.map (resolveProperty · g.settings.defaultStringLength)) baseSpace
        = .ok a.text := by
  simp only [entityArtifact, bind_eq_ok, pure_eq_ok] at h
  obtain ⟨text, htext, rfl⟩ := h
  exact ⟨rfl, rfl, rfl, htext⟩

theorem entityArtifactName_inj {m n : String} :
    g.entityArtifactName m = g.entityArtifactName n ↔ m = n := by
  simp [entityArtifactName, Settings.entityArtifactName, String.append_left_inj]

end Generator

namespace Run

/-- The state after a missing list of audit fields and unreadable lines were reported. -/
def announce (g : Generator) (lines : Value) (st : Run) : Run :=
  { st with
    diagnostics := st.diagnostics ++ g.missingListDiagnostic lines
    journal := st.journal ++ auditListNotes lines }

/-- The state with a shared base. -/
def withBase (base : Artifact) (space : Value) (st : Run) : Run :=
  { st.addArtifact base with baseGenerated := true, baseNamespace := space }

/-- The state after the excluded properties of an entity were reported. -/
def report (reserved : List Key) (entity : EntityType) (st : Run) : Run :=
  { st with
    diagnostics := st.diagnostics
      ++ (classify reserved entity.properties).excluded.map (excludedDiagnostic entity)
    journal := st.journal ++ classifyNotes reserved entity.properties }

/-- The state with the configuration of an entity. -/
def withEntity (reserved : List Key) (entity : EntityType) (a : Artifact) (st : Run) : Run :=
  { st.addArtifact a with
    seen := st.seen ++ [entity.name]
    journal := st.journal ++ [configuredNote entity (classify reserved entity.properties)] }

variable (g : Generator) (lines : Value)

/-- The states with a shared base that a step can reach in a namespace: the state itself if its
base is there, or the one in which the base was just made. -/
inductive Based (space : Value) (st : Run) : Run → Prop
  | kept (h : st.baseGenerated = true) : Based space st st
  | made (h : st.baseGenerated = false) (base : Artifact)
      (hbase : g.baseArtifact lines space = .ok base) :
      Based space st ((st.announce g lines).withBase base space)

/-- What one step can do: its outcome and the state afterwards. -/
inductive Step (c : Candidate) (st : Run) : Except Failure (Option Artifact) → Run → Prop
  | skipped (reason : String) (hv : c.verdict st.seen = .skip reason) :
      Step c st (.ok none) (st.skip c reason)
  | baseFailed (entity : EntityType) (e : Failure) (hv : c.verdict st.seen = .accept entity)
      (hb : st.baseGenerated = false) (he : g.baseArtifact lines (g.namespaceFor c) = .error e) :
      Step c st (.error e) (st.announce g lines)
  | namesFailed (entity : EntityType) (mid : Run) (e : Fault)
      (hv : c.verdict st.seen = .accept entity) (hb : Based g lines (g.namespaceFor c) st mid)
      (he : reservedNames g.settings.auditFieldNames = .error e) :
      Step c st (.error (.fault e)) mid
  | textFailed (entity : EntityType) (mid : Run) (reserved : List Key) (e : Failure)
      (hv : c.verdict st.seen = .accept entity) (hb : Based g lines (g.namespaceFor c) st mid)
      (hr : reservedNames g.settings.auditFieldNames = .ok reserved)
      (he : g.entityArtifact entity (g.namespaceFor c)
        (classify reserved entity.properties).eligible mid.baseNamespace = .error e) :
      Step c st (.error e) (mid.report reserved entity)
  | configured (entity : EntityType) (mid : Run) (reserved : List Key) (a : Artifact)
      (hv : c.verdict st.seen = .accept entity) (hb : Based g lines (g.namespaceFor c) st mid)
      (hr : reservedNames g.settings.auditFieldNames = .ok reserved)
      (ha : g.entityArtifact entity (g.namespaceFor c)
        (classify reserved entity.properties).eligible mid.baseNamespace = .ok a) :
      Step c st (.ok (some a)) ((mid.report reserved entity).withEntity reserved entity a)

variable {g lines}

private theorem step_configure {c : Candidate} {st mid : Run} {entity : EntityType}
    (hv : c.verdict st.seen = .accept entity) (hb : Based g lines (g.namespaceFor c) st mid) :
    Step g lines c st (configure g entity (g.namespaceFor c) mid).1
      (configure g entity (g.namespaceFor c) mid).2 := by
  unfold configure
  cases hr : reservedNames g.settings.auditFieldNames with
  | error e => exact .namesFailed entity mid e hv hb hr
  | ok reserved =>
    cases ha : g.entityArtifact entity (g.namespaceFor c)
        (classify reserved entity.properties).eligible mid.baseNamespace with
    | error e =>
      simp only [ha]
      exact .textFailed entity mid reserved e hv hb hr ha
    | ok a =>
      simp only [ha]
      exact .configured entity mid reserved a hv hb hr ha

/-- The evaluator takes only the listed steps. -/
theorem step_process (g : Generator) (lines : Value) (c : Candidate) (st : Run) :
    Step g lines c st (process g lines c st).1 (process g lines c st).2 := by
  unfold process
  cases hv : c.verdict st.seen with
  | skip reason => exact .skipped reason hv
  | accept entity =>
    cases hb : st.baseGenerated with
    | true => exact step_configure hv (.kept hb)
    | false =>
      simp only [Bool.false_eq_true, if_false, makeBase]
      cases hbase : g.baseArtifact lines (g.namespaceFor c) with
      | error e => exact .baseFailed entity e hv hb hbase
      | ok base => exact step_configure hv (.made hb base hbase)

/-- A run fails as its steps do, or gives the artifacts of the state after them. -/
theorem run_cases (g : Generator) (lines : Value) (cs : List Candidate) (st : Run) :
    (∃ e mid, processAll g lines cs { journal := st.journal } = (some e, mid)
        ∧ run g lines cs st = (.error e, mid))
      ∨ ∃ mid, processAll g lines cs { journal := st.journal } = (none, mid)
        ∧ run g lines cs st
          = (.ok mid.artifacts, { mid with journal := mid.journal ++ [finishedNote mid] }) := by
  rcases hp : processAll g lines cs { journal := st.journal } with ⟨_ | e, mid⟩
  · refine Or.inr ⟨mid, rfl, ?_⟩
    rw [run, hp]
  · refine Or.inl ⟨e, mid, rfl, ?_⟩
    rw [run, hp]

end Run

end EntityMapping
