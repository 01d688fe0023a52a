import EntityMapping.Classification
import EntityMapping.Generation.Generator

/-!
# Generation runs

A run goes through candidates in order.  A candidate is skipped without the marker, without a known
entity, or if its entity is configured already; otherwise it gets an artifact.  The first candidate
that is not skipped brings the shared base with it.  What is skipped or left out is said in the
diagnostics.  A step that fails leaves what was done before the failure.
-/

namespace EntityMapping

/-- The state of a run. -/
structure Run where
  /-- The artifacts under their names. -/
  artifacts : List (Key × Artifact) := []
  /-- What was skipped or left out, in order. -/
  diagnostics : List String := []
  /-- Whether there is a shared base. -/
  baseGenerated : Bool := false
  /-- The namespace of the shared base. -/
  baseNamespace : Value := .null
  /-- The names of the entities that are configured. -/
  seen : List String := []
  /-- The notes taken. -/
  journal : List Note := []

/-- What a run does with a candidate. -/
inductive Verdict where
  /-- It is skipped. -/
  | skip (reason : String)
  /-- Its entity is configured. -/
  | accept (entity : EntityType)

/-- What a run does with a candidate when the named entities are configured already. -/
def Candidate.verdict (c : Candidate) (seen : List String) : Verdict :=
  if !c.hasMarker then .skip "no generation marker"
  else
    match c.target with
    | none => .skip "target entity type could not be resolved"
    | some entity =>
      if entity.name ∈ seen then .skip ("entity " ++ entity.name ++ " already configured")
      else .accept entity

namespace Generator

/-- The namespace of what is generated for a candidate. -/
def namespaceFor (g : Generator) (c : Candidate) : Value :=
  g.settings.namespaceName.orElse (nameValue c.namespaceName)

/-- The diagnostic on a list of audit fields that is not there. -/
def missingListDiagnostic (g : Generator) (lines : Value) : List String :=
  match lines with
  | .null =>
    ["Audit field list '" ++ g.settings.auditFieldsFile.display
      ++ "' not available; generating an empty base"]
  | _ => []

/-- The shared base. -/
def baseArtifact (g : Generator) (lines space : Value) : Except Failure Artifact := do
  let fields ← auditFields lines
  let text ← g.baseText space fields
  let name ← g.baseName.toKey
  return { name, role := .sharedBase, text }

/-- The configuration of an entity. -/
def entityArtifact (g : Generator) (entity : EntityType) (space : Value)
    (eligible : List Property) (baseSpace : Value) : Except Failure Artifact := do
  let resolved := eligible.map (resolveProperty · g.settings.defaultStringLength)
  let text ← g.entityText entity space resolved baseSpace
  return {
    name := .text (g.entityArtifactName entity.name), role := .entity, text,
    entityName := some entity.name }

end Generator

/-- The diagnostic on a property that is not mapped. -/
def excludedDiagnostic (entity : EntityType) (p : Property) : String :=
  entity.name ++ "." ++ (nameValue p.name).display ++ ": not mapped (" ++ p.shownType ++ ")"

/-- The plural of a word that ends in `y`. -/
def endingFor (n : Nat) : String := if n = 1 then "y" else "ies"

namespace Run

/-- The number of entities that are configured. -/
def entityCount (st : Run) : Nat := st.seen.length

/-- The state with a further artifact; one of the same name is replaced. -/
def addArtifact (st : Run) (a : Artifact) : Run :=
  { st with artifacts := Assoc.set a.name a st.artifacts }

/-- The message on a skipped candidate. -/
def skipMessage (c : Candidate) (reason : String) : String :=
  "Skipping " ++ (nameValue c.namespaceName).display ++ "." ++ c.name ++ ": " ++ reason

/-- The state after a candidate was skipped. -/
def skip (st : Run) (c : Candidate) (reason : String) : Run :=
  { st with
    diagnostics := st.diagnostics ++ [skipMessage c reason]
    journal := st.journal ++ [⟨.debug, .runs, skipMessage c reason⟩] }

/-- The state with the shared base, and the failure if there was one. -/
def makeBase (g : Generator) (lines space : Value) (st : Run) : Option Failure × Run :=
  let st := { st with
    diagnostics := st.diagnostics ++ g.missingListDiagnostic lines
    journal := st.journal ++ auditListNotes lines }
  match g.baseArtifact lines space with
  | .error e => (some e, st)
  | .ok a => (none, { st.addArtifact a with baseGenerated := true, baseNamespace := space })

/-- The note on an entity that was configured. -/
def configuredNote (entity : EntityType) (parts : Partition) : Note :=
  let n := parts.eligible.length
  ⟨.debug, .runs,
    "Configured " ++ entity.name ++ ": " ++ toString n ++ " propert" ++ endingFor n ++ ", "
      ++ toString parts.audit.length ++ " audit field(s) left to base"⟩

/-- Configures an entity; the shared base is there. -/
def configure (g : Generator) (entity : EntityType) (space : Value) (st : Run) :
    Except Failure (Option Artifact) × Run :=
  match reservedNames g.settings.auditFieldNames with
  | .error e => (.error (.fault e), st)
  | .ok reserved =>
    let parts := classify reserved entity.properties
    let st := { st with
      diagnostics := st.diagnostics ++ parts.excluded.map (excludedDiagnostic entity)
      journal := st.journal ++ classifyNotes reserved entity.properties }
    match g.entityArtifact entity space parts.eligible st.baseNamespace with
    | .error e => (.error e, st)
    | .ok a =>
      (.ok (some a), { st.addArtifact a with
        seen := st.seen ++ [entity.name]
        journal := st.journal ++ [configuredNote entity parts] })

/-- One step of a run: the artifact of a candidate, if it gets one, and the state afterwards. -/
def process (g : Generator) (lines : Value) (c : Candidate) (st : Run) :
    Except Failure (Option Artifact) × Run :=
  match c.verdict st.seen with
  | .skip reason => (.ok none, st.skip c reason)
  | .accept entity =>
    let space := g.namespaceFor c
    match if st.baseGenerated then (none, st) else makeBase g lines space st with
    | (some e, st) => (.error e, st)
    | (none, st) => configure g entity space st

/-- The steps for candidates in order, up to the first that fails. -/
def processAll (g : Generator) (lines : Value) : List Candidate → Run → Option Failure × Run
  | [], st => (none, st)
  | c :: r, st =>
    match process g lines c st with
    | (.error e, st) => (some e, st)
    | (.ok _, st) => processAll g lines r st

/-- The note at the end of a run. -/
def finishedNote (st : Run) : Note :=
  ⟨.info, .runs,
    "Generated " ++ toString st.artifacts.length ++ " artifact(s) for "
      ++ toString st.entityCount ++ " entit" ++ endingFor st.entityCount⟩

/-- A whole run: it forgets earlier results, and gives the artifacts under their names. -/
def run (g : Generator) (lines : Value) (cs : List Candidate) (st : Run) :
    Except Failure (List (Key × Artifact)) × Run :=
  match processAll g lines cs { journal := st.journal } with
  | (some e, st) => (.error e, st)
  | (none, st) =>
    (.ok st.artifacts, { st with journal := st.journal ++ [finishedNote st] })

end Run

end EntityMapping
