import EntityMapping.Generation.Run

/-!
# The result of a generation

One generation with a fresh run: the artifacts with the diagnostics and some facts about the run, or
the failure that ended it.
-/

namespace EntityMapping

/-- The name of the file of an artifact. -/
def Artifact.fileName (a : Artifact) (extension : Value) : String :=
  a.name.toValue.display ++ extension.display

/-- Facts about a run. -/
structure RunFacts where
  /-- The target. -/
  target : String
  /-- What is put to the name of an artifact to name its file. -/
  fileExtension : Value
  /-- How many candidates there were. -/
  candidateCount : Nat
  /-- How many entities were configured. -/
  entityCount : Nat
  /-- Whether there is a shared base. -/
  baseGenerated : Bool
  /-- Whether there was a list of audit fields. -/
  auditFieldsAvailable : Bool

/-- The facts under their names. -/
def RunFacts.toFields (f : RunFacts) : List (String × Value) := [
  ("target", .text f.target), ("file_extension", f.fileExtension),
  ("candidate_count", .int f.candidateCount), ("entity_count", .int f.entityCount),
  ("base_generated", .bool f.baseGenerated),
  ("audit_fields_available", .bool f.auditFieldsAvailable)]

/-- What a generation gives. -/
inductive GenerationResult where
  /-- The artifacts under their names, the diagnostics, and facts about the run. -/
  | success (artifacts : List (Key × Artifact)) (warnings : List String) (facts : RunFacts)
  /-- The failure that ended the run. -/
  | failed (cause : Failure)

/-- The message on a failed run. -/
def runFailedMessage (cause : Failure) : String :=
  "Configuration generation failed: " ++ cause.message

/-- Whether a value is null. -/
def Value.isNull : Value → Bool
  | .null => true
  | _ => false

/-- Generates the artifacts for candidates with a fresh run; the result and the notes taken. -/
def generate (g : Generator) (cs : List Candidate) (lines : Value) :
    GenerationResult × List Note :=
  match Run.run g lines cs {} with
  | (.ok artifacts, st) =>
    (.success artifacts st.diagnostics
      { target := g.target.targetName
        fileExtension := g.fileExtension
        candidateCount := cs.length
        entityCount := st.entityCount
        baseGenerated := st.baseGenerated
        auditFieldsAvailable := !lines.isNull }, st.journal)
  | (.error e, st) =>
    (.failed e, st.journal ++ [⟨.error, .results, runFailedMessage e⟩])

end EntityMapping
