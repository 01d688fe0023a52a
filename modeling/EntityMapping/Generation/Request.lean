import EntityMapping.Generation.Result
import EntityMapping.Manifest.Candidates
import EntityMapping.Registry

/-!
# Generating in one call

A target is named, settings are given, and the candidates are given as they are or by a manifest.  A
failure before the run is a failure of the call; a failure in the run is part of its result.
-/

namespace EntityMapping.Registry

/-- Generates for candidates; the result and the notes taken. -/
def generateCandidates (r : Registry) (fs : FileSystem) (target : String) (source : SettingsSource)
    (cs : List Candidate) (lines : Value) : Except Failure GenerationResult × List Note :=
  match r.createGenerator fs target source with
  | .error e => (.error e, [])
  | .ok g =>
    let (result, notes) := generate g cs lines
    (.ok result, notes)

/-- Generates for the candidates of a manifest; the result and the notes taken. -/
def generateManifest (r : Registry) (fs : FileSystem) (target : String) (source : SettingsSource)
    (manifest lines : Value) : Except Failure GenerationResult × List Note :=
  match r.createGenerator fs target source with
  | .error e => (.error e, [])
  | .ok g =>
    match g.settings.customAt "builder_type" Manifest.defaultBuilderType with
    | .error e => (.error (.fault e), [])
    | .ok builder =>
      match Manifest.loadCandidates manifest builder with
      | (.error e, notes) => (.error e, notes)
      | (.ok cs, notes) =>
        let (result, more) := generate g cs lines
        (.ok result, notes ++ more)

end EntityMapping.Registry
