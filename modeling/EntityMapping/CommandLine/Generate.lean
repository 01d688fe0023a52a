import EntityMapping.CommandLine.Command
import EntityMapping.CommandLine.Trace
import EntityMapping.Generation.Result
import EntityMapping.Manifest.Candidates
import EntityMapping.Registry.Request
import EntityMapping.Resource.Document
import EntityMapping.Resource.Lines
import EntityMapping.Resource.Neighbour
import EntityMapping.Settings.Check

/-!
# Generating from a manifest

The command that generates reads the settings, the manifest and the list of audit fields, and then
shows the artifacts or writes them into a folder.  Up to then only notes change a file; after that
`writeArtifacts` and the folder made for it do.  A list of audit fields that cannot be loaded counts
as absent.
-/

namespace EntityMapping.CommandLine

/-- What generation gave, and where it belongs. -/
structure Generated where
  /-- The settings. -/
  settings : Settings
  /-- The artifacts in order. -/
  artifacts : List Artifact
  /-- The diagnostics. -/
  warnings : List String
  /-- Facts about the run. -/
  facts : RunFacts

namespace GenerateRequest

/-- The settings that the options override; an option that counts as false overrides none. -/
def overrides (r : GenerateRequest) : Fields :=
  (if r.namespaceName.truthy then [(.text "namespace", r.namespaceName)] else [])
    ++ (if r.noComments then [(.text "add_comments", .bool false)] else [])
    ++ (if r.outputDir.truthy then [(.text "output_dir", r.outputDir)] else [])

/-- The target that is asked for. -/
def targetName (r : GenerateRequest) : Except Failure String := do
  let name ← liftM (Registry.nameOf r.target)
  (Registry.bundled.resolve name).mapError .registry

/-- The settings for a target; a value of the wrong kind is a failure of the command. -/
def settings (r : GenerateRequest) (fs : FileSystem) (target : String) : Except Failure Settings :=
  match loadSettings fs
      { target := .text target, overrides := .object r.overrides, file := .value r.config } with
  | .ok s => .ok s
  | .error (.fault e) => .error (if e.cls = .kind then .command (.badSettings e) else .fault e)
  | .error e => .error e

/-- The list of audit fields, if there is one, before its failures are forgiven. -/
def auditSource (r : GenerateRequest) (fs : FileSystem) (ask : String → Reply) (s : Settings) :
    Except Failure (Option (List String)) × List Note :=
  if r.auditFieldsUrl.truthy then loadLines fs ask (.address r.auditFieldsUrl)
  else if r.auditFields.truthy then loadLines fs ask (.file r.auditFields)
  else
    let manifest := Path.ofText r.manifest
    match fs.findFile manifest.parent s.auditFieldsFile with
    | .error e => (.error e, [])
    | .ok (some p) => loadFileLines fs p
    | .ok none =>
      (.ok none, [⟨.info, .commands,
        "No " ++ s.auditFieldsFile.display ++ " found next to " ++ manifest.text⟩])

/-- The list of audit fields; one that cannot be loaded counts as absent. -/
def auditLines (r : GenerateRequest) (fs : FileSystem) (ask : String → Reply) (s : Settings) :
    Except Failure (Option (List String)) × List Note :=
  match r.auditSource fs ask s with
  | (.error (.resource e), notes) =>
    (.ok none, notes ++ [⟨.warning, .commands, "Audit field list unavailable: " ++ e.message⟩])
  | other => other

end GenerateRequest

/-- The lines of a list as a value; no list is null. -/
def linesValue (lines : Option (List String)) : Value :=
  match lines with
  | some ls => .list (ls.map .text)
  | none => .null

/-- Reads everything and generates the artifacts. -/
def gather (ask : String → Reply) (r : GenerateRequest) : Step Generated := do
  let target ← Step.ofExcept r.targetName
  let settings ← Step.reading fun fs => r.settings fs target
  let warnings ← Step.ofExcept (liftM settings.check)
  for w in warnings do
    Step.print (.line ("[yellow]⚠️ " ++ w ++ "[/yellow]"))
  let g ← Step.reading fun fs => Registry.bundled.createGenerator fs target (.settings settings)
  let builder ← Step.ofExcept
    (liftM (settings.customAt "builder_type" Manifest.defaultBuilderType))
  Step.noted fun fs => findDocument fs (.ofText r.manifest)
  let manifest ← Step.noted fun fs => parseDocument fs (.ofText r.manifest)
  let candidates ← Step.noted fun _ => Manifest.loadCandidates manifest builder
  let lines ← Step.noted fun fs => r.auditLines fs ask settings
  let (result, notes) := generate g candidates (linesValue lines)
  Step.noting notes
  match result with
  | .failed cause => throw (.command (.runFailed (runFailedMessage cause)))
  | .success artifacts warnings facts =>
    return { settings, artifacts := artifacts.map (·.2), warnings, facts }

/-- The folder for the artifacts. -/
def GenerateRequest.folder (r : GenerateRequest) (s : Settings) : Except Fault Path :=
  ((r.outputDir.orElse s.outputDir).orElse (.text "generated")).toPath

/-- Makes the folder for the artifacts. -/
def makeFolder (folder : Path) (fs : FileSystem) : FileSystem × Except Failure Unit :=
  match fs.ensureFolder folder with
  | (fs, some (.system e p)) => (fs, .error (.command (.noFolder folder (.system e p))))
  | (fs, some e) => (fs, .error (.file e))
  | (fs, none) => (fs, .ok ())

/-- Writes an artifact to a file. -/
def writeArtifact (p : Path) (a : Artifact) (fs : FileSystem) : FileSystem × Except Failure Unit :=
  match fs.writeText p [.ok a.text.toList] with
  | (fs, .error (.file (.system e q))) => (fs, .error (.command (.unwritable p (.system e q))))
  | other => other

/-- The note on a file that was written. -/
def writtenNote (p : Path) : Note := ⟨.debug, .commands, "Wrote " ++ p.text⟩

/-- Writes artifacts into a folder in order; their paths. -/
def writeArtifacts (folder : Path) (extension : Value) : List Artifact → Step (List Path)
  | [] => return []
  | a :: r => do
    let p := folder.child (a.fileName extension)
    Step.changing (writeArtifact p a)
    Step.noting [writtenNote p]
    return p :: (← writeArtifacts folder extension r)

/-- Prints an artifact. -/
def preview (a : Artifact) : Printed :=
  .panel ("📄 " ++ a.name.toValue.display) (match a.role with
    | .sharedBase => "cyan"
    | .entity => "green") a.text

/-- The summary of the files that were written. -/
def summary (g : Generated) (written : List Path) : List Printed :=
  let rows := (g.artifacts.zip written).map fun (a, p) =>
    [a.name.toValue.display, a.role.keyword, p.text]
  let n := g.facts.entityCount
  [.table "✅ Generated Configuration" ["Artifact", "Role", "File"] rows,
    .line ("📊 " ++ toString n ++ " entit" ++ endingFor n ++ ", " ++ toString written.length
      ++ " file(s)")]

/-- The diagnostics, or how many there are. -/
def diagnostics (warnings : List String) (verbose : Bool) : List Printed :=
  if warnings = [] then []
  else if verbose then warnings.map fun w => .line ("[dim]• " ++ w ++ "[/dim]")
  else [.line ("[dim]" ++ toString warnings.length
    ++ " diagnostic(s); use --verbose to show them[/dim]")]

/-- Shows or writes what generation gave. -/
def present (r : GenerateRequest) (g : Generated) : Step Unit := do
  let said := diagnostics g.warnings r.verbose
  if g.artifacts.isEmpty then
    Step.printAll (.line "[yellow]⚠️ No declarations produced configuration[/yellow]" :: said)
  else if r.dryRun then Step.printAll (g.artifacts.map preview ++ said)
  else
    let folder ← Step.ofExcept (liftM (r.folder g.settings))
    Step.changing (makeFolder folder)
    let written ← writeArtifacts folder g.facts.fileExtension g.artifacts
    Step.printAll (summary g written ++ said)

/-- The command that generates. -/
def runGenerate (ask : String → Reply) (r : GenerateRequest) : Step Unit := do
  present r (← gather ask r)

end EntityMapping.CommandLine
