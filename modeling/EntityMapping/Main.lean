import EntityMapping.CommandLine.Console
import EntityMapping.CommandLine.Program
import Std.Time.Format

/-!
# The command

The outer layer of the program: it looks at the files that a command may read, lets the program work
out everything, and then makes the changes and prints.  There is no network behind it.
-/

namespace EntityMapping.CommandLine

/-- The text that a string of characters is. -/
def ownText (s : String) : String := String.ofList (Text.ofChars s.toList)

/-- The characters of a text; half of a pair is replaced. -/
def plainString (s : String) : String :=
  String.ofList ((Text.letters s.toList).map fun
    | .char c => c
    | .half _ => '\ufffd')

/-- What is at a path. -/
def observeNode (p : Path) : IO (Option Node) := do
  let file := (← IO.currentDir) / plainString p.text
  try
    if ← file.isDir then return some .folder
    else return some (.file (← IO.FS.readBinFile file).toList)
  catch _ => return none

/-- The location that a path names. -/
def namedLocation (here : Location) (p : Path) : Location :=
  withoutUps (if p.isAbsolute then p.parts else here ++ p.parts)

/-- The file system with what is on the way to a path and at its end. -/
def observe (fs : FileSystem) (p : Path) : IO FileSystem := do
  let mut fs := fs
  for n in List.range p.parts.length do
    let q := { p with parts := p.parts.take (n + 1) }
    match ← observeNode q with
    | some node => fs := fs.place (namedLocation fs.here q) node
    | none => return fs
  return fs

/-- The file system with what is in a folder, down to a depth. -/
def observeFolder (p : Path) : Nat → FileSystem → IO FileSystem
  | 0, fs => return fs
  | depth + 1, fs => do
    let mut fs ← observe fs p
    if (← observeNode p) = some .folder then
      for entry in ← ((← IO.currentDir) / plainString p.text).readDir do
        let q := p.child (ownText entry.fileName)
        fs ← observe fs q
        fs ← observeFolder q depth fs
    return fs

/-- How deep a folder of templates is searched. -/
def templateDepth : Nat := 64

/-- The path that a setting names, if it names one. -/
def settingPath (v : Value) : Option Path :=
  match v with
  | .text s => if s = "" then none else some (.ofText s)
  | _ => none

/-- The file system as far as a request may need it. -/
def observeFor (r : GenerateRequest) (fs : FileSystem) : IO FileSystem := do
  let mut fs := fs
  for v in [r.config, r.auditFields] do
    if let some p := settingPath v then fs ← observe fs p
  match r.logFile with
  | .null => pure ()
  | v => fs ← observe fs (outletPath fs.here v.display)
  fs ← observe fs (.ofText r.manifest)
  fs ← observeFolder (Path.ofText r.manifest).parent 1 fs
  match r.targetName with
  | .error _ => return fs
  | .ok target =>
    match r.settings fs target with
    | .error _ => return fs
    | .ok s =>
      if let some p := settingPath s.templateDir then fs ← observeFolder p templateDepth fs
      if let .ok p := r.folder s then fs ← observeFolder p 1 fs
      return fs

/-- Makes the changes from one file system to another. -/
def applyChanges (before after : FileSystem) : IO Unit := do
  let root := (← IO.currentDir) / "/"
  for (l, node) in after.nodes do
    if before.at? l ≠ some node then
      let file := root / plainString (String.intercalate "/" l)
      match node with
      | .folder => IO.FS.createDirAll file
      | .file content => IO.FS.writeBinFile file ⟨content.toArray⟩

/-- The time as it stands before a note. -/
def timeText : IO String := do
  return (← Std.Time.PlainDateTime.now).format "uuuu-MM-dd HH:mm:ss,SSS"

/-- The short description of how to use the program. -/
def usageText : String :=
  "usage: auditgen [-h] [--version] generate MANIFEST [OPTIONS]\n"
    ++ "       auditgen targets"

/-- Runs the program. -/
def execute (args : List String) : IO UInt32 := do
  let here := (Path.ofText (ownText (← IO.currentDir).toString)).parts
  let args := args.map ownText
  let command := Command.ofArguments args
  let fs ← match command with
    | .ok (some (.generate r)) => observeFor r (FileSystem.empty here)
    | _ => pure (FileSystem.empty here)
  let outcome := run fs (fun _ => .notConnected "no network") (← timeText) args
  applyChanges fs outcome.files
  IO.print outcome.output
  for p in outcome.printed do
    for line in p.lines do
      IO.println (plainString line)
  match outcome.ending with
  | .finished code =>
    if let .ok none := command then IO.println usageText
    return code.toUInt32
  | .stopped code =>
    if outcome.output = "" then
      if code = 0 then IO.println usageText else IO.eprintln usageText
    return code.toUInt32
  | .broken e =>
    IO.eprintln (plainString e.message)
    return 1

end EntityMapping.CommandLine

/-- Runs the program with the arguments of the command line. -/
def main (args : List String) : IO UInt32 := EntityMapping.CommandLine.execute args
