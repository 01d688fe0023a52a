import EntityMapping.CommandLine.Generate

/-!
# The program

The program reads its arguments, opens the journal, carries out the command and reports a failure
that a user can mend.  Everything it does to the outside is in its outcome.  What it needs from the
outside besides files is the answer of an address and the time.
-/

namespace EntityMapping.CommandLine

open Text

/-- How the program ends. -/
inductive Ending where
  /-- It comes to its end with a code. -/
  | finished (code : Nat)
  /-- It is ended with a code while it reads its arguments. -/
  | stopped (code : Nat)
  /-- A failure that nobody expects ends it. -/
  | broken (e : Failure)

/-- Everything that the program does. -/
structure Outcome where
  /-- How it ends. -/
  ending : Ending
  /-- What it prints as it is. -/
  output : String := ""
  /-- What it prints, in order. -/
  printed : List Printed := []
  /-- The files afterwards. -/
  files : FileSystem

/-- The version of the program. -/
def versionText : String := "0.1.0"

/-- The code for wrong arguments. -/
def usageCode : Nat := 2

/-- The row of a target. -/
def targetRow (info : TargetInfo) : List String :=
  ["🔧 " ++ info.name, info.fileExtension.display, info.className,
    if info.aliases = [] then "[dim]none[/dim]" else String.intercalate ", " info.aliases]

/-- The command that lists targets. -/
def runTargets : Step Unit := do
  let registry := Registry.bundled
  let infos ← Step.reading fun fs => registry.targetNames.mapM (registry.describe fs)
  Step.print (.table "📋 Supported Targets" ["Target", "Extension", "Generator Class", "Aliases"]
    (infos.map targetRow))
  Step.print (.panel "💡 Quick Start" "blue"
    ("[bold]Usage:[/bold] auditgen generate [dim]manifest.json[/dim] "
      ++ "--target [cyan]TARGET[/cyan]"))

/-- Carries out a command. -/
def Command.run (ask : String → Reply) : Command → Step Unit
  | .generate r => runGenerate ask r
  | .targets => runTargets

/-- Whether a command says more. -/
def Command.verbose : Command → Bool
  | .generate r => r.verbose
  | .targets => false

/-- The file that the notes of a command are written to. -/
def Command.logFile : Command → Value
  | .generate r => r.logFile
  | .targets => .null

/-- The level from which on the notes of a command are kept. -/
def Command.level (c : Command) : Value := .text (if c.verbose then "DEBUG" else "WARNING")

/-- The ending for the outcome of a command, and the trace with the report of a failure. -/
def report (outcome : Except Failure Unit) (t : Trace) : Ending × Trace :=
  match outcome with
  | .ok () => (.finished 0, t)
  | .error e =>
    if e.isReported then
      (.finished 1, (t.take [⟨.debug, .commands, "Command failed"⟩]).print
        [.line ("[red]✗ Error:[/red] " ++ e.message)])
    else (.broken e, t)

/-- The program with a command. -/
def runCommand (fs : FileSystem) (ask : String → Reply) (time : String) (c : Command) : Outcome :=
  match openJournal fs time c.level c.logFile with
  | (.error e, fs) => { ending := .broken e, files := fs }
  | (.ok outlet, fs) =>
    let (outcome, t) := (c.run ask).run { files := fs, outlet }
    let (ending, t) := report outcome t
    { ending, printed := t.printed, files := t.files }

/-- The program with its arguments.  Without a command it ends with a code of its own. -/
def run (fs : FileSystem) (ask : String → Reply) (time : String) (args : List String) : Outcome :=
  match Command.ofArguments args with
  | .ok (some c) => runCommand fs ask time c
  | .ok none => { ending := .finished 1, files := fs }
  | .error .help => { ending := .stopped 0, files := fs }
  | .error .version =>
    { ending := .stopped 0, output := programName ++ " " ++ versionText ++ "\n", files := fs }
  | .error .usage => { ending := .stopped usageCode, files := fs }

end EntityMapping.CommandLine
