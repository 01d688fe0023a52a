import EntityMapping.Assoc
import EntityMapping.CommandLine.Option
import EntityMapping.Value.Basic

/-!
# Commands

The commands of the program and how arguments name them.  The first argument that is no option names
the command, and what follows belongs to it.  The list of audit fields cannot be named twice, by a
file and by an address.  The values of options are texts; where the mark `--` is attached as the
value of an option, the value is the empty list.
-/

namespace EntityMapping.CommandLine

/-- What the command that generates is asked for.  The value of an option that is not given is
null. -/
structure GenerateRequest where
  /-- The manifest file. -/
  manifest : String
  /-- The target. -/
  target : Value := .text "csharp"
  /-- The folder for generated files. -/
  outputDir : Value := .null
  /-- The settings file. -/
  config : Value := .null
  /-- The namespace of everything generated. -/
  namespaceName : Value := .null
  /-- The file with the list of audit fields. -/
  auditFields : Value := .null
  /-- The address of the list of audit fields. -/
  auditFieldsUrl : Value := .null
  /-- No comment at the start of generated text. -/
  noComments : Bool := false
  /-- Shows the artifacts instead of writing them. -/
  dryRun : Bool := false
  /-- Says more. -/
  verbose : Bool := false
  /-- The file that notes are written to. -/
  logFile : Value := .null

/-- A command. -/
inductive Command where
  /-- Generates artifacts from a manifest. -/
  | generate (r : GenerateRequest)
  /-- Lists the targets. -/
  | targets

/-- Why arguments name no command. -/
inductive Stop where
  /-- They ask how to use the program. -/
  | help
  /-- They ask for the version of the program. -/
  | version
  /-- They are wrong. -/
  | usage
deriving DecidableEq, Repr

/-- What arguments have said so far. -/
structure Scan where
  /-- Whether an argument that is no option is still wanted. -/
  room : Bool
  /-- The argument that is no option. -/
  input : Option String := none
  /-- The options with their values. -/
  given : List (OptionName × Value) := []
  /-- Whether there was an argument that nobody wants. -/
  surplus : Bool := false

namespace Scan

/-- Adds an option with its value. -/
def give (st : Scan) (name : OptionName) (value : Value) : Scan :=
  { st with given := Assoc.set name value st.given }

/-- Adds an argument that is no option. -/
def take (st : Scan) (s : List Char) : Scan :=
  if st.room then { st with room := false, input := some (String.ofList s) }
  else { st with surplus := true }

/-- Adds an option without a value. -/
def flag (st : Scan) : OptionName → Except Stop Scan
  | .help => .error .help
  | .version => .error .version
  | name => .ok (st.give name (.bool true))

/-- The value that a text gives to an option. -/
def optionValue (s : List Char) : Value :=
  if s = markerText then .list [] else .text (String.ofList s)

/-- Adds an option with its value. -/
def setting (st : Scan) (name : OptionName) (value : List Char) : Except Stop Scan :=
  let st := st.give name (optionValue value)
  if Assoc.has .auditFields st.given ∧ Assoc.has .auditFieldsUrl st.given then .error .usage
  else .ok st

/-- The value of an option, or null. -/
def value (st : Scan) (name : OptionName) : Value := (Assoc.get? name st.given).getD .null

/-- Adds tokens in order, up to the first that ends the reading.  The mark belongs to the argument
next to it, if that one is wanted. -/
def add : List Token → Scan → Except Stop Scan
  | [], st => .ok st
  | .plain s :: .marker :: r, st => add r (st.take s)
  | .plain s :: r, st => add r (st.take s)
  | .marker :: .plain s :: r, st => add r (st.take s)
  | .marker :: r, st => add r { st with surplus := true }
  | .unknown :: r, st => add r { st with surplus := true }
  | .misused :: _, _ => .error .usage
  | .flags names :: r, st => do
    let st ← names.foldlM flag st
    add r st
  | .setting before name (some value) :: r, st => do
    let st ← before.foldlM flag st
    let st ← st.setting name value
    add r st
  | .setting before name none :: .plain value :: r, st => do
    let st ← before.foldlM flag st
    let st ← st.setting name value
    add r st
  | .setting .. :: _, _ => .error .usage

/-- What the arguments of a command say; all of them have to be wanted. -/
def ofArguments (forms : List OptionForm) (room : Bool) (args : List (List Char)) :
    Except Stop Scan :=
  match tokens? forms args with
  | none => .error .usage
  | some ts =>
    match add ts { room } with
    | .error e => .error e
    | .ok st => if st.surplus then .error .usage else .ok st

/-- What the command that generates is asked for; it needs a manifest. -/
def request (st : Scan) : Except Stop GenerateRequest :=
  match st.input with
  | none => .error .usage
  | some manifest => .ok {
      manifest
      target := (Assoc.get? .target st.given).getD (.text "csharp")
      outputDir := st.value .outputDir
      config := st.value .config
      namespaceName := st.value .namespaceName
      auditFields := st.value .auditFields
      auditFieldsUrl := st.value .auditFieldsUrl
      noComments := Assoc.has .noComments st.given
      dryRun := Assoc.has .dryRun st.given
      verbose := Assoc.has .verbose st.given
      logFile := st.value .logFile }

end Scan

namespace Command

/-- The command with a name and its arguments. -/
def named (name : List Char) (args : List (List Char)) : Except Stop Command :=
  if name = "generate".toList then do
    let st ← Scan.ofArguments generateForms true args
    return .generate (← st.request)
  else if name = "targets".toList then do
    let _ ← Scan.ofArguments targetsForms false args
    return .targets
  else .error .usage

/-- The command that tokens name, where `args` are the arguments of the tokens; `surplus` says
whether there was an argument before that nobody wants. -/
def ofTokens (surplus : Bool) : List Token → List (List Char) → Except Stop (Option Command)
  | .plain s :: _, _ :: args =>
    match named s args with
    | .error e => .error e
    | .ok c => if surplus then .error .usage else .ok (some c)
  | .unknown :: r, _ :: args => ofTokens true r args
  | .flags names :: r, _ :: args =>
    match names.foldlM Scan.flag { room := false } with
    | .error e => .error e
    | .ok _ => ofTokens surplus r args
  | _ :: _, _ => .error .usage
  | [], _ => if surplus then .error .usage else .ok none

/-- The command that arguments name, if they name one. -/
def ofArguments (args : List String) : Except Stop (Option Command) :=
  let args := args.map String.toList
  match tokens? programForms args with
  | none => .error .usage
  | some ts => ofTokens false ts args

end Command

end EntityMapping.CommandLine
