import EntityMapping.Assoc
import EntityMapping.Text.Digit

/-!
# Options

An option has spellings: a long one, `--name`, and possibly a short one, `-n`.  A long spelling may
be shortened as long as it stays the beginning of only one spelling.  A value is attached to a long
spelling after `=`, and to a short one directly; short options without values may be put together
behind one hyphen.
-/

namespace EntityMapping.CommandLine

open Text

/-- The options of all commands. -/
inductive OptionName where
  /-- Asks how to use the program. -/
  | help
  /-- Asks for the version of the program. -/
  | version
  /-- The target. -/
  | target
  /-- The folder for generated files. -/
  | outputDir
  /-- The settings file. -/
  | config
  /-- The namespace of everything generated. -/
  | namespaceName
  /-- The file with the list of audit fields. -/
  | auditFields
  /-- The address of the list of audit fields. -/
  | auditFieldsUrl
  /-- No comment at the start of generated text. -/
  | noComments
  /-- Shows the artifacts instead of writing them. -/
  | dryRun
  /-- Says more. -/
  | verbose
  /-- The file that notes are written to. -/
  | logFile
deriving DecidableEq, Repr

/-- An option as a command knows it. -/
structure OptionForm where
  /-- The option. -/
  name : OptionName
  /-- Its spellings. -/
  spellings : List String
  /-- Whether it takes a value. -/
  takesValue : Bool := false
deriving DecidableEq, Repr

/-- The options of the program itself. -/
def programForms : List OptionForm :=
  [{ name := .help, spellings := ["-h", "--help"] },
    { name := .version, spellings := ["--version"] }]

/-- The options of the command that lists targets. -/
def targetsForms : List OptionForm := [{ name := .help, spellings := ["-h", "--help"] }]

/-- The options of the command that generates. -/
def generateForms : List OptionForm := [
  { name := .help, spellings := ["-h", "--help"] },
  { name := .target, spellings := ["--target", "-t"], takesValue := true },
  { name := .outputDir, spellings := ["--output-dir", "-o"], takesValue := true },
  { name := .config, spellings := ["--config"], takesValue := true },
  { name := .namespaceName, spellings := ["--namespace"], takesValue := true },
  { name := .auditFields, spellings := ["--audit-fields"], takesValue := true },
  { name := .auditFieldsUrl, spellings := ["--audit-fields-url"], takesValue := true },
  { name := .noComments, spellings := ["--no-comments"] },
  { name := .dryRun, spellings := ["--dry-run"] },
  { name := .verbose, spellings := ["--verbose", "-v"] },
  { name := .logFile, spellings := ["--log-file"], takesValue := true }]

/-- What an argument is taken for. -/
inductive Reading where
  /-- No option. -/
  | plain
  /-- An option, whether it is spelled shortly, and what is attached to it. -/
  | option (form : OptionForm) (short : Bool) (attached : Option (List Char))
  /-- An option that the command does not know. -/
  | unknown
deriving DecidableEq, Repr

/-- The spellings of options, each with its option. -/
def spelled (forms : List OptionForm) : List (List Char × OptionForm) :=
  forms.flatMap fun f => f.spellings.map fun s => (s.toList, f)

/-- The option with a spelling. -/
def formOf? (forms : List OptionForm) (spelling : List Char) : Option OptionForm :=
  Assoc.get? spelling (spelled forms)

/-- An argument cut at its first `=`; there is a value only after one. -/
def cutValue (arg : List Char) : List Char × Option (List Char) :=
  match arg.dropWhile (· ≠ '=') with
  | [] => (arg, none)
  | _ :: value => (arg.takeWhile (· ≠ '='), some value)

/-- Whether an argument is a number below zero; a line end may follow it. -/
def isNegativeNumber : List Char → Bool
  | '-' :: r =>
    let s := if r.getLast? = some '\n' then r.dropLast else r
    match s.dropWhile isDecimalDigit with
    | [] => s ≠ []
    | '.' :: fraction => fraction ≠ [] && fraction.all isDecimalDigit
    | _ => false
  | _ => false

/-- The options that an argument which is no complete spelling may stand for: those whose spelling
it begins, or the short option that it begins with. -/
def meanings (forms : List OptionForm) : List Char → List Reading
  | '-' :: '-' :: r =>
    let (start, value) := cutValue ('-' :: '-' :: r)
    ((spelled forms).filter fun f => start.isPrefixOf f.1).map fun f => .option f.2 false value
  | '-' :: c :: r => (formOf? forms ['-', c]).toList.map fun f => .option f true (some r)
  | _ => []

/-- What an argument is taken for; nothing if it may stand for several options. -/
def Reading.of? (forms : List OptionForm) (arg : List Char) : Option Reading :=
  match arg with
  | '-' :: c :: _ =>
    match formOf? forms arg, formOf? forms (cutValue arg).1 with
    | some f, _ => some (.option f (c ≠ '-') none)
    | none, some f => some (.option f (c ≠ '-') (cutValue arg).2)
    | none, none =>
      match meanings forms arg with
      | [reading] => some reading
      | [] => some (if isNegativeNumber arg ∨ ' ' ∈ arg then .plain else .unknown)
      | _ => none
  | _ => some .plain

/-- An argument in its place among others. -/
inductive Token where
  /-- No option. -/
  | plain (s : List Char)
  /-- The mark after which nothing is an option. -/
  | marker
  /-- Options without values. -/
  | flags (names : List OptionName)
  /-- Options without values, and one that takes a value, which may be attached. -/
  | setting (before : List OptionName) (name : OptionName) (value : Option (List Char))
  /-- An option with an attached value that it does not take. -/
  | misused
  /-- An option that the command does not know. -/
  | unknown
deriving DecidableEq, Repr

/-- The token of short options put together, after the options `before`. -/
def cluster (forms : List OptionForm) (before : List OptionName) : List Char → Token
  | [] => .flags before
  | c :: r =>
    match formOf? forms ['-', c] with
    | none => .misused
    | some f =>
      if f.takesValue then .setting before f.name (if r = [] then none else some r)
      else cluster forms (before ++ [f.name]) r

/-- The token of a reading. -/
def Reading.token (forms : List OptionForm) (arg : List Char) : Reading → Token
  | .plain => .plain arg
  | .unknown => .unknown
  | .option f short attached =>
    if f.takesValue then .setting [] f.name attached
    else
      match attached with
      | none => .flags [f.name]
      | some (c :: r) => if short then cluster forms [f.name] (c :: r) else .misused
      | some [] => .misused

/-- The mark after which nothing is an option. -/
def markerText : List Char := ['-', '-']

/-- The tokens of arguments; nothing if one of them may stand for several options. -/
def tokens? (forms : List OptionForm) : List (List Char) → Option (List Token)
  | [] => some []
  | arg :: r =>
    if arg = markerText then some (.marker :: r.map .plain)
    else
      match Reading.of? forms arg with
      | none => none
      | some reading => (tokens? forms r).map (reading.token forms arg :: ·)

end EntityMapping.CommandLine
