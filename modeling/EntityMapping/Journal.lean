import EntityMapping.Value.Basic

/-!
# The journal

What the parts of the program note while they work.  A part notes under a name of its own inside the
program's hierarchy of names; a note has a level of severity, and only notes from a chosen level on
are kept.
-/

namespace EntityMapping

/-- The severity of a note. -/
inductive Level where
  /-- For those who look for a mistake. -/
  | debug
  /-- What happens normally. -/
  | info
  /-- What may be a mistake. -/
  | warning
  /-- What keeps a part from its result. -/
  | error
deriving DecidableEq, Repr

namespace Level

/-- The number of a level. -/
def number : Level → Int
  | .debug => 10
  | .info => 20
  | .warning => 30
  | .error => 40

/-- The name of a level. -/
def name : Level → String
  | .debug => "DEBUG"
  | .info => "INFO"
  | .warning => "WARNING"
  | .error => "ERROR"

end Level

/-- A part of the program that takes notes. -/
inductive Part where
  /-- Loading inputs. -/
  | resources
  /-- Reading manifests. -/
  | manifests
  /-- The commands. -/
  | commands
  /-- The list of audit fields. -/
  | auditFields
  /-- Sorting properties. -/
  | classification
  /-- Generation runs. -/
  | runs
  /-- The result of a generation run. -/
  | results
deriving DecidableEq, Repr

/-- The name of the program, under which all notes are taken. -/
def programName : String := "auditgen"

/-- The name under which a part takes notes. -/
def Part.logger : Part → String
  | .resources => "auditgen.utils"
  | .manifests => "auditgen.discovery"
  | .commands => "auditgen.cli"
  | .auditFields => "auditgen.codegen.core.audit_base"
  | .classification => "auditgen.codegen.core.classifier"
  | .runs => "auditgen.codegen.core.coordinator"
  | .results => "auditgen.codegen.core.generator"

/-- A note. -/
structure Note where
  /-- Its severity. -/
  level : Level
  /-- Who took it. -/
  part : Part
  /-- What it says. -/
  message : String
deriving DecidableEq, Repr

/-- The name under which notes for `name` are taken: inside the hierarchy of the program. -/
def loggerName (name : Option String) : String :=
  match name with
  | none => programName
  | some s =>
    if s = "" then programName
    else if s = programName ∨ (programName ++ ".").toList.isPrefixOf s.toList then s
    else programName ++ "." ++ s

end EntityMapping
