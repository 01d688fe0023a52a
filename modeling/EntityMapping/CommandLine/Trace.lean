import EntityMapping.Journal.Outlet

/-!
# Traces

What a command prints and does to the files while it works.  A step of a command goes on from the
trace of the steps before it, and what it did stays when it fails.  Notes reach the files as soon as
they are taken, so a step that reads the file for them finds those of the steps before.
-/

namespace EntityMapping.CommandLine

/-- Something that a command prints.  Markup in square brackets is part of the texts. -/
inductive Printed where
  /-- A line. -/
  | line (text : String)
  /-- A table with its heading, the headings of its columns, and its rows. -/
  | table (title : String) (columns : List String) (rows : List (List String))
  /-- A framed text with its heading and the colour of its frame. -/
  | panel (title border body : String)
deriving DecidableEq, Repr

/-- What was printed, and the files. -/
structure Trace where
  /-- What was printed, in order. -/
  printed : List Printed := []
  /-- The files as they are now. -/
  files : FileSystem
  /-- The open journal. -/
  outlet : Outlet

namespace Trace

/-- Prints several things. -/
def print (t : Trace) (ps : List Printed) : Trace := { t with printed := t.printed ++ ps }

/-- Takes notes. -/
def take (t : Trace) (notes : List Note) : Trace :=
  { t with files := notes.foldl t.outlet.take t.files }

end Trace

/-- A step of a command. -/
abbrev Step := ExceptT Failure (StateM Trace)

namespace Step

/-- Prints several things. -/
def printAll (ps : List Printed) : Step Unit := modify fun t => t.print ps

/-- Prints something. -/
def print (p : Printed) : Step Unit := printAll [p]

/-- Takes notes. -/
def noting (notes : List Note) : Step Unit := modify fun t => t.take notes

/-- The step with a given outcome, which adds nothing. -/
def ofExcept {α : Type} : Except Failure α → Step α
  | .ok a => pure a
  | .error e => throw e

/-- The step whose outcome depends on the files. -/
def reading {α : Type} (f : FileSystem → Except Failure α) : Step α := do
  ofExcept (f (← get).files)

/-- The step whose outcome and notes depend on the files. -/
def noted {α : Type} (f : FileSystem → Except Failure α × List Note) : Step α := do
  let (outcome, notes) := f (← get).files
  noting notes
  ofExcept outcome

/-- The step that changes the files. -/
def changing (f : FileSystem → FileSystem × Except Failure Unit) : Step Unit := do
  let t ← get
  let (files, outcome) := f t.files
  set { t with files }
  ofExcept outcome

end Step

end EntityMapping.CommandLine
