import EntityMapping.CommandLine.Trace

/-!
# Printing to a console

What a command prints, as plain lines.  The marks for colours and styles are left out.
-/

namespace EntityMapping.CommandLine

/-- The styles that texts are marked with. -/
def styles : List String := ["red", "yellow", "cyan", "dim", "bold"]

/-- The marks that stand before and after a text in some style. -/
def styleMarks : List (List Char) :=
  styles.flatMap fun s => [("[" ++ s ++ "]").toList, ("[/" ++ s ++ "]").toList]

/-- A text without marks of styles; `skip` is how many characters of a mark are still to pass. -/
def withoutMarks : Nat → List Char → List Char
  | _, [] => []
  | skip + 1, _ :: r => withoutMarks skip r
  | 0, c :: r =>
    match styleMarks.find? fun m => m.isPrefixOf (c :: r) with
    | some m => withoutMarks (m.length - 1) r
    | none => c :: withoutMarks 0 r

/-- A text as the console shows it. -/
def plainText (s : String) : String := String.ofList (withoutMarks 0 s.toList)

/-- The lines of something that is printed. -/
def Printed.lines : Printed → List String
  | .line s => [plainText s]
  | .table title columns rows =>
    title :: (columns :: rows).map fun row => "  " ++ plainText (String.intercalate "  " row)
  | .panel title _ body => [title, plainText body]

end EntityMapping.CommandLine
