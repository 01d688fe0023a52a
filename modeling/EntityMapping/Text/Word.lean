import EntityMapping.Text.Word.Table

/-!
# Words and identifiers

A word character is alphanumeric or the underscore.  An identifier begins with a character that may
start one and goes on with characters that may continue one; keywords are identifiers, the empty
text is none.
-/

namespace EntityMapping.Text

open Word

/-- Whether a character may start an identifier. -/
def isIdentStart (c : Char) : Bool := inRuns startRuns c

/-- Whether a character may stand inside an identifier. -/
def isIdentContinue (c : Char) : Bool := isIdentStart c || inRuns continueOnlyRuns c

/-- Whether a character is alphanumeric or the underscore. -/
def isWordChar (c : Char) : Bool :=
  inRuns numericRuns c || (isIdentStart c && !inRuns startNotWordRuns c)

/-- Whether a text is an identifier. -/
def isIdentifier (s : String) : Bool :=
  match s.toList with
  | [] => false
  | c :: r => isIdentStart c && r.all isIdentContinue

end EntityMapping.Text
