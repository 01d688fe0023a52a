import EntityMapping.Value.Printer

/-!
# Text literals

A text as a regular string literal of C#: quotes around it, and a backslash before each quote and
each backslash in it.
-/

namespace EntityMapping.CSharp

/-- One character of a literal. -/
def literalChar (c : Char) : List Char := if c = '\\' ∨ c = '"' then ['\\', c] else [c]

/-- The literal of a text. -/
def literalChars (s : List Char) : List Char := '"' :: s.flatMap literalChar ++ ['"']

/-- The literal of a text. -/
def literal (s : String) : String := String.ofList (literalChars s.toList)

/-- The literal of the text of a value. -/
def literalOf (v : Value) : String := literal v.display

end EntityMapping.CSharp
