import EntityMapping.Text.Blank
import EntityMapping.Text.Pieces

/-!
# Tidy text

Generated text is tidied: no line ends in blanks, blank lines do not stand next to each other, line
ends at the start and end of the text are dropped, and one line end closes the text.
-/

namespace EntityMapping.Text

/-- Removes the line ends at both ends of a text. -/
def stripNewlines (s : List Char) : List Char :=
  ((s.dropWhile (· = '\n')).reverse.dropWhile (· = '\n')).reverse

/-- Keeps of neighbouring empty lines the first; `blank` says whether the line before was empty. -/
def collapse (blank : Bool) : List (List Char) → List (List Char)
  | [] => []
  | l :: r =>
    if l = [] then (if blank then collapse true r else [] :: collapse true r)
    else l :: collapse false r

/-- The tidied text. -/
def tidy (s : List Char) : List Char :=
  joined ['\n'] (collapse false ((cut '\n' (stripNewlines s)).map trimEnd)) ++ ['\n']

/-- The tidied form of a string. -/
def tidied (s : String) : String := String.ofList (tidy s.toList)

end EntityMapping.Text
