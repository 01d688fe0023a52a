import EntityMapping.Text.LetterCase.Table

/-!
# Letter case

Whether a character is an upper-case letter, and the lower case of a character and of a text.  The
lower case of one character may be two characters.  In a text the letter sigma has a final form,
which is taken at the end of a word; one character alone is not the end of a word.
-/

namespace EntityMapping.Text

open LetterCase

/-- Whether a character has the property Uppercase. -/
def isUpper (c : Char) : Bool := inRuns upperRuns c

/-- The lower case of one character. -/
def lowerChar (c : Char) : List Char :=
  if c = 'İ' then ['i', '\u0307']
  else
    match lowerShifts.find? (·.run.covers c.toNat) with
    | some s => [Char.ofNat (c.toNat + s.offset).toNat]
    | none => [c]

/-- Whether the nearest character that is no mark is a letter with case. -/
def meetsCased (s : List Char) : Bool :=
  ((s.dropWhile (inRuns ignorableRuns)).head?).any (inRuns casedRuns)

/-- The lower case of a text; the first argument is what stands before it, read backwards. -/
def lowerAfter : List Char → List Char → List Char
  | _, [] => []
  | before, c :: r =>
    (if c = 'Σ' then [if meetsCased before && !meetsCased r then 'ς' else 'σ'] else lowerChar c)
      ++ lowerAfter (c :: before) r

/-- The lower case of a text. -/
def lowered (s : String) : String := String.ofList (lowerAfter [] s.toList)

end EntityMapping.Text
