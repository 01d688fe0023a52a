import EntityMapping.Text.Letter
import EntityMapping.Text.Quoted

/-!
# Flaws of templates

Why a template cannot be read.  A flaw names what was found by what stands there, or by its kind if
it has no text of its own, and an open tag by its word and by the tags that it waits for.
-/

namespace EntityMapping.Template

open Text

/-- A tag that was opened: its word, and the words of the tags that may come next for it. -/
structure OpenTag where
  /-- The word of the tag. -/
  word : String
  /-- The words of the tags that continue or end it. -/
  awaited : List String
deriving DecidableEq, Repr

/-- Why a template cannot be read. -/
inductive Flaw where
  /-- A comment does not end. -/
  | endlessComment
  /-- Nothing in an output or tag is written with the character at a position. -/
  | strayChar (c : Char) (position : Nat)
  /-- A bracket closes nothing. -/
  | strayBracket (c : Char)
  /-- A word is no name. -/
  | misspelt
  /-- There is no expression before what was found. -/
  | noExpression (found : String)
  /-- No expression starts with what was found. -/
  | unexpected (found : String)
  /-- Something was found in the place of what is wanted. -/
  | misplaced (wanted found : String)
  /-- The template ends before what is wanted. -/
  | missing (wanted : String)
  /-- A point is followed by something that tells no part. -/
  | noPart
  /-- A tag does not start with a word. -/
  | wordlessTag
  /-- A loop should name its elements by a constant. -/
  | constantAsName
  /-- A tag does not fit where it stands; the open tags are given from the inside out. -/
  | misfit (word : String) (opened : List OpenTag)
  /-- Tags are open at the end; they are given from the inside out. -/
  | unclosed (opened : List OpenTag)
deriving DecidableEq, Repr

/-- What messages call the end of a template. -/
def endLabel : String := "end of template"

/-- What messages say about the open tags, after they told which tag was found, if any. -/
def OpenTag.advice (found : Option String) : List OpenTag → String
  | [] => ""
  | t :: r =>
    let awaited := String.intercalate " or " (t.awaited.map quotedText) ++ "."
    let elsewhere := found.any fun word => (t :: r).any (word ∈ ·.awaited)
    (if elsewhere then
      " You probably made a nesting mistake. Jinja is expecting this tag, " ++
      "but currently looking for "
    else " Jinja was looking for the following tags: ") ++ awaited ++
    " The innermost block that needs to be closed is " ++ quotedText t.word ++ "."

/-- The text of a flaw. -/
def Flaw.message : Flaw → String
  | .endlessComment => "Missing end of comment tag"
  | .strayChar c position =>
    "unexpected char " ++ quotedText (String.ofList (ofChars [c])) ++ " at " ++ toString position
  | .strayBracket c => "unexpected '" ++ c.toString ++ "'"
  | .misspelt => "Invalid character in identifier"
  | .noExpression found => "Expected an expression, got " ++ quotedText found
  | .unexpected found => "unexpected " ++ quotedText found
  | .misplaced wanted found =>
    "expected token " ++ quotedText wanted ++ ", got " ++ quotedText found
  | .missing wanted => "unexpected end of template, expected " ++ quotedText wanted ++ "."
  | .noPart => "expected name or number"
  | .wordlessTag => "tag name expected"
  | .constantAsName => "can't assign to 'const'"
  | .misfit word opened =>
    "Encountered unknown tag " ++ quotedText word ++ "." ++ OpenTag.advice (some word) opened
  | .unclosed opened => "Unexpected end of template." ++ OpenTag.advice none opened

end EntityMapping.Template
