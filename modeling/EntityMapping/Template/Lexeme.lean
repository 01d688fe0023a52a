import EntityMapping.Template.Flaw
import EntityMapping.Text.Blank
import EntityMapping.Text.Digit
import EntityMapping.Text.Word

/-!
# Lexemes of templates

The words, numbers and signs inside the outputs and tags of a template.  What is no lexeme stands
among them as a flaw, since a template is read in order: it is told only if nothing before it is
wrong.
-/

namespace EntityMapping.Template

open Text

/-- What stands in a template besides text. -/
inductive Inset where
  /-- An output. -/
  | output
  /-- A tag. -/
  | tag
  /-- A comment. -/
  | comment
deriving DecidableEq, Repr

/-- What messages call the end of an inset. -/
def Inset.endLabel : Inset → String
  | .output => "end of print statement"
  | .tag => "end of statement block"
  | .comment => "end of comment"

/-- A part of the inside of an output or tag. -/
inductive Lexeme where
  /-- A word. -/
  | word (s : String)
  /-- A whole number. -/
  | number (n : Nat)
  /-- A sign. -/
  | sign (c : Char)
  /-- The end of an inset. -/
  | close (kind : Inset)
  /-- Something that is no lexeme. -/
  | flaw (f : Flaw)
deriving DecidableEq, Repr

/-- The characters that are signs. -/
def signs : List Char := "+-/*%~([\x7b<>=.:|,;".toList

/-- The lexeme of a character at a position that belongs to no word and is not blank.  No expression
opens a bracket, so a bracket that closes is always out of place. -/
def signLexeme (position : Nat) (c : Char) : Lexeme :=
  if c ∈ signs then .sign c
  else if c = ')' ∨ c = ']' ∨ c = '\x7d' then .flaw (.strayBracket c)
  else .flaw (.strayChar c position)

/-- The lexeme of the characters of a word; only a name is a word. -/
def wordLexeme (cs : List Char) : Lexeme :=
  let s := String.ofList cs
  if isIdentifier s then .word s else .flaw .misspelt

/-- The lexemes of characters that stand together: a number, if they start with digits, and a
word. -/
def runLexemes (cs : List Char) : List Lexeme :=
  let digits := cs.takeWhile Char.isDigit
  let rest := cs.dropWhile Char.isDigit
  (if digits = [] then [] else [.number (digitsNumber digits)]) ++
    if rest = [] then [] else [wordLexeme rest]

/-- Whether a character belongs to a word or number. -/
def isNameChar (c : Char) : Bool := isWordChar c || isIdentContinue c

/-- The lexemes of characters, the first of which stands at a position; `acc` is what was read of
the current word or number, backwards. -/
def lexemesFrom (position : Nat) (acc : List Char) : List Char → List Lexeme
  | [] => runLexemes acc.reverse
  | c :: r =>
    if isNameChar c then lexemesFrom (position + 1) (c :: acc) r
    else if isBlank c then runLexemes acc.reverse ++ lexemesFrom (position + 1) [] r
    else runLexemes acc.reverse ++ signLexeme position c :: lexemesFrom (position + 1) [] r

/-- The lexemes of characters, the first of which stands at a position. -/
def lexemes (position : Nat) (cs : List Char) : List Lexeme := lexemesFrom position [] cs

/-- What is wrong with lexemes that do not start with what belongs there: a flaw that they start
with, or else what `tell` says of what was found.  The template may also have ended. -/
def flawAt (ended : Flaw) (tell : String → Flaw) : List Lexeme → Flaw
  | [] => ended
  | .flaw f :: _ => f
  | .word s :: _ => tell s
  | .number _ :: _ => tell "integer"
  | .sign c :: _ => tell c.toString
  | .close kind :: _ => tell kind.endLabel

/-- What is wrong in front of lexemes: the given flaw, unless they start with one. -/
def flawBefore (f : Flaw) (ls : List Lexeme) : Flaw := flawAt f (fun _ => f) ls

/-- What is wrong with lexemes that start no expression. -/
def unexpectedAt (ls : List Lexeme) : Flaw := flawAt (.unexpected endLabel) .unexpected ls

/-- What is wrong with lexemes that do not start with what is wanted. -/
def misplacedAt (wanted : String) (ls : List Lexeme) : Flaw :=
  flawAt (.missing wanted) (.misplaced wanted) ls

end EntityMapping.Template
