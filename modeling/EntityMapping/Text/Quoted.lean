import EntityMapping.Text.Letter
import EntityMapping.Text.Printable.Table

/-!
# Quoted texts

The quoted form of a text is what a message shows of it: single quotes, unless the text holds a
single quote and no double one.  The quote in use and the backslash are escaped, and so is every
character without a glyph, by the shortest of `\x`, `\u` and `\U` that can hold its code point; half
of a pair is shown by its own number.
-/

namespace EntityMapping.Text

open Printable

/-- Whether a character is shown as it is. -/
def isPrintable (c : Char) : Bool := !inRuns hiddenRuns c

/-- The lower-case hexadecimal digits of `n`, at least `width` of them. -/
def hexDigits (width n : Nat) : List Char :=
  let ds := Nat.toDigits 16 n
  List.replicate (width - ds.length) '0' ++ ds

/-- One character between the quotes `q`. -/
def quotedChar (q c : Char) : List Char :=
  if c = q ∨ c = '\\' then ['\\', c]
  else if c = '\t' then ['\\', 't']
  else if c = '\n' then ['\\', 'n']
  else if c = '\r' then ['\\', 'r']
  else if isPrintable c then [c]
  else if c.toNat ≤ 0xff then ['\\', 'x'] ++ hexDigits 2 c.toNat
  else if c.toNat ≤ 0xffff then ['\\', 'u'] ++ hexDigits 4 c.toNat
  else ['\\', 'U'] ++ hexDigits 8 c.toNat

/-- One letter between the quotes `q`. -/
def quotedLetter (q : Char) : Letter → List Char
  | .char c => quotedChar q c
  | .half n => ['\\', 'u'] ++ hexDigits 4 n

/-- The quote that the quoted form of a text uses. -/
def quoteFor (s : List Char) : Char :=
  if s.contains '\'' && !s.contains '"' then '"' else '\''

/-- The quoted form of a text. -/
def quoted (s : List Char) : List Char :=
  let q := quoteFor s
  q :: (letters s).flatMap (quotedLetter q) ++ [q]

/-- The quoted form of a string. -/
def quotedText (s : String) : String := String.ofList (quoted s.toList)

end EntityMapping.Text
