import EntityMapping.Decimal.Notation
import EntityMapping.Text.Quoted
import EntityMapping.Value.Fault

/-!
# Writing documents

The printer of JSON documents: two blanks of indentation for each level, one item or field on a
line, and nothing between the brackets of what is empty.  Only quotes, backslashes and control
characters below U+0020 are escaped.  A document is printed piece by piece, and a piece with a whole
number of too many digits cannot be printed.
-/

namespace EntityMapping.Json

open Decimal Text

/-- One character of a text between its quotes. -/
def escaped (c : Char) : List Char :=
  if c = '"' then ['\\', '"']
  else if c = '\\' then ['\\', '\\']
  else if c = '\n' then ['\\', 'n']
  else if c = '\r' then ['\\', 'r']
  else if c = '\t' then ['\\', 't']
  else if c = '\x08' then ['\\', 'b']
  else if c = '\x0c' then ['\\', 'f']
  else if c.toNat < 0x20 then ['\\', 'u'] ++ hexDigits 4 c.toNat
  else [c]

/-- A text between quotes. -/
def writeText (s : List Char) : List Char := '"' :: s.flatMap escaped ++ ['"']

/-- A piece of a document, or why it cannot be printed. -/
abbrev Piece := Except Fault (List Char)

/-- A whole number in decimal, if it has not too many digits. -/
def writeInt (n : Int) : Piece :=
  if maxDigits < (Nat.toDigits 10 n.natAbs).length then .error .tooManyDigitsToWrite
  else .ok (intText n).toList

/-- The text of a key: scalars that are no texts are written as in a document. -/
def keyText : Key → Piece
  | .null => .ok ['n', 'u', 'l', 'l']
  | .bool b => .ok (if b then ['t', 'r', 'u', 'e'] else ['f', 'a', 'l', 's', 'e'])
  | .int n => writeInt n
  | .float x => .ok (x.text documentFormat).toList
  | .text s => .ok s.toList

/-- A line end and the indentation of a level. -/
def newline (level : Nat) : List Char := '\n' :: List.replicate (2 * level) ' '

mutual

/-- The pieces of the document of a value inside `level` brackets, as they are written one after the
other. -/
def pieces (level : Nat) : Value → List Piece
  | .null => [.ok ['n', 'u', 'l', 'l']]
  | .bool b => [.ok (if b then ['t', 'r', 'u', 'e'] else ['f', 'a', 'l', 's', 'e'])]
  | .int n => [writeInt n]
  | .float x => [.ok (x.text documentFormat).toList]
  | .text s => [.ok (writeText s.toList)]
  | .list [] => [.ok ['[', ']']]
  | .list (v :: vs) =>
    itemPieces (level + 1) ('[' :: newline (level + 1)) (v :: vs)
      ++ [.ok (newline level), .ok [']']]
  | .object [] => [.ok ['\x7b', '\x7d']]
  | .object (f :: fs) =>
    .ok ('\x7b' :: newline (level + 1)) :: fieldPieces (level + 1) [] (f :: fs)
      ++ [.ok (newline level), .ok ['\x7d']]

/-- The pieces of the items of a list, each on a line of its own.  `lead` is what stands before the
first one; a text or a whole number is written together with what stands before it. -/
def itemPieces (level : Nat) (lead : List Char) : List Value → List Piece
  | [] => []
  | .text s :: r => .ok (lead ++ writeText s.toList) :: itemPieces level (',' :: newline level) r
  | .int n :: r => (writeInt n).map (lead ++ ·) :: itemPieces level (',' :: newline level) r
  | v :: r => .ok lead :: pieces level v ++ itemPieces level (',' :: newline level) r

/-- The pieces of the fields of an object, each on a line of its own.  `lead` is what stands before
the first one; nothing of it is written if the key cannot be printed. -/
def fieldPieces (level : Nat) (lead : List Char) : List (Key × Value) → List Piece
  | [] => []
  | (k, v) :: r =>
    (keyText k).map (fun _ => lead) :: (keyText k).map writeText :: .ok [':', ' ']
      :: pieces level v ++ fieldPieces level (',' :: newline level) r

end

/-- The pieces of the document that holds a value. -/
def documentPieces (v : Value) : List Piece := pieces 0 v

end EntityMapping.Json
