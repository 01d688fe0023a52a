import EntityMapping.Text.Pieces
import EntityMapping.Text.Utf8
import EntityMapping.Value.Fault

/-!
# Paths

A path is a list of names, with the place where it starts.  Empty names and the name `.` say nothing
and are dropped; the name `..` stays, since where it leads depends on the files.
-/

namespace EntityMapping

open Text

/-- Where a path starts. -/
inductive Anchor where
  /-- At the working folder. -/
  | here
  /-- At the root. -/
  | root
  /-- At the root, written with exactly two slashes, which are kept. -/
  | twoSlashes
deriving DecidableEq, Repr

/-- The text of the start of a path. -/
def Anchor.text : Anchor → String
  | .here => ""
  | .root => "/"
  | .twoSlashes => "//"

/-- A path. -/
structure Path where
  /-- Where the path starts. -/
  anchor : Anchor
  /-- The names on the path. -/
  parts : List String
deriving DecidableEq, Repr

namespace Path

/-- Where the path starts that characters name: one slash and three or more say the same. -/
def anchorOf : List Char → Anchor
  | '/' :: '/' :: '/' :: _ => .root
  | '/' :: '/' :: _ => .twoSlashes
  | '/' :: _ => .root
  | _ => .here

/-- The path that a text names. -/
def ofText (s : String) : Path where
  anchor := anchorOf s.toList
  parts := (pieces '/' s).filter fun p => p != "" && p != "."

/-- Whether a path starts at the root. -/
def isAbsolute (p : Path) : Bool := p.anchor ≠ .here

/-- The text of a path. -/
def text (p : Path) : String :=
  if p.anchor = .here ∧ p.parts = [] then "."
  else p.anchor.text ++ String.intercalate "/" p.parts

/-- The second path as seen from the first. -/
def join (p q : Path) : Path :=
  if q.isAbsolute then q else { p with parts := p.parts ++ q.parts }

/-- The path of a name inside a folder; the name may itself be a path. -/
def child (p : Path) (name : String) : Path := p.join (ofText name)

/-- The last name of a path. -/
def name (p : Path) : String := p.parts.getLast?.getD ""

/-- The path without its last name. -/
def parent (p : Path) : Path := { p with parts := p.parts.dropLast }

/-- What follows the last dot of a name, with the dot; nothing if the dot is its first or last
character. -/
def suffixOf (s : List Char) : List Char :=
  let after := afterLast '.' s
  if after.length + 1 < s.length ∧ after ≠ [] then '.' :: after else []

/-- The suffix of the last name. -/
def suffix (p : Path) : String := String.ofList (suffixOf p.name.toList)

/-- Whether a path holds the character U+0000, which no file name can. -/
def hasNull (p : Path) : Bool := p.parts.any (·.toList.contains '\x00')

/-- Whether a half of a pair stands for an octet of a name that is no text. -/
def isOctetHalf (n : Nat) : Bool := 0xdc80 ≤ n && n ≤ 0xdcff

/-- Whether a path holds half of a pair alone that no file name can. -/
def hasHalf (p : Path) : Bool :=
  p.parts.any fun name => (letters name.toList).any fun
    | .char _ => false
    | .half n => !isOctetHalf n

/-- How many octets a letter takes in a path. -/
def letterSize : Letter → Nat
  | .char c => c.utf8Size
  | .half _ => 1

/-- How many octets a text takes in a path. -/
def octetCount (s : String) : Nat := (letters s.toList).foldl (fun n l => n + letterSize l) 0

end Path

/-- The value as a path. -/
def Value.toPath (v : Value) : Except Fault Path :=
  match v with
  | .text s => .ok (.ofText s)
  | v => .error (.notPath v.kind)

end EntityMapping
