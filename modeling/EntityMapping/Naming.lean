import EntityMapping.Text.Blank
import EntityMapping.Text.LetterCase
import EntityMapping.Value.Fault

/-!
# Storage names

The storage name of an identifier is its words in lower case with underscores between them: an
underscore stands before every upper-case letter but one at the very start.
-/

namespace EntityMapping

open Text

/-- The storage form of one character that is not the first. -/
def storageChar (c : Char) : List Char := if isUpper c then '_' :: lowerChar c else [c]

/-- The storage form of the first character. -/
def storageHead (c : Char) : List Char := if isUpper c then lowerChar c else [c]

/-- The storage form of an identifier; a blank one stays as it is. -/
def storageChars : List Char → List Char
  | [] => []
  | c :: r => if (c :: r).all isBlank then c :: r else storageHead c ++ r.flatMap storageChar

/-- The storage name of an identifier. -/
def storageName (s : String) : String := String.ofList (storageChars s.toList)

/-- The storage name of a value: what counts as false stays as it is, and anything else has to be a
text. -/
def storageNameOf (v : Value) : Except Fault Value :=
  match v with
  | .text s => .ok (.text (storageName s))
  | v => if v.truthy then .error (.noAttribute v.kind "strip") else .ok v

@[simp] theorem storageChars_nil : storageChars [] = [] := rfl

end EntityMapping
