import EntityMapping.Text.Blank
import EntityMapping.Text.Pieces
import EntityMapping.Text.Word
import EntityMapping.Value.Fault

/-!
# Generic type references

A reference `Name<A, B<C, D>>` to a generic type has arguments, which are separated by the commas
that stand inside no further angle brackets.  The parameter that names an entity is typed with a
builder type, whose first argument is the entity.
-/

namespace EntityMapping.Manifest

open Text

/-- How a character changes the number of open angle brackets. -/
def bracketStep (c : Char) : Int := if c = '<' then 1 else if c = '>' then -1 else 0

/-- The pieces between the commas that are seen where no angle bracket is open; `depth` is the
number of open ones. -/
def cutTop (depth : Int) : List Char → List (List Char)
  | [] => [[]]
  | c :: r =>
    let depth := depth + bracketStep c
    if c = ',' ∧ depth = 0 then [] :: cutTop depth r
    else
      match cutTop depth r with
      | [] => [[c]]
      | p :: ps => (c :: p) :: ps

/-- The type arguments in a text: what is not blank between its outer commas, trimmed. -/
def splitArguments (s : List Char) : List (List Char) :=
  ((cutTop 0 s).map trim).filter (· ≠ [])

/-- The type arguments in a string. -/
def typeArguments (s : String) : List String := (splitArguments s.toList).map String.ofList

/-- Whether a character may stand in the name of a type. -/
def isTypeNameChar (c : Char) : Bool := isWordChar c || c = '.'

/-- The name and the text between the outer angle brackets of a reference to a generic type. -/
def genericParts? (s : List Char) : Option (List Char × List Char) :=
  let s := trimStart s
  let name := s.takeWhile isTypeNameChar
  if name = [] then none
  else
    match trimStart (s.dropWhile isTypeNameChar) with
    | '<' :: r =>
      match (trimEnd r).reverse with
      | '>' :: inner => if '\n' ∈ inner then none else some (name, inner.reverse)
      | _ => none
    | _ => none

/-- The first argument of a reference to a type whose short name begins with the name of the
builder type. -/
def builderArgument? (typeName builder : List Char) : Option (List Char) :=
  match genericParts? typeName with
  | none => none
  | some (name, inner) =>
    if builder.isPrefixOf (afterLast '.' name) then (splitArguments inner).head? else none

/-- The name of the builder type unless something else is configured. -/
def defaultBuilderType : Value := .text "EntityTypeBuilder"

/-- The first argument of a reference, where a value gives the name of the builder type.  The
value is looked at only for a reference to a generic type, and then has to be a text. -/
def builderTypeArgument (typeName : String) (builder : Value) : Except Fault (Option String) :=
  match builder with
  | .text b => .ok ((builderArgument? typeName.toList b.toList).map String.ofList)
  | v =>
    if (genericParts? typeName.toList).isSome then .error (.notBeginning v.kind) else .ok none

end EntityMapping.Manifest
