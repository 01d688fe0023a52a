import EntityMapping.Text.Digit
import EntityMapping.Text.Pieces

/-!
# Hosts written as numbers

A host in square brackets is a number: eight groups of up to four hexadecimal digits between colons.
One run of groups may be left out, which is written `::`, and the last two groups may be written as
four decimal numbers between dots.  A scope may follow after `%`.  A later form starts with `v` and
its version.
-/

namespace EntityMapping.HostLiteral

open Text

/-- Whether a text is a group of hexadecimal digits. -/
def isGroup (s : List Char) : Bool := s ≠ [] && s.length ≤ 4 && s.all isHexDigit

/-- Whether a text is a decimal number up to 255 without a leading zero. -/
def isOctet (s : List Char) : Bool :=
  s ≠ [] && s.length ≤ 3 && s.all Char.isDigit && (s.length = 1 || s.head? ≠ some '0')
    && digitsNumber s ≤ 255

/-- Whether a text is four decimal numbers between dots. -/
def isQuad (s : List Char) : Bool :=
  let parts := cut '.' s
  parts.length = 4 && parts.all isOctet

/-- The pieces between colons; the empty text has none. -/
def groupsOf (s : List Char) : List (List Char) := if s = [] then [] else cut ':' s

/-- How many groups well-formed pieces stand for: each for one, and four decimal numbers at the end
for two. -/
def groupCount? : List (List Char) → Option Nat
  | [] => some 0
  | [s] => if isGroup s then some 1 else if isQuad s then some 2 else none
  | s :: r => if isGroup s then (groupCount? r).map (· + 1) else none

/-- What stands before and after the first `::`, if there is one. -/
def sides? : List Char → Option (List Char × List Char)
  | ':' :: ':' :: r => some ([], r)
  | c :: r => (sides? r).map fun (before, after) => (c :: before, after)
  | [] => none

/-- How many groups there are when none is left out. -/
def allGroups : Nat := 8

/-- Whether a text is a number in groups. -/
def isNumber (s : List Char) : Bool :=
  match sides? s with
  | none => groupCount? (groupsOf s) = some allGroups
  | some (before, after) =>
    (groupsOf before).all isGroup &&
      match groupCount? (groupsOf after) with
      | some n => (groupsOf before).length + n < allGroups
      | none => false

/-- Whether a text is a number with or without a scope. -/
def isScopedNumber (s : List Char) : Bool :=
  isNumber (s.takeWhile (· ≠ '%')) &&
    match s.dropWhile (· ≠ '%') with
    | [] => true
    | _ :: scope => scope ≠ [] && '%' ∉ scope

/-- Whether a text is a host of the form that starts with a version. -/
def isVersioned : List Char → Bool
  | 'v' :: r =>
    match r.dropWhile isHexDigit with
    | '.' :: _ :: _ => r.takeWhile isHexDigit ≠ []
    | _ => false
  | _ => false

/-- Whether a text is a host that may stand in square brackets. -/
def isLiteral (s : List Char) : Bool :=
  if s.head? = some 'v' then isVersioned s else isScopedNumber s

/-- Whether the square brackets in a host are right: they hold a literal, and nothing but a port
comes with them.  What stands before the last `@` does not count. -/
def bracketsFit (host : List Char) : Bool :=
  match afterLast '@' host with
  | '[' :: r =>
    isLiteral (r.takeWhile (· ≠ ']')) &&
      match (r.dropWhile (· ≠ ']')).drop 1 with
      | [] => true
      | c :: _ => c = ':'
  | place => '[' ∉ place && isLiteral (place.takeWhile (· ≠ ':'))

end EntityMapping.HostLiteral
