import EntityMapping.Resource.HostLiteral
import EntityMapping.Text.CharRun
import EntityMapping.Value.Fault

/-!
# Addresses

An address names a scheme and a host: `scheme://host` and what follows from the next `/`, `?` or `#`
on.  Blanks and control characters before it do not count, and neither do tabs and line ends in it.
A host with half a pair of square brackets, with other things than a number in them, or with a
character that is a compatibility form of one of the separators is refused.
-/

namespace EntityMapping.Address

open Text

/-- An address, as far as it matters. -/
structure Parts where
  /-- The scheme, or nothing. -/
  scheme : List Char
  /-- The host, with all that stands with it before the path. -/
  host : List Char
deriving DecidableEq, Repr

/-- Whether a character is a letter of the basic Latin alphabet. -/
def isLetter (c : Char) : Bool := ('a' ≤ c && c ≤ 'z') || ('A' ≤ c && c ≤ 'Z')

/-- Whether a character may stand in a scheme. -/
def isSchemeChar (c : Char) : Bool :=
  isLetter c || c.isDigit || c = '+' || c = '-' || c = '.'

/-- The characters whose compatibility form has a separator in it. -/
def separatorForms : List CharRun := [
  ⟨8263, 8265, 1⟩, ⟨8448, 8449, 1⟩, ⟨8453, 8454, 1⟩, ⟨10868, 10868, 1⟩, ⟨65043, 65043, 1⟩,
  ⟨65046, 65046, 1⟩, ⟨65109, 65110, 1⟩, ⟨65119, 65119, 1⟩, ⟨65131, 65131, 1⟩, ⟨65283, 65283, 1⟩,
  ⟨65295, 65295, 1⟩, ⟨65306, 65306, 1⟩, ⟨65311, 65312, 1⟩]

/-- Whether a character ends a host. -/
def endsHost (c : Char) : Bool := c = '/' || c = '?' || c = '#'

/-- The scheme of an address and what follows it; without a well-formed scheme, all of it. -/
def spanScheme (s : List Char) : List Char × List Char :=
  let before := s.takeWhile (· ≠ ':')
  match before, s.dropWhile (· ≠ ':') with
  | c :: _, _ :: after => if isLetter c && before.all isSchemeChar then (before, after) else ([], s)
  | _, _ => ([], s)

/-- Whether a host is well-formed. -/
def hostFits (host : List Char) : Bool :=
  ('[' ∈ host) == (']' ∈ host) && ('[' ∉ host || HostLiteral.bracketsFit host)
    && !host.any (inRuns separatorForms)

/-- An address without what does not count: blanks and control characters at its start, and tabs and
line ends. -/
def bare (s : List Char) : List Char :=
  (s.dropWhile (· ≤ ' ')).filter fun c => c ≠ '\t' ∧ c ≠ '\r' ∧ c ≠ '\n'

/-- The parts of an address. -/
def parse (s : List Char) : Except Fault Parts :=
  let s := bare s
  let (scheme, rest) := spanScheme s
  let host := match rest with
    | '/' :: '/' :: r => r.takeWhile fun c => !endsHost c
    | _ => []
  if hostFits host then .ok ⟨scheme, host⟩ else .error (.badHost (String.ofList host))

/-- Whether a text is an address that can be asked. -/
def isComplete (s : String) : Except Fault Bool :=
  (parse s.toList).map fun p => p.scheme ≠ [] && p.host ≠ []

end EntityMapping.Address
