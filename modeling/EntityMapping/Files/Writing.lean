import EntityMapping.Failure

/-!
# Writing texts

A text is written to a file piece by piece.  A piece that cannot be printed, or that holds half of a
pair alone, cannot be written; the pieces before it are in the file then.
-/

namespace EntityMapping

open Text

/-- The octets of a piece of a text, or why it cannot be written. -/
def pieceOctets : Except Fault (List Char) → Except Failure Utf8.Octets
  | .error e => .error (.fault e)
  | .ok s =>
    match Utf8.encodeText? s with
    | some octets => .ok octets
    | none => .error .unencodable

/-- The octets of the pieces of a text up to the first one that cannot be written, and the failure if
there is one. -/
def encodePieces : List (Except Fault (List Char)) → Utf8.Octets × Except Failure Unit
  | [] => ([], .ok ())
  | p :: r =>
    match pieceOctets p with
    | .error e => ([], .error e)
    | .ok octets =>
      let (rest, outcome) := encodePieces r
      (octets ++ rest, outcome)

/-- Writes the pieces of a text to a file: the file system afterwards, and the failure if there was
one. -/
def FileSystem.writeText (fs : FileSystem) (p : Path) (ps : List (Except Fault (List Char))) :
    FileSystem × Except Failure Unit :=
  let (octets, outcome) := encodePieces ps
  match fs.write p octets with
  | .error e => (fs, .error (.file e))
  | .ok fs => (fs, outcome)

end EntityMapping
