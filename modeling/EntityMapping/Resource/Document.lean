import EntityMapping.Files.Document
import EntityMapping.Journal
import EntityMapping.Text.LetterCase

/-!
# Input documents

Loading an input document from a file, with the notes that are taken on the way.  A document that is
not there, not readable or not well-formed is a failure with a text of its own; a file that is no
text at all is a failure as it is.
-/

namespace EntityMapping

open Text

/-- The failure that a document error is for an input. -/
def DocumentError.onInput (p : Path) : DocumentError → Failure
  | .malformed problem => .resource (.malformed p problem)
  | .file (.system e q) => .resource (.unreadable p (.system e q))
  | .file e => .file e
  | .undecodable e => .undecodable e
  | .unfit e => .fault e

/-- The note on a failure: those that are not there or give no document are noted. -/
def failureNotes (e : Failure) : List Note :=
  match e with
  | .missingFile _ | .resource _ => [⟨.error, .resources, e.message⟩]
  | _ => []

/-- The note on a document whose file has an unusual name. -/
def suffixNotes (p : Path) : List Note :=
  if lowered p.suffix = ".json" then []
  else [⟨.warning, .resources, "File does not have .json extension: " ++ p.text⟩]

/-- Whether there is a document to load, and the notes taken before it is read. -/
def findDocument (fs : FileSystem) (p : Path) : Except Failure Unit × List Note :=
  let start : Note := ⟨.debug, .resources, "Attempting to load JSON from file: " ++ p.text⟩
  match fs.exists? p with
  | .error e => (.error (.file e), [start])
  | .ok false => (.error (.missingFile p), start :: failureNotes (.missingFile p))
  | .ok true => (.ok (), start :: suffixNotes p)

/-- The document in a file that is there, and the notes taken once it is read. -/
def parseDocument (fs : FileSystem) (p : Path) : Except Failure Value × List Note :=
  match readDocument fs p with
  | .ok v => (.ok v, [⟨.info, .resources, "Successfully loaded JSON from " ++ p.text⟩])
  | .error e => (.error (e.onInput p), failureNotes (e.onInput p))

/-- The document in a file, and the notes taken. -/
def loadDocument (fs : FileSystem) (p : Path) : Except Failure Value × List Note :=
  match findDocument fs p with
  | (.error e, notes) => (.error e, notes)
  | (.ok (), notes) =>
    let (result, more) := parseDocument fs p
    (result, notes ++ more)

end EntityMapping
