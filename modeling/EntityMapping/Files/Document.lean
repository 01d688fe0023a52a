import EntityMapping.Failure
import EntityMapping.Json.Reader
import EntityMapping.Text.Line

/-!
# Document files

The value in a document file: the octets are decoded strictly, line ends are unified, and the text
is read as a JSON document.
-/

namespace EntityMapping

open Text

/-- Why a document file gives no value. -/
inductive DocumentError where
  /-- The file cannot be read. -/
  | file (e : FileError)
  /-- The file is no text. -/
  | undecodable (e : Utf8.Fault)
  /-- The text is no document. -/
  | malformed (problem : String)
  /-- The document has a value that cannot be held. -/
  | unfit (e : Fault)

/-- The value that a text holds as a document. -/
def documentOf (s : List Char) : Except DocumentError Value :=
  match Json.read s with
  | .ok v => .ok v
  | .error (.malformed problem rest) => .error (.malformed (Json.problemText s problem rest))
  | .error (.unfit e) => .error (.unfit e)

/-- The value in a document file. -/
def readDocument (fs : FileSystem) (p : Path) : Except DocumentError Value :=
  match fs.read p with
  | .error e => .error (.file e)
  | .ok octets =>
    match Utf8.decode octets with
    | .error e => .error (.undecodable e)
    | .ok s => documentOf (unifyNewlines s)

end EntityMapping
