import EntityMapping.Template.Reading
import EntityMapping.Template.Rendering
import EntityMapping.Text.Line

/-!
# Shelves of templates

Templates stand on a shelf under their names.  A shelf is empty, holds what is bundled with a
target, or holds the files of a folder, at any depth and as they were when the shelf was set up.
-/

namespace EntityMapping.Template

open Text

/-- Where the templates come from. -/
inductive Shelf where
  /-- There are none. -/
  | empty
  /-- Templates that are part of the program. -/
  | bundled (templates : List (String × List Node))
  /-- The files below a folder. -/
  | folder (path : Path) (files : List (String × Utf8.Octets))

/-- Templates with the filters that they may use. -/
structure Engine where
  /-- The templates. -/
  shelf : Shelf
  /-- The filters. -/
  filters : List Filter := [.storageName]

namespace Shelf

/-- The files below a location under their names. -/
def filesBelow (fs : FileSystem) (l : Location) : List (String × Utf8.Octets) :=
  (fs.below l).filterMap fun (names, node) =>
    match node with
    | .file content => some (String.intercalate "/" names, content)
    | .folder => none

/-- The shelf of a folder; what is no folder gives an empty shelf. -/
def ofFolder (fs : FileSystem) (p : Path) : Except FileError Shelf := do
  if ← fs.isFolder p then
    match fs.locate p with
    | .ok l => return .folder p (filesBelow fs l)
    | .error e => throw (.system e p)
  else return .empty

/-- The names on a shelf, in order. -/
def names : Shelf → List String
  | .empty => []
  | .bundled templates => (templates.map (·.1)).mergeSort (· ≤ ·)
  | .folder _ files => (files.map (·.1)).mergeSort (· ≤ ·)

/-- The template tree that octets hold. -/
def parse (name : String) (content : Utf8.Octets) : Except Failure (List Node) :=
  match Utf8.decode content with
  | .error e => .error (.undecodable e)
  | .ok s =>
    match nodes (unifyNewlines s) with
    | .ok ns => .ok ns
    | .error flaw => .error (.template ⟨name, .malformed flaw⟩)

/-- The template with a name.  A name is looked up without its empty parts and the parts `.`; a part
`..` never finds anything. -/
def find (shelf : Shelf) (name : String) : Except Failure (List Node) :=
  match shelf with
  | .empty => .error (.template ⟨name, .absent name⟩)
  | .bundled templates =>
    match templates.lookup name with
    | some ns => .ok ns
    | none => .error (.template ⟨name, .absent name⟩)
  | .folder path files =>
    let parts := pieces '/' name
    if ".." ∈ parts then .error (.template ⟨name, .absent name⟩)
    else
      match files.lookup (String.intercalate "/" (parts.filter fun p => p ≠ "" ∧ p ≠ ".")) with
      | some content => parse name content
      | none => .error (.template ⟨name, .notInFolder name path.text⟩)

end Shelf

namespace Engine

/-- The names of the templates, in order. -/
def names (e : Engine) : List String := e.shelf.names

/-- Whether there is a template with a name. -/
def has (e : Engine) (name : String) : Bool := name ∈ e.names

/-- The engine with a further filter. -/
def addFilter (e : Engine) (f : Filter) : Engine := { e with filters := f :: e.filters }

/-- The text of the template with a name. -/
def render (e : Engine) (name : String) (ctx : Context) : Except Failure String := do
  let ns ← e.shelf.find name
  match renderTemplate e.filters name ctx ns with
  | .ok s => return s
  | .error (.problem p) => throw (.template ⟨name, p⟩)
  | .error (.fault f) => throw (.fault f)

end Engine

end EntityMapping.Template
