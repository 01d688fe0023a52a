import EntityMapping.Assoc
import EntityMapping.Manifest.Property

/-!
# The types of a manifest

The declared types of a manifest are found under their names, and under their names with the
namespace before them.  Where two types claim one name, the first one in the manifest has it.  An
index remembers the entity types that it has made, so that each type entry is read at most once,
whatever names lead to it.
-/

namespace EntityMapping.Manifest

open Text

/-- A type entry of a manifest. -/
structure TypeEntry where
  /-- Its place among the type entries. -/
  place : Nat
  /-- Its fields. -/
  fields : Fields

/-- The declared types of a manifest. -/
structure Index where
  /-- The type entries under their names. -/
  entries : List (String × TypeEntry) := []
  /-- The names of enumerations. -/
  enumNames : List String := []
  /-- The entity types made so far, under the places of their entries. -/
  made : List (Nat × EntityType) := []

/-- A use of an index.  What the index remembers stays when the use fails. -/
abbrev Lookup := ExceptT Failure (StateM Index)

/-- The names of a type entry with the given name. -/
def entryNames (fields : Fields) (name : Value) : List String :=
  let space := textAt fields "namespace" ""
  if space = "" then [name.display] else [name.display, space ++ "." ++ name.display]

/-- Whether a type entry declares an enumeration. -/
def isEnumEntry (fields : Fields) : Bool :=
  match Fields.at? fields "kind" with
  | some (.text s) => s = "enum"
  | _ => false

namespace Index

/-- Adds an entry under names, except where a name is taken. -/
def addNames (entry : TypeEntry) (names : List String) (x : Index) : Index :=
  { x with
    entries := names.foldl (fun es n => if Assoc.has n es then es else es ++ [(n, entry)]) x.entries
    enumNames :=
      if isEnumEntry entry.fields then
        names.foldl (fun ns n => if n ∈ ns then ns else ns ++ [n]) x.enumNames
      else x.enumNames }

/-- Adds the type entry at a place. -/
def add (x : Index) (entry : Value × Nat) : Except ManifestError Index :=
  match entry.1 with
  | .object fields =>
    match Fields.at? fields "name" with
    | some name => .ok (x.addNames ⟨entry.2, fields⟩ (entryNames fields name))
    | none => .error (.badType entry.1)
  | _ => .error (.badType entry.1)

/-- The index of type entries. -/
def ofEntries (entries : List Value) : Except ManifestError Index :=
  entries.zipIdx.foldlM add {}

/-- The type entry that a reference denotes. -/
def denoted? (x : Index) (reference : String) : Option TypeEntry :=
  Assoc.get? (trimmed reference) x.entries

/-- The entity type that the fields of an entry describe. -/
def entityOf (x : Index) (fields : Fields) : Except ManifestError EntityType := do
  let properties ← (← listAt fields "properties").mapM (parseProperty · x.enumNames)
  return {
    name := textAt fields "name" "", namespaceName := some (textAt fields "namespace" ""),
    properties }

/-- The index that remembers the entity type of the entry at a place. -/
def remember (x : Index) (place : Nat) (entity : EntityType) : Index :=
  { x with made := Assoc.set place entity x.made }

/-- The entity type of an entry: the one that is remembered, or else a new one. -/
def entityAt (entry : TypeEntry) : Lookup EntityType := do
  let x ← get
  match Assoc.get? entry.place x.made with
  | some entity => return entity
  | none =>
    let entity ← liftM (x.entityOf entry.fields)
    set (x.remember entry.place entity)
    return entity

/-- The entity type that a reference names; an enumeration is none. -/
def resolve (reference : String) : Lookup (Option EntityType) := do
  match (← get).denoted? reference with
  | none => return none
  | some entry => if isEnumEntry entry.fields then return none else return some (← entityAt entry)

end Index

end EntityMapping.Manifest
