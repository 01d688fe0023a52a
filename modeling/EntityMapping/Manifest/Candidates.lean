import EntityMapping.Journal
import EntityMapping.Manifest.Index
import EntityMapping.Manifest.TypeReference

/-!
# The candidates of a manifest

A manifest lists declared types and declarations.  Each declaration becomes a candidate.  The entity
that it configures is the first type argument of the first parameter with a builder type, in its
first method named `Configure`.
-/

namespace EntityMapping.Manifest

open Text

/-- The method that names the entity of a declaration. -/
def configureMethod : String := "Configure"

/-- The fields of a method with the name of the one that is looked for. -/
def configureFields? : Value → Option Fields
  | .object fields =>
    match Fields.at? fields "name" with
    | some (.text s) => if s = configureMethod then some fields else none
    | _ => none
  | _ => none

/-- The entity that the first parameter with a builder type names. -/
def resolveParameters (builder : Value) : List Value → Lookup (Option EntityType)
  | [] => return none
  | .object fields :: r =>
    match builderTypeArgument (textAt fields "type" "") builder with
    | .error e => throw (.fault e)
    | .ok none => resolveParameters builder r
    | .ok (some name) => Index.resolve name
  | entry :: _ => throw (.manifest (.badParameter entry))

/-- The entity that a declaration configures. -/
def resolveTarget (builder : Value) (declaration : Fields) : Lookup (Option EntityType) := do
  let methods ← liftM (listAt declaration "methods")
  match methods.findSome? configureFields? with
  | none => return none
  | some configure =>
    let parameters ← liftM (listAt configure "parameters")
    resolveParameters builder parameters

/-- The candidate that a declaration entry describes. -/
def parseDeclaration (builder entry : Value) : Lookup Candidate :=
  match entry with
  | .object fields =>
    match Fields.at? fields "name" with
    | none => throw (.manifest (.badDeclaration entry))
    | some name => do
      let target ← resolveTarget builder fields
      let attributes ← liftM (listAt fields "attributes")
      return {
        name := name.display, namespaceName := some (textAt fields "namespace" ""), target,
        hasMarker := hasMarker attributes markerName }
  | _ => throw (.manifest (.badDeclaration entry))

/-- The note on a candidate without an entity. -/
def unresolvedNotes (c : Candidate) : List Note :=
  match c.target with
  | none => [⟨.debug, .manifests, "No target entity resolved for " ++ c.name⟩]
  | some _ => []

/-- The candidates that declaration entries describe, with the notes taken up to the first entry
that describes none.  One index serves all entries. -/
def parseDeclarations (builder : Value) :
    Index → List Value → Except Failure (List Candidate) × List Note
  | _, [] => (.ok [], [])
  | x, entry :: r =>
    match (parseDeclaration builder entry).run x with
    | (.error e, _) => (.error e, [])
    | (.ok c, x) =>
      let (rest, notes) := parseDeclarations builder x r
      (rest.map (c :: ·), unresolvedNotes c ++ notes)

/-- The note at the end of a manifest. -/
def loadedNote (cs : List Candidate) : Note :=
  ⟨.info, .manifests, "Loaded " ++ toString cs.length ++ " declaration(s) from manifest"⟩

/-- The types and the declarations of a manifest; what is not there is empty. -/
def sections (manifest : Value) : Except ManifestError (List Value × List Value) :=
  match manifest with
  | .object fields =>
    match (Fields.at? fields "types").getD (.list []),
      (Fields.at? fields "declarations").getD (.list []) with
    | .list types, .list declarations => .ok (types, declarations)
    | _, _ => .error .notLists
  | _ => .error .notObject

/-- The candidates of a manifest, and the notes taken. -/
def loadCandidates (manifest builder : Value) : Except Failure (List Candidate) × List Note :=
  match sections manifest with
  | .error e => (.error (.manifest e), [])
  | .ok (types, declarations) =>
    match Index.ofEntries types with
    | .error e => (.error (.manifest e), [])
    | .ok x =>
      match parseDeclarations builder x declarations with
      | (.ok cs, notes) => (.ok cs, notes ++ [loadedNote cs])
      | failed => failed

end EntityMapping.Manifest
