import EntityMapping.Failure
import EntityMapping.Schema
import EntityMapping.Text.Blank
import EntityMapping.Text.Pieces

/-!
# Attributes in manifests

An attribute is given by its name, or by an object with its name and arguments.  Only the short name
of an attribute matters: without the namespaces before it and without the ending `Attribute`.
-/

namespace EntityMapping.Manifest

open Text

/-- The list under a key; nothing and null are the empty list. -/
def listAt (fields : Fields) (key : String) : Except ManifestError (List Value) :=
  match Fields.at? fields key with
  | none | some .null => .ok []
  | some (.list items) => .ok items
  | some v =>
    .error (.fieldNotList key ((Fields.at? fields "name").getD (.text "<unnamed>")) v.kind)

/-- The text of the value under a key, or what counts if there is none. -/
def textAt (fields : Fields) (key default : String) : String :=
  ((Fields.at? fields key).getD (.text default)).display

/-- The ending that attribute names may have. -/
def attributeEnding : List Char := "Attribute".toList

/-- The short form of an attribute name. -/
def shortChars (s : List Char) : List Char :=
  let short := afterLast '.' (trim s)
  if attributeEnding.isSuffixOf short ∧ short ≠ attributeEnding then
    short.take (short.length - attributeEnding.length)
  else short

/-- The short form of an attribute name. -/
def shortName (s : String) : String := String.ofList (shortChars s.toList)

/-- The name of an attribute; what is neither a text nor an object has none. -/
def attributeName : Value → String
  | .text s => s
  | .object fields => textAt fields "name" ""
  | _ => ""

/-- The attribute that marks declarations. -/
def markerName : String := "GenerateConfiguration"

/-- Whether a marker is among attributes. -/
def hasMarker (attributes : List Value) (marker : String) : Bool :=
  attributes.any fun a => shortName (attributeName a) = marker

/-- The kind of the annotation that an attribute with a short name makes. -/
def annotationKind (short : String) : AnnotationKind :=
  if short = "Column" then .column
  else if short = "Required" then .required
  else if short = "MaxLength" then .maxLength
  else if short = "StringLength" then .stringLength
  else if short = "ConcurrencyCheck" then .concurrencyCheck
  else if short = "Timestamp" then .timestamp
  else .other

/-- The value under a key, or what counts in place of anything that counts as false. -/
def valueAt (fields : Fields) (key : String) (default : Value) : Value :=
  ((Fields.at? fields key).getD .null).orElse default

/-- The annotation that an attribute makes. -/
def parseAnnotation (data : Value) : Except ManifestError Annotation :=
  let name := attributeName data
  let kind := annotationKind (shortName name)
  match data with
  | .object fields =>
    match valueAt fields "arguments" (.list []), valueAt fields "named_arguments" (.object []) with
    | .list arguments, .object named => .ok { kind, name, arguments, named }
    | _, _ => .error (.badArguments name)
  | _ => .ok { kind, name }

end EntityMapping.Manifest
