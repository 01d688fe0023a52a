import EntityMapping.Manifest.Attribute
import EntityMapping.Text.LetterCase

/-!
# Properties in manifests

A property entry is an object with a name.  Its declared type decides its type: some names are
known, and names of declared enumerations are enumerations; the question mark of an optional type is
allowed for texts only.
-/

namespace EntityMapping.Manifest

open Text

/-- The known type names. -/
def knownTypes : List (String × PropertyType) := [
  ("string", .string), ("System.String", .string),
  ("DateTime", .datetime), ("System.DateTime", .datetime),
  ("int", .int32), ("Int32", .int32), ("System.Int32", .int32),
  ("double", .double), ("Double", .double), ("System.Double", .double),
  ("bool", .boolean), ("Boolean", .boolean), ("System.Boolean", .boolean),
  ("Guid", .guid), ("System.Guid", .guid)]

/-- The type that a declared type name stands for, where the given names are enumerations. -/
def classifyType (typeName : String) (enumNames : List String) : PropertyType :=
  let name := trimmed typeName
  match name.toList.reverse with
  | '?' :: r =>
    if knownTypes.lookup (String.ofList r.reverse) = some .string then .string else .other
  | _ =>
    match knownTypes.lookup name with
    | some t => t
    | none => if name ∈ enumNames then .enum else .other

/-- The property that an entry describes. -/
def parseProperty (data : Value) (enumNames : List String) : Except ManifestError Property :=
  match data with
  | .object fields =>
    match Fields.at? fields "name" with
    | none => .error (.badProperty data)
    | some name => do
      let typeName := textAt fields "type" ""
      let annotations ← (← listAt fields "attributes").mapM parseAnnotation
      return {
        name := some name.display, type := classifyType typeName enumNames, annotations, typeName,
        isPublic := lowered (textAt fields "accessibility" "public") = "public",
        isStatic := ((Fields.at? fields "static").getD (.bool false)).truthy }
  | _ => .error (.badProperty data)

end EntityMapping.Manifest
