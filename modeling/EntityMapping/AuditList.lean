import EntityMapping.Directive
import EntityMapping.Journal
import EntityMapping.Text.Pieces

/-!
# The list of audit fields

The fields of the shared base come from a list of lines of the form `type:Name`.  Blanks around the
type and the name do not count; lines of any other form are passed over.
-/

namespace EntityMapping

open Text

/-- The field that a line describes: the line has exactly one colon, with something that is not
blank after it. -/
def AuditField.ofChars? (line : List Char) : Option AuditField :=
  match cut ':' line with
  | [before, after] =>
    let name := trim after
    if name = [] then none else some ⟨String.ofList (trim before), String.ofList name⟩
  | _ => none

/-- The field that a line describes. -/
def AuditField.ofLine? (line : String) : Option AuditField := ofChars? line.toList

/-- The field that a value describes as a line. -/
def AuditField.ofValue? (line : Value) : Except Fault (Option AuditField) :=
  match line with
  | .text s => .ok (ofLine? s)
  | v => if v.truthy then .error (.noAttribute v.kind "strip") else .ok none

/-- The lines of a list; null and everything else that counts as false is the empty list. -/
def auditLines (lines : Value) : Except Fault (List Value) :=
  if lines.truthy then lines.elements else .ok []

/-- The fields of a list of lines, in order. -/
def auditFields (lines : Value) : Except Fault (List AuditField) := do
  let items ← auditLines lines
  let found ← items.mapM AuditField.ofValue?
  return found.filterMap id

/-- The notes on lines that are not blank and describe no field. -/
def auditListNotes (lines : Value) : List Note :=
  match auditLines lines with
  | .error _ => []
  | .ok items =>
    items.zipIdx.filterMap fun (line, i) =>
      match line with
      | .text s =>
        if !isBlankText s ∧ (AuditField.ofLine? s).isNone then
          some ⟨.debug, .auditFields,
            "Ignoring malformed audit field line " ++ toString (i + 1) ++ ": " ++ quotedText s⟩
        else none
      | _ => none

/-- The column type for the keyword of an audit field. -/
def auditColumnType? (keyword : String) : Option String :=
  if keyword = "datetime" then some "timestamp"
  else if keyword = "int" then some "integer"
  else if keyword = "bool" then some "boolean"
  else none

/-- The directives of an audit field; the keyword is read without regard to case, and an unknown one
adds nothing. -/
def auditDirectives (f : AuditField) (length : Value) : List Directive :=
  let keyword := lowered f.typeKeyword
  let typed : List Directive :=
    if keyword = "string" then [⟨.maxLength, length⟩]
    else ((auditColumnType? keyword).map fun s => ⟨.columnType, .text s⟩).toList
  typed ++ [⟨.columnName, .text (storageName f.name)⟩]

end EntityMapping
