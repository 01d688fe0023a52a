import EntityMapping.Naming
import EntityMapping.Schema

/-!
# Directives

The annotations of a property are turned into an ordered list of directives, one for each thing that
the configuration of its column says.  The order is fixed: column type, required, greatest length,
concurrency token, row version, the default length of texts without one, and last the column name.
-/

namespace EntityMapping

/-- What a directive configures. -/
inductive DirectiveKind where
  /-- The type of the column. -/
  | columnType
  /-- That a value is required. -/
  | required
  /-- The greatest length. -/
  | maxLength
  /-- That the column is checked for concurrent changes. -/
  | concurrencyToken
  /-- That the column holds the version of the row. -/
  | rowVersion
  /-- The name of the column. -/
  | columnName
  /-- Something that only other targets know. -/
  | other (keyword : String)
deriving DecidableEq, Repr

namespace DirectiveKind

/-- The kinds that every target knows. -/
def known : List DirectiveKind :=
  [.columnType, .required, .maxLength, .concurrencyToken, .rowVersion, .columnName]

/-- The keyword of a kind. -/
def keyword : DirectiveKind → String
  | .columnType => "column_type"
  | .required => "required"
  | .maxLength => "max_length"
  | .concurrencyToken => "concurrency_token"
  | .rowVersion => "row_version"
  | .columnName => "column_name"
  | .other keyword => keyword

/-- The kind with a keyword. -/
def ofKeyword (s : String) : DirectiveKind := (known.find? (·.keyword = s)).getD (.other s)

end DirectiveKind

/-- One instruction for the configuration of a column. -/
structure Directive where
  /-- What it configures. -/
  kind : DirectiveKind
  /-- The value it configures, where it needs one. -/
  value : Value := .null

/-- The greatest length of texts, unless something else is configured. -/
def defaultStringLength : Value := .int 255

/-- The column name of a property before it becomes a storage name: the first argument of the
column annotation, if it is a text, else the name of the property. -/
def columnSource (p : Property) : Option String :=
  match p.findAnnotation .column with
  | some a =>
    match a.firstArgument with
    | .text s => some s
    | _ => p.name
  | none => p.name

/-- The column type that the column annotation names. -/
def columnType? (p : Property) : Option String :=
  match p.findAnnotation .column with
  | some a =>
    match Fields.at? a.named "TypeName" with
    | some (.text s) => some s
    | _ => none
  | none => none

/-- The argument of the first annotation of a kind, if it has exactly one and that is not null. -/
def singleArgument? (p : Property) (kind : AnnotationKind) : Option Value :=
  match p.findAnnotation kind with
  | some a =>
    match a.arguments with
    | [.null] => none
    | [v] => some v
    | _ => none
  | none => none

/-- The greatest length that the annotations give; a greatest length wins over a text length. -/
def annotatedLength? (p : Property) : Option Value :=
  singleArgument? p .maxLength <|> singleArgument? p .stringLength

/-- The directives of a property; `length` is the greatest length of texts without one. -/
def resolveDirectives (p : Property) (length : Value) : List Directive :=
  ((columnType? p).map fun s => ⟨.columnType, .text s⟩).toList
    ++ (if p.hasAnnotation .required then [⟨.required, .null⟩] else [])
    ++ ((annotatedLength? p).map fun v => ⟨.maxLength, v⟩).toList
    ++ (if p.hasAnnotation .concurrencyCheck then [⟨.concurrencyToken, .null⟩] else [])
    ++ (if p.hasAnnotation .timestamp then [⟨.rowVersion, .null⟩] else [])
    ++ (if (annotatedLength? p).isNone ∧ p.type = .string then [⟨.maxLength, length⟩] else [])
    ++ [⟨.columnName, nameValue ((columnSource p).map storageName)⟩]

/-- A property with its directives. -/
structure ResolvedProperty where
  /-- The property. -/
  property : Property
  /-- Its directives. -/
  directives : List Directive

/-- A property with the directives that its annotations give. -/
def resolveProperty (p : Property) (length : Value) : ResolvedProperty :=
  ⟨p, resolveDirectives p length⟩

end EntityMapping
