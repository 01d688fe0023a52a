import EntityMapping.Value.Basic

/-!
# Entities and declarations

What a generation run reads: declarations that ask for a configuration, the entity types they
configure, the properties of an entity with their annotations, and the entries of the list of audit
fields.  A declaration or entity may stand in no namespace, and a property may have no name.
-/

namespace EntityMapping

/-- A name as a value; where there is none it is null. -/
def nameValue : Option String → Value
  | some s => .text s
  | none => .null

/-- The type of a property, as far as mapping cares. -/
inductive PropertyType where
  /-- A text. -/
  | string
  /-- A date and time. -/
  | datetime
  /-- A whole number of 32 bits. -/
  | int32
  /-- A binary64 number. -/
  | double
  /-- A truth value. -/
  | boolean
  /-- A declared enumeration. -/
  | enum
  /-- A globally unique identifier. -/
  | guid
  /-- Any other type; such a property is never mapped. -/
  | other
deriving DecidableEq, Repr

namespace PropertyType

/-- All types. -/
def all : List PropertyType := [.string, .datetime, .int32, .double, .boolean, .enum, .guid, .other]

/-- The keyword of a type. -/
def keyword : PropertyType → String
  | .string => "string"
  | .datetime => "datetime"
  | .int32 => "int32"
  | .double => "double"
  | .boolean => "boolean"
  | .enum => "enum"
  | .guid => "guid"
  | .other => "other"

/-- Whether properties of the type can be mapped. -/
def isSupported : PropertyType → Bool
  | .other => false
  | _ => true

end PropertyType

/-- What an annotation says about a property. -/
inductive AnnotationKind where
  /-- The name and type of the column. -/
  | column
  /-- A value is required. -/
  | required
  /-- The greatest length. -/
  | maxLength
  /-- The greatest length of a text. -/
  | stringLength
  /-- The value is checked for concurrent changes. -/
  | concurrencyCheck
  /-- The value is the version of the row. -/
  | timestamp
  /-- Nothing that matters here. -/
  | other
deriving DecidableEq, Repr

namespace AnnotationKind

/-- All kinds. -/
def all : List AnnotationKind :=
  [.column, .required, .maxLength, .stringLength, .concurrencyCheck, .timestamp, .other]

/-- The keyword of a kind. -/
def keyword : AnnotationKind → String
  | .column => "column"
  | .required => "required"
  | .maxLength => "max_length"
  | .stringLength => "string_length"
  | .concurrencyCheck => "concurrency_check"
  | .timestamp => "timestamp"
  | .other => "other"

end AnnotationKind

/-- An annotation of a property. -/
structure Annotation where
  /-- What it says. -/
  kind : AnnotationKind
  /-- Its name as declared. -/
  name : String := ""
  /-- Its arguments without names. -/
  arguments : List Value := []
  /-- Its arguments with names. -/
  named : Fields := []

/-- The first argument without a name, if any. -/
def Annotation.firstArgument (a : Annotation) : Value := a.arguments.headD .null

/-- A property of an entity type. -/
structure Property where
  /-- Its name, if it has one. -/
  name : Option String
  /-- Its type. -/
  type : PropertyType
  /-- Its annotations in declaration order. -/
  annotations : List Annotation := []
  /-- Its type as declared. -/
  typeName : String := ""
  /-- Whether everyone may use it. -/
  isPublic : Bool := true
  /-- Whether it belongs to the type and not to its instances. -/
  isStatic : Bool := false

namespace Property

/-- The first annotation of a kind. -/
def findAnnotation (p : Property) (kind : AnnotationKind) : Option Annotation :=
  p.annotations.find? (·.kind = kind)

/-- Whether there is an annotation of a kind. -/
def hasAnnotation (p : Property) (kind : AnnotationKind) : Bool := (p.findAnnotation kind).isSome

/-- Whether the property takes part in mapping: it is public and belongs to the instances. -/
def isMappable (p : Property) : Bool := p.isPublic && !p.isStatic

/-- The type as messages show it: as declared, or else its keyword. -/
def shownType (p : Property) : String := if p.typeName = "" then p.type.keyword else p.typeName

end Property

/-- An entity type, whose properties are mapped. -/
structure EntityType where
  /-- Its name. -/
  name : String
  /-- The namespace it is declared in, if any. -/
  namespaceName : Option String := some ""
  /-- Its properties in declaration order. -/
  properties : List Property := []

/-- A declaration that may ask for a configuration. -/
structure Candidate where
  /-- Its name. -/
  name : String
  /-- The namespace it is declared in, if any. -/
  namespaceName : Option String
  /-- The entity it configures, if that is known. -/
  target : Option EntityType := none
  /-- Whether it carries the marker. -/
  hasMarker : Bool := true

/-- An entry of the list of audit fields. -/
structure AuditField where
  /-- The keyword of its type. -/
  typeKeyword : String
  /-- Its name. -/
  name : String
deriving DecidableEq, Repr

/-- What an artifact is for. -/
inductive ArtifactRole where
  /-- The base that all configurations share. -/
  | sharedBase
  /-- The configuration of one entity. -/
  | entity
deriving DecidableEq, Repr

/-- The keyword of a role. -/
def ArtifactRole.keyword : ArtifactRole → String
  | .sharedBase => "shared_base"
  | .entity => "entity"

/-- A named block of generated text.  The name of the shared base is a setting, so it may be any
key. -/
structure Artifact where
  /-- Its name. -/
  name : Key
  /-- What it is for. -/
  role : ArtifactRole
  /-- The generated text. -/
  text : String
  /-- The entity that it configures. -/
  entityName : Option String := none
deriving DecidableEq, Repr

end EntityMapping
