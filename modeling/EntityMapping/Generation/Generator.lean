import EntityMapping.AuditList
import EntityMapping.CSharp.Directives
import EntityMapping.CSharp.Templates
import EntityMapping.Settings.Layers
import EntityMapping.Template.Shelf
import EntityMapping.Text.Tidy

/-!
# Generators

A generator is made for a target from settings.  It turns the audit fields into the text of the
shared base, and an entity with its resolved properties into the text of its configuration.
-/

namespace EntityMapping

open Template

/-- A kind of generator. -/
structure Target where
  /-- The name of the kind. -/
  className : String
  /-- The name of the target that its generators report. -/
  targetName : String
  /-- Why a generator of the kind can never be made, if it cannot. -/
  refusal : Option String := none
deriving DecidableEq, Repr

/-- A generator. -/
structure Generator where
  /-- Its kind. -/
  target : Target
  /-- Its settings. -/
  settings : Settings
  /-- What is put to the name of an artifact to name its file. -/
  fileExtension : Value
  /-- Its templates. -/
  engine : Engine
  /-- What was attached to its settings under names that are no settings. -/
  attached : List (String × Value) := []

namespace Generator

/-- The shelf of templates that settings ask for: a folder, or else the bundled ones. -/
def shelfFor (fs : FileSystem) (s : Settings) : Except Failure Shelf := do
  if s.templateDir.truthy then
    let p ← s.templateDir.toPath
    Shelf.ofFolder fs p
  else return .bundled CSharp.bundledTemplates

/-- Makes a generator. -/
def create (fs : FileSystem) (t : Target) (s : Settings) : Except Failure Generator := do
  match t.refusal with
  | some reason => throw (.generator (.refused reason))
  | none =>
    let shelf ← shelfFor fs s
    let extension ← s.customAt "file_suffix" (.text ".g.cs")
    return {
      target := t, settings := s, fileExtension := extension,
      engine := (Engine.mk shelf [.storageName]).addFilter .literal }

/-- The name of the shared base. -/
def baseName (g : Generator) : Value := g.settings.baseClassName

/-- The name of the configuration of an entity. -/
def entityArtifactName (g : Generator) (entityName : String) : String :=
  g.settings.entityArtifactName entityName

/-- The generator with something attached to its settings; a name that is one of a setting sets
that. -/
def attach (g : Generator) (name : String) (v : Value) : Generator :=
  match Setting.ofKey? (.text name) with
  | some k => { g with settings := g.settings.set k v }
  | none => { g with attached := Assoc.set name v g.attached }

/-- The module of directives, as templates see it. -/
def directiveHome : String := "auditgen.codegen.core.rules"

/-- The name of a kind of directive in templates. -/
def memberName : DirectiveKind → String
  | .columnType => "COLUMN_TYPE"
  | .required => "REQUIRED"
  | .maxLength => "MAX_LENGTH"
  | .concurrencyToken => "CONCURRENCY_TOKEN"
  | .rowVersion => "ROW_VERSION"
  | .columnName => "COLUMN_NAME"
  | .other keyword => keyword

/-- The kinds of directives as an enumeration. -/
def directiveKinds : Enumeration where
  home := directiveHome
  name := "DirectiveKind"
  members := DirectiveKind.known.map fun k => (memberName k, k.keyword)

/-- A directive as template data. -/
def directiveDatum (d : Directive) : Datum :=
  let kind := match d.kind with
    | .other keyword => .text keyword
    | k => .member directiveKinds (memberName k) k.keyword
  .record directiveHome "Directive" [] [("kind", kind), ("value", .value d.value)] []

/-- The method of settings that names the configuration of an entity, as templates see it. -/
def namingMethod : String := "entity_artifact_name"

/-- The settings as template data. -/
def settingsDatum (g : Generator) : Datum :=
  .record "auditgen.codegen.core.config" "GeneratorConfig" [namingMethod]
    (Setting.all.map fun k => (k.key, .value (g.settings.get k)))
    (g.attached.map fun (k, v) => (k, .value v))

/-- The variables that every template has. -/
def commonContext (g : Generator) : Context := [
  ("add_comments", .value g.settings.addComments),
  ("base_class", .value g.settings.baseClassName),
  ("config", g.settingsDatum)]

/-- An audit field as template data. -/
def fieldDatum (g : Generator) (f : AuditField) : Except GeneratorError Datum := do
  let directives := auditDirectives f g.settings.defaultStringLength
  let chain ← CSharp.chain directives
  return .object [("name", .text f.name), ("type_keyword", .text f.typeKeyword),
    ("directives", .list (directives.map directiveDatum)), ("chain", .text chain)]

/-- A property as template data. -/
def propertyDatum (p : ResolvedProperty) : Except GeneratorError Datum := do
  let chain ← CSharp.chain p.directives
  return .object [("name", .value (nameValue p.property.name)),
    ("type", .text p.property.type.keyword),
    ("directives", .list (p.directives.map directiveDatum)), ("chain", .text chain)]

/-- The text of the shared base in a namespace. -/
def baseText (g : Generator) (space : Value) (fields : List AuditField) :
    Except Failure String := do
  let data ← liftM (fields.mapM g.fieldDatum)
  let s ← g.engine.render CSharp.baseTemplateName
    (g.commonContext ++ [("namespace", .value space), ("fields", .list data)])
  return Text.tidied s

/-- The further namespaces that a configuration uses: that of the entity and that of the shared
base, without empty ones and without its own, in order. -/
def usings (entitySpace baseSpace space : Value) : Except Fault (List Value) := do
  let other := baseSpace.orElse space
  let _ ← other.toKey
  let wanted (v : Value) : Bool := v.truthy && v.differs space
  let second := if other.same entitySpace then [] else [other]
  match (entitySpace :: second).filter wanted with
  | [.text a, .text b] =>
    return if Text.precedes a b then [.text a, .text b] else [.text b, .text a]
  | [a, b] => throw (.unordered b.kind a.kind)
  | few => return few

/-- The text of the configuration of an entity. -/
def entityText (g : Generator) (entity : EntityType) (space : Value)
    (properties : List ResolvedProperty) (baseSpace : Value) : Except Failure String := do
  let data ← liftM (properties.mapM propertyDatum)
  let entitySpace := nameValue entity.namespaceName
  let used ← usings entitySpace baseSpace space
  match g.attached.lookup namingMethod with
  | some v => throw (.fault (.notCallable v.kind))
  | none => pure ()
  let s ← g.engine.render CSharp.entityTemplateName
    (g.commonContext ++ [
      ("namespace", .value space), ("usings", .value (.list used)),
      ("entity_name", .text entity.name), ("entity_namespace", .value entitySpace),
      ("class_name", .text (g.entityArtifactName entity.name)), ("properties", .list data)])
  return Text.tidied s

end Generator

end EntityMapping
