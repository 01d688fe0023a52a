import EntityMapping.Classification
import EntityMapping.Directive
import EntityMapping.Value.Printer

/-!
# Settings

The settings of a generator.  They come from documents, so each may hold any value; what a value of
the wrong kind does shows only where the setting is used.
-/

namespace EntityMapping

/-- The settings of a generator. -/
structure Settings where
  /-- The folder for generated files. -/
  outputDir : Value := .null
  /-- The namespace of everything generated, in place of that of the declaration. -/
  namespaceName : Value := .null
  /-- The name of the shared base. -/
  baseClassName : Value := .text "AuditEntityConfiguration"
  /-- What is put to the name of an entity to name its configuration. -/
  entitySuffix : Value := .text "CommonConfiguration"
  /-- The name of the file with the list of audit fields. -/
  auditFieldsFile : Value := .text "AuditFields.txt"
  /-- The names of the properties that the shared base configures. -/
  auditFieldNames : Value := .list (auditFieldNames.map .text)
  /-- The greatest length of texts without one. -/
  defaultStringLength : Value := EntityMapping.defaultStringLength
  /-- Whether generated text starts with a comment that says so. -/
  addComments : Value := .bool true
  /-- The folder with templates in place of the bundled ones. -/
  templateDir : Value := .null
  /-- Settings that only some targets know. -/
  custom : Value := .object []

/-- The name of a setting. -/
inductive Setting where
  /-- The folder for generated files. -/
  | outputDir
  /-- The namespace of everything generated. -/
  | namespaceName
  /-- The name of the shared base. -/
  | baseClassName
  /-- What is put to the name of an entity. -/
  | entitySuffix
  /-- The name of the file with the list of audit fields. -/
  | auditFieldsFile
  /-- The names of the properties that the shared base configures. -/
  | auditFieldNames
  /-- The greatest length of texts without one. -/
  | defaultStringLength
  /-- Whether generated text starts with a comment. -/
  | addComments
  /-- The folder with templates. -/
  | templateDir
  /-- Settings that only some targets know. -/
  | custom
deriving DecidableEq, Repr

namespace Setting

/-- All settings, in the order in which they are written. -/
def all : List Setting :=
  [.outputDir, .namespaceName, .baseClassName, .entitySuffix, .auditFieldsFile, .auditFieldNames,
    .defaultStringLength, .addComments, .templateDir, .custom]

/-- The key of a setting. -/
def key : Setting → String
  | .outputDir => "output_dir"
  | .namespaceName => "namespace"
  | .baseClassName => "base_class_name"
  | .entitySuffix => "entity_suffix"
  | .auditFieldsFile => "audit_fields_file"
  | .auditFieldNames => "audit_field_names"
  | .defaultStringLength => "default_string_length"
  | .addComments => "add_comments"
  | .templateDir => "template_dir"
  | .custom => "custom"

/-- The setting with a key. -/
def ofKey? : Key → Option Setting
  | .text s => all.find? (·.key = s)
  | _ => none

end Setting

namespace Settings

/-- The value of a setting. -/
def get (s : Settings) : Setting → Value
  | .outputDir => s.outputDir
  | .namespaceName => s.namespaceName
  | .baseClassName => s.baseClassName
  | .entitySuffix => s.entitySuffix
  | .auditFieldsFile => s.auditFieldsFile
  | .auditFieldNames => s.auditFieldNames
  | .defaultStringLength => s.defaultStringLength
  | .addComments => s.addComments
  | .templateDir => s.templateDir
  | .custom => s.custom

/-- The settings with another value of one. -/
def set (s : Settings) (k : Setting) (v : Value) : Settings :=
  match k with
  | .outputDir => { s with outputDir := v }
  | .namespaceName => { s with namespaceName := v }
  | .baseClassName => { s with baseClassName := v }
  | .entitySuffix => { s with entitySuffix := v }
  | .auditFieldsFile => { s with auditFieldsFile := v }
  | .auditFieldNames => { s with auditFieldNames := v }
  | .defaultStringLength => { s with defaultStringLength := v }
  | .addComments => { s with addComments := v }
  | .templateDir => { s with templateDir := v }
  | .custom => { s with custom := v }

@[simp] theorem get_set_same (s : Settings) (k : Setting) (v : Value) : (s.set k v).get k = v := by
  cases k <;> rfl

theorem get_set_of_ne (s : Settings) {k j : Setting} (v : Value) (h : j ≠ k) :
    (s.set k v).get j = s.get j := by
  cases k <;> cases j <;> first | rfl | exact absurd rfl h

/-- The settings as the fields of an object. -/
def toFields (s : Settings) : Fields := Setting.all.map fun k => (.text k.key, s.get k)

/-- The settings that the fields of an object give; keys that name no setting are passed over. -/
def ofFields (fs : Fields) : Settings :=
  fs.foldl (fun s (k, v) => ((Setting.ofKey? k).map (s.set · v)).getD s) {}

/-- The settings that the fields of an object give; every key has to name a setting. -/
def ofKnownFields (fs : Fields) : Except Fault Settings :=
  match fs.find? fun f => (Setting.ofKey? f.1).isNone with
  | some (k, _) => .error (.noSetting k.toValue.display)
  | none => .ok (ofFields fs)

/-- Whether two settings have equal values. -/
def same (s t : Settings) : Bool := Setting.all.all fun k => (s.get k).same (t.get k)

/-- The name of the configuration of an entity. -/
def entityArtifactName (s : Settings) (entityName : String) : String :=
  entityName ++ s.entitySuffix.display

/-- A custom setting, or what counts if it is not set. -/
def customAt (s : Settings) (key : String) (default : Value) : Except Fault Value :=
  match s.custom with
  | .object fs => .ok ((Fields.at? fs key).getD default)
  | v => .error (.noAttribute v.kind "get")

end Settings

end EntityMapping
