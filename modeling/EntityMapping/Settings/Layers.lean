import EntityMapping.Files.Document
import EntityMapping.Files.Writing
import EntityMapping.Json.Writer
import EntityMapping.Settings.Basic

/-!
# Layers of settings

Settings are laid over each other: those that belong to the target, those of a settings file, and
overrides.  A later layer replaces what an earlier one says, except that the sections of custom
settings are united.  Keys that name no setting become custom settings at the end.
-/

namespace EntityMapping

open Text

/-- The settings that belong to a target. -/
def targetDefaults (target : String) : Fields :=
  if target = "csharp" then
    [(.text "base_class_name", .text "AuditEntityConfiguration"),
      (.text "entity_suffix", .text "CommonConfiguration"),
      (.text "audit_fields_file", .text "AuditFields.txt"),
      (.text "add_comments", .bool true),
      (.text "custom", .object
        [(.text "file_suffix", .text ".g.cs"), (.text "builder_type", .text "EntityTypeBuilder")])]
  else []

/-- The targets that have settings of their own. -/
def configuredTargets : List String := ["csharp"]

/-- The key of the section of custom settings. -/
def customKey : Key := .text Setting.custom.key

/-- Lays one field over a layer. -/
def overlayField (base : Fields) (k : Key) (v : Value) : Except Fault Fields :=
  if k.same customKey then
    match v with
    | .object new =>
      match (Fields.get? base customKey).getD (.object []) with
      | .object old => .ok (Fields.set base customKey (.object (Fields.update old new)))
      | w => .error (.noAttribute w.kind "update")
    | _ => .ok (Fields.set base k v)
  else .ok (Fields.set base k v)

/-- Lays one layer over another. -/
def overlay (base layer : Fields) : Except Fault Fields :=
  layer.foldlM (fun acc (k, v) => overlayField acc k v) base

/-- The settings that layers laid over each other give. -/
def Settings.ofLayers (fs : Fields) : Except Fault Settings :=
  let known := fs.filter fun f => (Setting.ofKey? f.1).isSome
  let unknown := fs.filter fun f => (Setting.ofKey? f.1).isNone
  if unknown.isEmpty then .ok (Settings.ofFields known)
  else
    match ((Fields.get? known customKey).getD (.object [])).toFields with
    | .ok custom =>
      .ok ((Settings.ofFields known).set .custom (.object (Fields.update custom unknown)))
    | .error e => .error e

/-- The settings of a target with a file and overrides laid over. -/
def layeredSettings (target : String) (file overrides : Fields) : Except Fault Settings := do
  let base ← overlay (targetDefaults target) file
  let base ← overlay base overrides
  Settings.ofLayers base

/-- The fields in a settings file. -/
def loadSettingsFile (fs : FileSystem) (p : Path) : Except Failure Fields := do
  if !(← fs.exists? p) then throw (.settings (.notFound p))
  if lowered p.suffix ≠ ".json" then throw (.settings (.notJson p))
  match readDocument fs p with
  | .ok (.object fields) => return fields
  | .ok _ => throw (.settings (.notObject p))
  | .error (.malformed problem) => throw (.settings (.malformed p problem))
  | .error (.file (.system e q)) => throw (.settings (.unreadable p (.system e q)))
  | .error (.file e) => throw (.file e)
  | .error (.undecodable e) => throw (.undecodable e)
  | .error (.unfit e) => throw (.fault e)

/-- Where a settings file is named: by a value, or by a path. -/
inductive FileChoice where
  /-- A value that has to be the text of a path; one that counts as false names no file. -/
  | value (v : Value)
  /-- A path. -/
  | path (p : Path)

/-- The path of the settings file, if one is named. -/
def FileChoice.path? : FileChoice → Except Fault (Option Path)
  | .path p => .ok (some p)
  | .value v => if v.truthy then v.toPath.map some else .ok none

/-- The name of a target as a value gives it. -/
def targetKey (target : Value) : Except Fault String :=
  match target with
  | .text s => .ok (lowered s)
  | v => if v.truthy then .error (.noAttribute v.kind "lower") else .ok ""

/-- The fields of overrides; what counts as false has none. -/
def overrideFields (v : Value) : Except Fault Fields :=
  match v with
  | .object fields => .ok fields
  | v => if v.truthy then .error (.noAttribute v.kind "items") else .ok []

/-- What is asked of the settings. -/
structure SettingsQuery where
  /-- The target. -/
  target : Value := .null
  /-- The overrides. -/
  overrides : Value := .null
  /-- The settings file. -/
  file : FileChoice := .value .null

/-- The settings for a query. -/
def loadSettings (fs : FileSystem) (q : SettingsQuery) : Except Failure Settings := do
  let target ← targetKey q.target
  let file ← match ← q.file.path? with
    | some p => loadSettingsFile fs p
    | none => pure []
  let overrides ← overrideFields q.overrides
  layeredSettings target file overrides

/-- The greatest depth of a setting that can be written. -/
def maxSavedDepth : Nat := 495

/-- Whether all settings can be written. -/
def Settings.isShallow (s : Settings) : Bool :=
  Setting.all.all fun k => (s.get k).depth ≤ maxSavedDepth

/-- Writes settings to a file: the file system afterwards, and the failure if there was one. -/
def saveSettings (fs : FileSystem) (s : Settings) (p : Path) :
    FileSystem × Except Failure Unit :=
  if s.isShallow then
    match fs.writeText p (Json.documentPieces (.object s.toFields)) with
    | (fs, .error (.file (.system e q))) => (fs, .error (.settings (.unwritable p (.system e q))))
    | other => other
  else (fs, .error (.fault .copiedTooDeep))

end EntityMapping
