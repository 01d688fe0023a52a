import EntityMapping.Generation.Generator

/-!
# The registry of targets

Targets are registered under names, and may have aliases; letter case does not matter.  A name that
is a target is always that target, and an alias counts only for what is no target.  Registering
fails at the first alias that is taken, and keeps what was done up to there.
-/

namespace EntityMapping

open Text

/-- The known targets. -/
structure Registry where
  /-- The targets under their names, in lower case. -/
  targets : List (String × Target) := []
  /-- The names that the aliases stand for; all in lower case. -/
  aliases : List (String × String) := []
deriving DecidableEq, Repr

/-- What is offered for registration. -/
inductive Offer where
  /-- A kind of generator. -/
  | generator (t : Target)
  /-- Something else, as messages show it. -/
  | foreign (shown : String)
deriving DecidableEq, Repr

/-- What a generator is made from. -/
inductive SettingsSource where
  /-- Settings. -/
  | settings (s : Settings)
  /-- A value: overrides, the path of a settings file, or null for the settings of the target. -/
  | value (v : Value)
  /-- The path of a settings file. -/
  | path (p : Path)

/-- A target as listings describe it. -/
structure TargetInfo where
  /-- The name of the target. -/
  name : String
  /-- The name of its kind of generator. -/
  className : String
  /-- What is put to the name of an artifact to name its file. -/
  fileExtension : Value
  /-- Its aliases. -/
  aliases : List String
  /-- Where its templates lie. -/
  templates : String

namespace Registry

/-- The names of the targets, in order. -/
def targetNames (r : Registry) : List String := (r.targets.map (·.1)).mergeSort (· ≤ ·)

/-- Why an alias cannot be given to a target, if it cannot. -/
def aliasConflict? (targets : List (String × Target)) (aliases : List (String × String))
    (key name : String) : Option RegistryError :=
  if Assoc.has (lowered name) targets then some (.aliasIsTarget name)
  else
    match Assoc.get? (lowered name) aliases with
    | some owner => if owner = key then none else some (.aliasTaken name owner)
    | none => none

/-- Gives aliases to a target in order, up to the first that cannot be given; `replace` gives them
in any case.  The name of the target itself is passed over. -/
def addAliases (targets : List (String × Target)) (key : String) (replace : Bool) :
    List String → List (String × String) → Option RegistryError × List (String × String)
  | [], aliases => (none, aliases)
  | name :: r, aliases =>
    if lowered name = key then addAliases targets key replace r aliases
    else
      match if replace then none else aliasConflict? targets aliases key name with
      | some e => (some e, aliases)
      | none => addAliases targets key replace r (Assoc.set (lowered name) key aliases)

/-- Registers what is offered under a name with aliases.  A name that is a target already keeps
that, and nothing happens, unless it is to be replaced. -/
def register (r : Registry) (name : String) (offer : Offer) (aliases : List String)
    (replace : Bool) : Option RegistryError × Registry :=
  match offer with
  | .foreign shown => (some (.notGenerator shown), r)
  | .generator t =>
    let key := lowered name
    if Assoc.has key r.targets ∧ ¬replace then (none, r)
    else
      let targets := Assoc.set key t r.targets
      let (e, aliases) := addAliases targets key replace aliases r.aliases
      (e, ⟨targets, aliases⟩)

/-- Removes a target and its aliases. -/
def unregister (r : Registry) (name : String) : Registry where
  targets := Assoc.erase (lowered name) r.targets
  aliases := r.aliases.filter fun f => f.2 ≠ lowered name

/-- The name of the target that a name or alias stands for. -/
def resolve (r : Registry) (name : String) : Except RegistryError String :=
  let key := lowered name
  if Assoc.has key r.targets then .ok key
  else
    match Assoc.get? key r.aliases with
    | some owner => .ok owner
    | none => .error (.unknownTarget name r.targetNames)

/-- The target that a name or alias stands for, under its name. -/
def find (r : Registry) (name : String) : Except RegistryError (String × Target) := do
  let key ← r.resolve name
  match Assoc.get? key r.targets with
  | some t => return (key, t)
  | none => throw (.unknownTarget name r.targetNames)

/-- The aliases of a target, in order. -/
def aliasesFor (r : Registry) (name : String) : List String :=
  ((r.aliases.filter fun f => f.2 = lowered name).map (·.1)).mergeSort (· ≤ ·)

/-- Whether a name is a target or an alias. -/
def isSupported (r : Registry) (name : String) : Bool :=
  Assoc.has (lowered name) r.targets || Assoc.has (lowered name) r.aliases

/-- The settings of a target that a source gives. -/
def settingsFrom (fs : FileSystem) (target : String) : SettingsSource → Except Failure Settings
  | .settings s => .ok s
  | .path p => loadSettings fs { target := .text target, file := .path p }
  | .value .null => loadSettings fs { target := .text target }
  | .value (.object fields) =>
    loadSettings fs { target := .text target, overrides := .object fields }
  | .value (.text s) => loadSettings fs { target := .text target, file := .value (.text s) }
  | .value v => .error (.registry (.settingsKind v.kind))

/-- Makes a generator for a name or alias. -/
def createGenerator (r : Registry) (fs : FileSystem) (name : String) (source : SettingsSource) :
    Except Failure Generator := do
  let (key, t) ← r.find name
  let s ← settingsFrom fs key source
  match Generator.create fs t s with
  | .ok g => return g
  | .error e => throw (.registry (.notCreated key e.message))

/-- The description of the target that a name or alias stands for. -/
def describe (r : Registry) (fs : FileSystem) (name : String) : Except Failure TargetInfo := do
  let key ← r.resolve name
  let g ← r.createGenerator fs key (.value .null)
  return {
    name := g.target.targetName, className := g.target.className,
    fileExtension := g.fileExtension, aliases := r.aliasesFor key,
    templates := CSharp.templatesPlace }

end Registry

/-- The target that is part of the program. -/
def Target.csharp : Target := { className := "CSharpGenerator", targetName := "csharp" }

/-- The registry with the targets that are part of the program. -/
def Registry.bundled : Registry :=
  (Registry.register {} "csharp" (.generator .csharp) ["cs", "efcore"] false).2

/-- A generator of the target that is part of the program, made without a registry.  It takes only
settings; what counts as false stands for the settings that nobody has changed, and null for those
of the target. -/
def Generator.standard (fs : FileSystem) (source : SettingsSource) : Except Failure Generator := do
  match source with
  | .settings s => Generator.create fs .csharp s
  | .path _ => throw (.fault (.noAttribute "Path" "template_dir"))
  | .value .null => Generator.create fs .csharp (← loadSettings fs { target := .text "csharp" })
  | .value v =>
    if v.truthy then throw (.fault (.noAttribute v.kind "template_dir"))
    else Generator.create fs .csharp {}

end EntityMapping
