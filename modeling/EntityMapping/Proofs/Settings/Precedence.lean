import EntityMapping.Proofs.Settings.File
import EntityMapping.Proofs.Settings.Layering
import EntityMapping.Proofs.Text.Utf8

/-!
# Which layer counts

A layer can spell a custom setting in two ways: under a top-level key that names no setting, or
inside its custom section.  The layers are united key by key, and only then the top-level keys are
put into the custom section, over its entries.  So the overrides count before the file and the file
before the target, except where the overrides spell a custom setting inside their section and the
file spells it outside (`Shadowed`): there the file counts (`loadSettings_precedence`).

## Main definitions

* `givenBy` — the value that a layer gives a name.
* `Settings.valueOf` — the value that settings have for a name.
* `preferred` — the value of the first layer that gives one.
* `Shadowed` — the file hides what the overrides give.
* `Settings.FromLayers` — settings are what layers come to.
-/

namespace EntityMapping

open Text

/-- The value that a layer gives a name: for a setting what stands under its key, for a custom
setting what stands under its name outside of the custom section, or else inside. -/
def givenBy (layer : Fields) (name : String) : Option Value :=
  match Setting.ofKey? (.text name) with
  | some .custom => Fields.at? (sectionOf layer) name
  | some _ => Fields.at? layer name
  | none => (Fields.at? layer name).or (Fields.at? (sectionOf layer) name)

/-- The custom setting of a name. -/
def Settings.customEntry (s : Settings) (name : String) : Option Value :=
  match s.custom with
  | .object custom => Fields.at? custom name
  | _ => none

/-- The value that settings have for a name: that of the setting, or of the custom setting. -/
def Settings.valueOf (s : Settings) (name : String) : Option Value :=
  match Setting.ofKey? (.text name) with
  | some .custom | none => s.customEntry name
  | some j => some (s.get j)

/-- The value of the overrides, if they give one, else of the file, else of the target, else of
settings that nothing was said of. -/
def preferred (target : String) (file overrides : Fields) (name : String) : Option Value :=
  (givenBy overrides name).or <| (givenBy file name).or <|
    (givenBy (targetDefaults target) name).or <| ({} : Settings).valueOf name

/-- The overrides give a custom setting a value inside their section only, and the file gives it
another one outside of its section. -/
def Shadowed (file overrides : Fields) (name : String) : Prop :=
  Setting.ofKey? (.text name) = none ∧ Fields.at? overrides name = none
    ∧ ∃ v w, Fields.at? (sectionOf overrides) name = some v ∧ Fields.at? file name = some w ∧ w ≠ v

theorem at?_targetDefaults_of_unknown {name : String} (h : Setting.ofKey? (.text name) = none)
    (target : String) : Fields.at? (targetDefaults target) name = none := by
  refine Fields.get?_eq_none_iff.mpr fun hmem => ?_
  have hknown := isSome_ofKey?_of_mem_targetDefaults hmem
  simp [h] at hknown

/-- The settings are what layers come to: a known one is that of the first layer with its key, and
a custom one is that of the first layer with its name outside of the custom sections, or else
inside. -/
structure Settings.FromLayers (s : Settings) (target : String) (file overrides : Fields) : Prop where
  get : ∀ j, j ≠ .custom → s.get j = ((Fields.at? overrides j.key).or ((Fields.at? file j.key).or
    (Fields.at? (targetDefaults target) j.key))).getD (({} : Settings).get j)
  entry : ∀ name, s.customEntry name = (if Setting.ofKey? (.text name) = none then
      (Fields.at? overrides name).or (Fields.at? file name) else none).or
    ((Fields.at? (sectionOf overrides) name).or ((Fields.at? (sectionOf file) name).or
      (Fields.at? (sectionOf (targetDefaults target)) name)))

theorem exists_layeredSettings (target : String) {file overrides : Fields} (hfile : IsLayer file)
    (hoverrides : IsLayer overrides) :
    ∃ s, layeredSettings target file overrides = .ok s ∧ s.FromLayers target file overrides := by
  obtain ⟨r₁, h₁, hlayer₁, htop₁, hsection₁⟩ := exists_overlay (isLayer_targetDefaults target) hfile
  obtain ⟨r₂, h₂, hlayer₂, htop₂, hsection₂⟩ := exists_overlay hlayer₁ hoverrides
  obtain ⟨s, custom, hs, hcustom, hget, hentry⟩ := exists_ofLayers hlayer₂
  have htop {name : String} (hname : Key.text name ≠ customKey) :
      Fields.get? r₂ (.text name) = (Fields.at? overrides name).or ((Fields.at? file name).or
        (Fields.at? (targetDefaults target) name)) := by
    rw [htop₂ name hname, htop₁ name hname]
    rfl
  refine ⟨s, ?_, fun j hj => ?_, fun name => ?_⟩
  · rw [layeredSettings, h₁]
    simp only [bind, Except.bind, h₂, hs]
  · have hname : Key.text j.key ≠ customKey := by
      revert hj
      cases j <;> decide
    rw [hget j hj, htop hname]
  · have hsections : Fields.get? (sectionOf r₂) (.text name) =
        (Fields.at? (sectionOf overrides) name).or ((Fields.at? (sectionOf file) name).or
          (Fields.at? (sectionOf (targetDefaults target)) name)) := by
      rw [hsection₂ name, hsection₁ name]
      rfl
    rw [Settings.customEntry, hcustom]
    dsimp only
    rw [Fields.at?, hentry name, hsections]
    by_cases hunknown : Setting.ofKey? (.text name) = none
    · have hname : Key.text name ≠ customKey := by
        intro he
        rw [he] at hunknown
        cases hunknown
      simp [hunknown, htop hname, at?_targetDefaults_of_unknown hunknown]
    · simp [hunknown]

/-- Of four layers under a name that is no setting: the first with a value counts, unless the second
one gives its value outside of its section and the first one only inside. -/
theorem or_eq_or_iff {o f os fs ds : Option Value} :
    (o.or f).or (os.or (fs.or ds)) = (o.or os).or ((f.or fs).or ds)
      ↔ ¬(o = none ∧ ∃ v w, os = some v ∧ f = some w ∧ w ≠ v) := by
  cases o with
  | some u => simp
  | none =>
    cases os with
    | none => simp [Option.or_assoc]
    | some v => cases f <;> simp

/-- The fields of a settings file are a layer, if their custom section is an object. -/
theorem SettingsQuery.isLayer_of_fileFields {fs : FileSystem} {q : SettingsQuery} {file : Fields}
    (hfile : q.fileFields fs = .ok file)
    (hsection : ∀ v, Fields.get? file customKey = some v → ∃ fields, v = .object fields) :
    IsLayer file := by
  have hdocument := SettingsQuery.isDocument_of_fileFields hfile
  refine ⟨(hdocument.here file rfl).nodup, fun v hv => ?_⟩
  obtain ⟨fields, rfl⟩ := hsection v hv
  have hpart : Value.object fields ∈ (Value.object file).parts :=
    List.mem_map_of_mem (Fields.mem_of_get?_eq_some hv)
  exact ⟨fields, rfl, ((hdocument.inside hpart).here fields rfl).nodup⟩

namespace Settings.FromLayers

variable {s : Settings} {target : String} {file overrides : Fields}

/-- A name that is no setting has the value that is preferred, just if that is not shadowed. -/
theorem valueOf_of_unknown (h : s.FromLayers target file overrides) {name : String}
    (hname : Setting.ofKey? (.text name) = none) :
    (s.valueOf name = preferred target file overrides name ↔ ¬Shadowed file overrides name)
      ∧ (Shadowed file overrides name → s.valueOf name = Fields.at? file name) := by
  have hvalue : s.valueOf name = ((Fields.at? overrides name).or (Fields.at? file name)).or
      ((Fields.at? (sectionOf overrides) name).or ((Fields.at? (sectionOf file) name).or
        (Fields.at? (sectionOf (targetDefaults target)) name))) := by
    rw [Settings.valueOf, hname]
    exact (h.entry name).trans (by rw [if_pos hname])
  have hpreferred : preferred target file overrides name
      = ((Fields.at? overrides name).or (Fields.at? (sectionOf overrides) name)).or
        (((Fields.at? file name).or (Fields.at? (sectionOf file) name)).or
          (Fields.at? (sectionOf (targetDefaults target)) name)) := by
    have hnil : Fields.at? [] name = none := rfl
    simp [preferred, givenBy, hname, at?_targetDefaults_of_unknown hname, Settings.valueOf,
      Settings.customEntry, hnil]
  rw [hvalue, hpreferred, or_eq_or_iff, Shadowed]
  refine ⟨by simp [hname], ?_⟩
  rintro ⟨-, hnone, v, w, hv, hw, -⟩
  simp [hnone, hw]

/-- A setting has the value that is preferred. -/
theorem valueOf_key (h : s.FromLayers target file overrides) (j : Setting) :
    s.valueOf j.key = preferred target file overrides j.key := by
  have hname : Setting.ofKey? (.text j.key) = some j := Setting.ofKey?_eq_some.mpr rfl
  by_cases hj : j = .custom
  · subst hj
    have hnil : Fields.at? [] Setting.custom.key = none := rfl
    have hvalue : s.valueOf Setting.custom.key = s.customEntry Setting.custom.key := by
      rw [Settings.valueOf, hname]
    rw [hvalue, h.entry]
    simp [preferred, givenBy, hname, Settings.valueOf, Settings.customEntry, hnil]
  · have hvalue (t : Settings) : t.valueOf j.key = some (t.get j) := by
      rw [Settings.valueOf, hname]
      cases j <;> first | rfl | exact absurd rfl hj
    have hgiven (layer : Fields) : givenBy layer j.key = Fields.at? layer j.key := by
      rw [givenBy, hname]
      cases j <;> first | rfl | exact absurd rfl hj
    rw [hvalue, h.get j hj, preferred, hvalue, hgiven, hgiven, hgiven]
    cases Fields.at? overrides j.key <;> cases Fields.at? file j.key <;>
      cases Fields.at? (targetDefaults target) j.key <;> rfl

end Settings.FromLayers

/-- The settings for a query with objects for custom sections have the value that is preferred, just
if it is not shadowed; a value that is shadowed gives way to that of the file. -/
theorem loadSettings_precedence {fs : FileSystem} {q : SettingsQuery} {target : String}
    {file overrides : Fields} (htarget : targetKey q.target = .ok target)
    (hfile : q.fileFields fs = .ok file)
    (hsection : ∀ v, Fields.get? file customKey = some v → ∃ fields, v = .object fields)
    (hoverrides : overrideFields q.overrides = .ok overrides) (hlayer : IsLayer overrides) :
    ∃ s, loadSettings fs q = .ok s ∧ ∀ name,
      (s.valueOf name = preferred target file overrides name ↔ ¬Shadowed file overrides name)
        ∧ (Shadowed file overrides name → s.valueOf name = Fields.at? file name) := by
  have hfileLayer := SettingsQuery.isLayer_of_fileFields hfile hsection
  obtain ⟨s, hs, hlayers⟩ := exists_layeredSettings target hfileLayer hlayer
  refine ⟨s, loadSettings_eq_ok.mpr ⟨target, file, overrides, htarget, hfile, hoverrides, hs⟩,
    fun name => ?_⟩
  cases hname : Setting.ofKey? (.text name) with
  | none => exact hlayers.valueOf_of_unknown hname
  | some j =>
    have hnot : ¬Shadowed file overrides name := by
      rintro ⟨hnone, -⟩
      simp [hname] at hnone
    obtain rfl : name = j.key := Key.text.inj (Setting.ofKey?_eq_some.mp hname)
    exact ⟨iff_of_true (hlayers.valueOf_key j) hnot, fun h => absurd h hnot⟩

/-- A working folder with the settings file of an object. -/
def folderHolding (fields : Fields) : FileSystem :=
  ⟨[(["auditgen.json"], .file (encodePieces (Json.documentPieces (.object fields))).1)], []⟩

/-- The settings file of an object that can be printed gives its fields. -/
theorem fileFields_holding {fields : Fields} {q : SettingsQuery}
    (hplain : (Value.object fields).IsPlain)
    (hdepth : (Value.object fields).depth ≤ Json.maxDepth)
    (houtcome : (encodePieces (Json.documentPieces (.object fields))).2 = .ok ())
    (hq : q.file = .path ⟨.here, ["auditgen.json"]⟩) :
    q.fileFields (folderHolding fields) = .ok fields := by
  have hload : loadSettingsFile (folderHolding fields) ⟨.here, ["auditgen.json"]⟩ = .ok fields := by
    obtain ⟨cs, hprints, hoctets⟩ := encodePieces_eq_ok.mp (Prod.ext rfl houtcome)
    refine loadSettingsFile_eq_ok.mpr ⟨by rfl, by rfl, ?_⟩
    exact readDocument_of_prints hplain hdepth hprints (congrArg Except.ok hoctets)
  rw [SettingsQuery.fileFields, hq]
  exact hload

/-- The fields of a settings file with a namespace and a custom setting outside of the section. -/
def regionFile : Fields := [(.text "namespace", .text "Shop.Data"), (.text "region", .int 1)]

/-- A working folder with the settings file. -/
def regionFiles : FileSystem :=
  ⟨[(["auditgen.json"], .file (encodePieces (Json.documentPieces (.object regionFile))).1)], []⟩

/-- Overrides with a namespace and the custom setting inside the section. -/
def regionOverrides : Fields :=
  [(.text "namespace", .text "Shop.Generated"),
    (.text "custom", .object [(.text "region", .int 2)])]

/-- A query with the settings file and the overrides. -/
def regionQuery : SettingsQuery where
  target := .text "csharp"
  overrides := .object regionOverrides
  file := .path ⟨.here, ["auditgen.json"]⟩

theorem fileFields_regionFiles : regionQuery.fileFields regionFiles = .ok regionFile := by
  have hplain : (Value.object regionFile).IsPlain :=
    Value.isPlain_object ⟨by simp [Fields.keys, regionFile], by decide⟩
      (by simp [regionFile, Value.isPlain_text, Value.isPlain_int])
  exact fileFields_holding hplain (by decide) (by rfl) rfl

theorem isLayer_regionOverrides : IsLayer regionOverrides := by
  refine ⟨by decide, fun v hv => ?_⟩
  obtain rfl := Option.some.inj hv
  exact ⟨_, rfl, by decide⟩

theorem loadSettings_precedence_region :
    ∃ s, loadSettings regionFiles regionQuery = .ok s
      ∧ s.valueOf "namespace" = preferred "csharp" regionFile regionOverrides "namespace"
      ∧ s.valueOf "region" = Fields.at? regionFile "region" := by
  have htarget : targetKey regionQuery.target = .ok "csharp" := by rfl
  obtain ⟨s, hs, hvalue⟩ := loadSettings_precedence htarget fileFields_regionFiles
    (by intro v hv; cases hv) rfl isLayer_regionOverrides
  refine ⟨s, hs, (hvalue "namespace").1.mpr ?_, (hvalue "region").2 ?_⟩
  · rintro ⟨hname, -⟩
    cases hname
  · exact ⟨rfl, rfl, .int 2, .int 1, rfl, rfl, by simp⟩

/-- The overrides give the region two inside their section, and the settings have the region one of
the file. -/
theorem loadSettings_shadows_region :
    ∃ s, loadSettings regionFiles regionQuery = .ok s
      ∧ targetKey regionQuery.target = .ok "csharp"
      ∧ regionQuery.fileFields regionFiles = .ok regionFile
      ∧ overrideFields regionQuery.overrides = .ok regionOverrides
      ∧ givenBy regionOverrides "region" = some (.int 2)
      ∧ s.valueOf "region" = some (.int 1) := by
  refine ⟨_, loadSettings_eq_ok.mpr ⟨"csharp", regionFile, regionOverrides, by rfl,
    fileFields_regionFiles, rfl, by rfl⟩, by rfl, fileFields_regionFiles, rfl, rfl, by rfl⟩

end EntityMapping
