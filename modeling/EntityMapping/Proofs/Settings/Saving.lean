import EntityMapping.Proofs.Settings.File
import EntityMapping.Proofs.Settings.Layering

/-!
# Settings that were saved

Settings without binary64 numbers that were saved are the fields of their file
(`loadSettingsFile_of_saveSettings`).  Loaded without a target they are the settings themselves;
with a target, its custom section lies under theirs (`layeredSettings_toFields`), which makes no
difference just if they have all its keys (`same_underlaid_iff`).  Settings that were put together
from layers over that target have them, unless a layer puts something else in the place of the
custom section and top-level keys that name no setting make a new one (`KeepsSection`).

## Main definitions

* `Settings.underlaid` — settings with the custom section of a target under theirs.
* `KeepsSection` — what a custom entry that is laid over a section has of it.
* `HasSection`, `IsKnown` — layers whose custom entry is an object, and those that only have
  settings.
-/

namespace EntityMapping

open Text

/-! ### The file -/

theorem Settings.isPlain_toFields {s : Settings} (h : ∀ j, (s.get j).IsPlain) :
    (Value.object s.toFields).IsPlain := by
  refine Value.isPlain_object s.named_toFields fun f hf => ?_
  obtain ⟨j, -, rfl⟩ := List.mem_map.mp hf
  exact h j

theorem Settings.depth_toFields {s : Settings} (h : s.isShallow = true) :
    (Value.object s.toFields).depth ≤ maxSavedDepth + 1 := by
  rw [Value.depth]
  refine Nat.succ_le_succ (Value.depthOfFields_le fun f hf => ?_)
  obtain ⟨j, hj, rfl⟩ := List.mem_map.mp hf
  exact of_decide_eq_true (List.all_eq_true.mp h j hj)

theorem saveSettings_eq_ok {fs fs' : FileSystem} {s : Settings} {p : Path}
    (h : saveSettings fs s p = (fs', .ok ())) :
    s.isShallow = true
      ∧ fs.writeText p (Json.documentPieces (.object s.toFields)) = (fs', .ok ()) := by
  unfold saveSettings at h
  split at h
  · split at h
    · cases h
    · exact ⟨‹_›, h⟩
  · cases h

/-- The file of settings that were saved holds their fields. -/
theorem loadSettingsFile_of_saveSettings {fs fs' : FileSystem} {s : Settings} {p : Path}
    (hplain : ∀ j, (s.get j).IsPlain) (hsuffix : lowered p.suffix = ".json")
    (hsaved : saveSettings fs s p = (fs', .ok ())) :
    loadSettingsFile fs' p = .ok s.toFields := by
  obtain ⟨hshallow, hwrite⟩ := saveSettings_eq_ok hsaved
  obtain ⟨cs, hprints, hwrite⟩ := FileSystem.writeText_eq_ok hwrite
  have hdepth : (Value.object s.toFields).depth ≤ Json.maxDepth :=
    Nat.le_trans (Settings.depth_toFields hshallow) (by decide)
  refine loadSettingsFile_eq_ok.mpr ⟨FileSystem.exists?_of_write hwrite, hsuffix, ?_⟩
  exact readDocument_of_prints (Settings.isPlain_toFields hplain) hdepth hprints
    (FileSystem.read_of_write hwrite)

/-! ### Settings over those of a target -/

/-- Fields that all name settings give settings, and none of them becomes a custom one. -/
theorem Settings.ofLayers_of_known {fs : Fields}
    (h : ∀ k ∈ Fields.keys fs, (Setting.ofKey? k).isSome = true) :
    Settings.ofLayers fs = .ok (Settings.ofFields fs) := by
  have hknown : knownFields fs = fs :=
    List.filter_eq_self.mpr fun f hf => h f.1 (List.mem_map_of_mem hf)
  rw [Settings.ofLayers_eq, hknown, unknownFields_eq_nil h]
  rfl

theorem Settings.mem_keys_toFields {s : Settings} {k : Key} (h : k ∈ Fields.keys s.toFields) :
    (Setting.ofKey? k).isSome = true := by
  obtain ⟨f, hf, rfl⟩ := List.mem_map.mp h
  obtain ⟨j, -, rfl⟩ := List.mem_map.mp hf
  rw [Setting.ofKey?_eq_some.mpr rfl]
  rfl

/-- The settings with the custom section of a target under theirs; anything else than an object in
its place stays. -/
def Settings.underlaid (s : Settings) (target : String) : Settings :=
  match s.custom with
  | .object custom =>
    s.set .custom (.object (Fields.update (sectionOf (targetDefaults target)) custom))
  | _ => s

theorem Settings.toFields_set_custom (s : Settings) (v : Value) :
    (s.set .custom v).toFields = Fields.set s.toFields customKey v := rfl

theorem Settings.set_custom_underlaid (s : Settings) (target : String) :
    s.set .custom (s.underlaid target).custom = s.underlaid target := by
  unfold underlaid
  split <;> rfl

theorem Settings.joinSections_custom (s : Settings) (target : String) :
    joinSections (Fields.get? (targetDefaults target) customKey) s.custom
      = .ok (s.underlaid target).custom := by
  have hsection := exists_section fun v hv =>
    ((isLayer_targetDefaults target).custom v hv).imp fun _ => And.left
  unfold underlaid
  split
  · rename_i custom hcustom
    rw [hcustom, joinSections, hsection]
    rfl
  · rename_i hcustom
    unfold joinSections
    split
    · exact (hcustom _ ‹_›).elim
    · rfl

/-- All settings laid over those of a target count, and the custom sections are united. -/
theorem layeredSettings_toFields (target : String) (s : Settings) :
    layeredSettings target s.toFields [] = .ok (s.underlaid target) := by
  have hnamed := (s.underlaid target).named_toFields
  let r := Fields.update (targetDefaults target) (s.underlaid target).toFields
  have hr : (Fields.keys r).Nodup :=
    Fields.nodup_keys_update _ (isLayer_targetDefaults target).nodup
  have hoverlay : overlay (targetDefaults target) s.toFields = .ok r := by
    have hcustom : Fields.get? s.toFields customKey = some s.custom := s.get?_toFields .custom
    rw [overlay_eq _ s.named_toFields.nodup, hcustom]
    dsimp only
    rw [s.joinSections_custom target, Except.map, ← Settings.toFields_set_custom,
      s.set_custom_underlaid]
  have hknown : ∀ k ∈ Fields.keys r, (Setting.ofKey? k).isSome = true := by
    intro k hk
    rcases (Fields.mem_keys_update hnamed.text).mp hk with hk | hk
    · exact isSome_ofKey?_of_mem_targetDefaults hk
    · exact Settings.mem_keys_toFields hk
  have hsettings : Settings.ofFields r = s.underlaid target := by
    refine Settings.ext_get fun j => ?_
    rw [Settings.get_ofFields hr, Fields.get?_update _ hnamed.nodup, Settings.get?_toFields]
    rfl
  have hempty : overlay r [] = .ok r := rfl
  rw [← hsettings, ← Settings.ofLayers_of_known hknown, layeredSettings, hoverlay]
  simp only [bind, Except.bind, hempty]

/-- The custom section of a target makes no difference just if all its keys are there, or something
else than an object is in its place. -/
theorem Settings.same_underlaid_iff {s : Settings} (hplain : ∀ j, (s.get j).IsPlain)
    (target : String) :
    (s.underlaid target).same s = true ↔ ∀ custom, s.custom = .object custom →
      ∀ k ∈ Fields.keys (sectionOf (targetDefaults target)), k ∈ Fields.keys custom := by
  have hself (j : Setting) : (s.get j).same (s.get j) = true :=
    Value.same_refl (hplain j).isDocument
  have hsame : (s.underlaid target).same s = true
      ↔ (s.underlaid target).custom.same s.custom = true := by
    rw [Settings.same, List.all_eq_true]
    refine ⟨fun h => h .custom (by decide), fun h j _ => ?_⟩
    by_cases hj : j = .custom
    · rw [hj]
      exact h
    · rw [← s.set_custom_underlaid target, Settings.get_set_of_ne _ _ hj]
      exact hself j
  rw [hsame]
  by_cases hobject : ∃ custom, s.custom = .object custom
  · obtain ⟨custom, hcustom⟩ := hobject
    have hunderlaid : (s.underlaid target).custom
        = .object (Fields.update (sectionOf (targetDefaults target)) custom) := by
      rw [Settings.underlaid, hcustom]
      rfl
    have hdocument : (Value.object custom).IsDocument := hcustom ▸ (hplain .custom).isDocument
    rw [hunderlaid, hcustom, Value.same_update_iff (named_section_targetDefaults target) hdocument]
    simp
  · have hunderlaid : s.underlaid target = s := by
      unfold Settings.underlaid
      split
      · exact absurd ⟨_, ‹_›⟩ hobject
      · rfl
    rw [hunderlaid]
    exact ⟨fun _ custom hcustom => absurd ⟨custom, hcustom⟩ hobject, fun _ => hself .custom⟩

/-! ### Settings that were put together from layers -/

/-- A custom entry keeps the keys of a section: it is an object with all of them or no object at
all, and there is no entry only if the section has no keys. -/
structure KeepsSection (sec : Fields) (entry : Option Value) : Prop where
  absent (h : entry = none) : sec = []
  object {fields : Fields} (h : entry = some (.object fields)) :
    ∀ k ∈ Fields.keys sec, k ∈ Fields.keys fields

theorem keepsSection_targetDefaults (target : String) :
    KeepsSection (sectionOf (targetDefaults target))
      (Fields.get? (targetDefaults target) customKey) := by
  constructor
  · intro h
    rw [sectionOf, h]
  · intro fields h k hk
    rwa [sectionOf, h] at hk

/-- A custom entry that is laid over one that keeps a section keeps it too. -/
theorem KeepsSection.of_joinSections {sec : Fields} {entry : Option Value} {v c : Value}
    (h : KeepsSection sec entry) (hjoin : joinSections entry v = .ok c) :
    KeepsSection sec (some c) := by
  constructor
  · intro hnone
    cases hnone
  · intro fields hfields k hk
    obtain rfl := Option.some.inj hfields
    cases v with
    | object new =>
      cases entry with
      | none =>
        rw [h.absent rfl] at hk
        cases hk
      | some below =>
        cases below with
        | object old =>
          obtain rfl := Value.object.inj (Except.ok.inj hjoin)
          exact Fields.mem_keys_update_of_mem _ (h.object rfl k hk)
        | _ => cases hjoin
    | _ => cases hjoin

/-- Laying a field over a layer sets its key, the custom one to what the entries join to. -/
theorem overlayField_eq_ok {base r : Fields} {k : Key} {v : Value}
    (h : overlayField base k v = .ok r) :
    ∃ c, r = Fields.set base k c
      ∧ (k = customKey → joinSections (Fields.get? base customKey) v = .ok c) := by
  by_cases hk : k = customKey
  · subst hk
    rw [overlayField_customKey] at h
    cases hjoin : joinSections (Fields.get? base customKey) v with
    | error e =>
      rw [hjoin] at h
      cases h
    | ok c =>
      rw [hjoin] at h
      exact ⟨c, (Except.ok.inj h).symm, fun _ => rfl⟩
  · rw [overlayField_of_ne v hk] at h
    exact ⟨v, (Except.ok.inj h).symm, fun he => absurd he hk⟩

/-- What laying each field over a layer keeps, laying them all over it keeps. -/
theorem overlay_keeps {P : Fields → Prop} {base layer r : Fields} (hbase : P base)
    (hstep : ∀ acc k v c, (k, v) ∈ layer → P acc →
      (k = customKey → joinSections (Fields.get? acc customKey) v = .ok c) → P (Fields.set acc k c))
    (h : overlay base layer = .ok r) : P r := by
  induction layer generalizing base with
  | nil =>
    obtain rfl := Except.ok.inj h
    exact hbase
  | cons f rest ih =>
    obtain ⟨k, v⟩ := f
    obtain ⟨acc, hacc, hrest⟩ := bind_eq_ok.mp h
    obtain ⟨c, rfl, hc⟩ := overlayField_eq_ok hacc
    exact ih (hstep base k v c List.mem_cons_self hbase hc)
      (fun acc k v c hmem => hstep acc k v c (List.mem_cons_of_mem _ hmem)) hrest

theorem get?_set_customKey (fs : Fields) (k : Key) (c : Value) :
    Fields.get? (Fields.set fs k c) customKey
      = if k = customKey then some c else Fields.get? fs customKey :=
  Fields.get?_set fs k c Setting.custom.key

/-- A layer that is laid over another one keeps what that has of a section. -/
theorem KeepsSection.of_overlay {sec base layer r : Fields}
    (hbase : KeepsSection sec (Fields.get? base customKey)) (h : overlay base layer = .ok r) :
    KeepsSection sec (Fields.get? r customKey) := by
  refine overlay_keeps (P := fun fs => KeepsSection sec (Fields.get? fs customKey)) hbase
    (fun acc k v c _ hacc hc => ?_) h
  rw [get?_set_customKey]
  split
  · exact hacc.of_joinSections (hc ‹_›)
  · exact hacc

/-- The custom entry of a layer, if it has one, is an object. -/
def HasSection (layer : Fields) : Prop :=
  ∀ v, (customKey, v) ∈ layer → ∃ fields, v = .object fields

/-- All keys of a layer name settings. -/
def IsKnown (layer : Fields) : Prop := ∀ k ∈ Fields.keys layer, (Setting.ofKey? k).isSome = true

theorem isObject_of_overlay {base layer r : Fields}
    (hbase : ∀ v, Fields.get? base customKey = some v → ∃ fields, v = .object fields)
    (hlayer : HasSection layer) (h : overlay base layer = .ok r) :
    ∀ v, Fields.get? r customKey = some v → ∃ fields, v = .object fields := by
  refine overlay_keeps (P := fun fs => ∀ v, Fields.get? fs customKey = some v →
    ∃ fields, v = .object fields) hbase (fun acc k v c hmem hacc hc => ?_) h
  rw [get?_set_customKey]
  split
  · rename_i hk
    subst hk
    obtain ⟨new, rfl⟩ := hlayer v hmem
    have hjoin := hc rfl
    rw [joinSections] at hjoin
    split at hjoin
    · obtain rfl := Except.ok.inj hjoin
      exact fun w hw => ⟨_, (Option.some.inj hw).symm⟩
    · cases hjoin
  · exact hacc

theorem IsKnown.of_overlay {base layer r : Fields} (hbase : IsKnown base) (hlayer : IsKnown layer)
    (h : overlay base layer = .ok r) : IsKnown r := by
  refine overlay_keeps hbase (fun acc k v c hmem hacc _ => ?_) h
  rcases Fields.keys_set acc k c with hkeys | ⟨hkeys, -⟩
  · rw [IsKnown, hkeys]
    exact hacc
  · rw [IsKnown, hkeys]
    intro j hj
    rcases List.mem_append.mp hj with hj | hj
    · exact hacc j hj
    · rw [List.mem_singleton.mp hj]
      exact hlayer k (List.mem_map_of_mem hmem)

theorem nodup_keys_of_overlay {base layer r : Fields} (hbase : (Fields.keys base).Nodup)
    (h : overlay base layer = .ok r) : (Fields.keys r).Nodup :=
  overlay_keeps (P := fun fs => (Fields.keys fs).Nodup) hbase
    (fun _ k _ c _ hacc _ => Fields.nodup_keys_set k c hacc) h

/-- Settings of a layer have what its custom entry has of a section, if that is an object or all
keys of the layer name settings. -/
theorem KeepsSection.of_ofLayers {sec r : Fields} {s : Settings}
    (h : KeepsSection sec (Fields.get? r customKey)) (hnodup : (Fields.keys r).Nodup)
    (hr : (∀ v, Fields.get? r customKey = some v → ∃ fields, v = .object fields) ∨ IsKnown r)
    (hs : Settings.ofLayers r = .ok s) {custom : Fields} (hcustom : s.custom = .object custom) :
    ∀ k ∈ Fields.keys sec, k ∈ Fields.keys custom := by
  rw [Settings.ofLayers_eq] at hs
  cases hget : Fields.get? r customKey with
  | none =>
    rw [h.absent hget]
    exact fun k hk => nomatch hk
  | some v =>
    rw [hget] at hs
    split_ifs at hs with hempty
    · obtain rfl := Except.ok.inj hs
      have hv : v = .object custom := by
        have hvalue := Settings.get_ofFields (nodup_keys_knownFields hnodup) .custom
        rw [get?_knownFields, ← customKey, hget] at hvalue
        exact hvalue.symm.trans hcustom
      exact h.object (hv ▸ hget)
    · -- The unknown fields join the section only where it is an object.
      obtain ⟨fields, rfl⟩ : ∃ fields, v = .object fields := by
        refine hr.elim (fun hobject => hobject v hget) fun hall => absurd ?_ hempty
        rw [unknownFields_eq_nil hall]
        rfl
      obtain rfl := Except.ok.inj hs
      rw [Settings.set] at hcustom
      obtain rfl := Value.object.inj hcustom
      exact fun k hk => Fields.mem_keys_update_of_mem _ (h.object hget k hk)

/-- Settings that were put together from layers have the keys of the target's custom section, if the
layers only have objects for custom sections or only name settings. -/
theorem mem_keys_custom_of_layeredSettings {target : String} {file overrides : Fields}
    {s : Settings} (hs : layeredSettings target file overrides = .ok s)
    (hlayers : HasSection file ∧ HasSection overrides ∨ IsKnown file ∧ IsKnown overrides)
    {custom : Fields} (hcustom : s.custom = .object custom) :
    ∀ k ∈ Fields.keys (sectionOf (targetDefaults target)), k ∈ Fields.keys custom := by
  obtain ⟨r₁, h₁, hs⟩ := bind_eq_ok.mp hs
  obtain ⟨r₂, h₂, hs⟩ := bind_eq_ok.mp hs
  have hdefaults := isLayer_targetDefaults target
  have hkeeps := ((keepsSection_targetDefaults target).of_overlay h₁).of_overlay h₂
  have hnodup := nodup_keys_of_overlay (nodup_keys_of_overlay hdefaults.nodup h₁) h₂
  refine hkeeps.of_ofLayers hnodup ?_ hs hcustom
  rcases hlayers with ⟨hfile, hoverrides⟩ | ⟨hfile, hoverrides⟩
  · refine Or.inl (isObject_of_overlay (isObject_of_overlay ?_ hfile h₁) hoverrides h₂)
    exact fun v hv => (hdefaults.custom v hv).imp fun _ => And.left
  · have hknown : IsKnown (targetDefaults target) := fun k hk =>
      isSome_ofKey?_of_mem_targetDefaults hk
    exact Or.inr ((hknown.of_overlay hfile h₁).of_overlay hoverrides h₂)

/-! ### Loading what was saved -/

/-- Settings that were saved are loaded with the custom section of the target under theirs. -/
theorem loadSettings_underlaid {fs fs' : FileSystem} {s : Settings} {p : Path} {file : FileChoice}
    (hplain : ∀ j, (s.get j).IsPlain) (hsuffix : lowered p.suffix = ".json")
    (hfile : file.path? = .ok (some p)) (hsaved : saveSettings fs s p = (fs', .ok ()))
    {target : Value} {name : String} (htarget : targetKey target = .ok name) :
    loadSettings fs' { target, file } = .ok (s.underlaid name) := by
  have hfields : SettingsQuery.fileFields fs' { target, file } = .ok s.toFields := by
    rw [SettingsQuery.fileFields, hfile]
    exact loadSettingsFile_of_saveSettings hplain hsuffix hsaved
  exact loadSettings_eq_ok.mpr
    ⟨name, s.toFields, [], htarget, hfields, rfl, layeredSettings_toFields name s⟩

theorem Settings.underlaid_of_section_nil {s : Settings} (hplain : ∀ j, (s.get j).IsPlain)
    {target : String} (h : sectionOf (targetDefaults target) = []) : s.underlaid target = s := by
  unfold underlaid
  split
  · rename_i custom hcustom
    have hcustomPlain : (Value.object custom).IsPlain := hcustom ▸ hplain .custom
    rw [h, Fields.update_nil_of_named (hcustomPlain.here.2 _ rfl), ← hcustom]
    rfl
  · rfl

/-- Settings that were saved and loaded again without a target are as they were.  If they had been
loaded for a query, then loading the file for the target of that query gives equal settings just if
theirs have all keys of the target's custom section or something else than an object in its place;
they do if the custom entries of all layers of that query are objects, or if the layers have no
top-level keys but settings. -/
theorem loadSettings_of_saveSettings {fs fs' : FileSystem} {s : Settings} {p : Path}
    {file : FileChoice} (hplain : ∀ j, (s.get j).IsPlain) (hsuffix : lowered p.suffix = ".json")
    (hfile : file.path? = .ok (some p)) (hsaved : saveSettings fs s p = (fs', .ok ())) :
    (loadSettings fs' { file } = .ok s ∧ s.same s = true)
      ∧ ∀ (fs₀ : FileSystem) (q : SettingsQuery), loadSettings fs₀ q = .ok s →
        ∃ s' target layer overrides, loadSettings fs' { target := q.target, file } = .ok s'
          ∧ targetKey q.target = .ok target ∧ q.fileFields fs₀ = .ok layer
          ∧ overrideFields q.overrides = .ok overrides
          ∧ (s'.same s = true ↔ ∀ custom, s.custom = .object custom →
            ∀ k ∈ Fields.keys (sectionOf (targetDefaults target)), k ∈ Fields.keys custom)
          ∧ (HasSection layer ∧ HasSection overrides ∨ IsKnown layer ∧ IsKnown overrides →
            s'.same s = true) := by
  have hwithout : s.underlaid "" = s := Settings.underlaid_of_section_nil hplain rfl
  refine ⟨⟨?_, ?_⟩, fun fs₀ q hq => ?_⟩
  · rw [loadSettings_underlaid hplain hsuffix hfile hsaved rfl, hwithout]
  · have hsame := (Settings.same_underlaid_iff hplain "").mpr fun _ _ k hk => nomatch hk
    rwa [hwithout] at hsame
  · obtain ⟨target, layer, overrides, htarget, hlayer, hoverrides, hs⟩ := loadSettings_eq_ok.mp hq
    have hiff := Settings.same_underlaid_iff hplain target
    refine ⟨s.underlaid target, target, layer, overrides,
      loadSettings_underlaid hplain hsuffix hfile hsaved htarget, htarget, hlayer, hoverrides, hiff,
      fun hlayers => hiff.mpr fun custom hcustom => ?_⟩
    exact mem_keys_custom_of_layeredSettings hs hlayers hcustom

/-- The path of a settings file in an empty working folder. -/
def savedPath : Path := ⟨.here, ["auditgen.json"]⟩

/-- The files after settings were saved in an empty working folder. -/
def savedFiles (s : Settings) : FileSystem := (saveSettings ⟨[], []⟩ s savedPath).1

/-- A query with a namespace and a custom setting. -/
def shopQuery : SettingsQuery where
  target := .text "csharp"
  overrides := .object [(.text "namespace", .text "Shop.Data"),
    (.text "custom", .object [(.text "regions", .list [.int 1, .null])])]

/-- The settings for the query with a namespace and a custom setting. -/
def shopSettings : Settings where
  namespaceName := .text "Shop.Data"
  custom := .object [(.text "file_suffix", .text ".g.cs"),
    (.text "builder_type", .text "EntityTypeBuilder"), (.text "regions", .list [.int 1, .null])]

/-- Settings with values of documents for the namespace and the custom section only. -/
theorem isPlain_get {namespaceName custom : Value} (hspace : namespaceName.IsPlain)
    (hcustom : custom.IsPlain) (j : Setting) :
    (({ namespaceName, custom } : Settings).get j).IsPlain := by
  cases j with
  | outputDir => exact Value.isPlain_null
  | namespaceName => exact hspace
  | baseClassName => exact Value.isPlain_text _
  | entitySuffix => exact Value.isPlain_text _
  | auditFieldsFile => exact Value.isPlain_text _
  | auditFieldNames =>
    refine Value.isPlain_list fun v hv => ?_
    obtain ⟨t, -, rfl⟩ := List.mem_map.mp hv
    exact Value.isPlain_text t
  | defaultStringLength => exact Value.isPlain_int 255
  | addComments => exact Value.isPlain_bool true
  | templateDir => exact Value.isPlain_null
  | custom => exact hcustom

theorem loadSettings_of_saveSettings_shop :
    loadSettings (savedFiles shopSettings) { file := .path savedPath } = .ok shopSettings
      ∧ ∃ s', loadSettings (savedFiles shopSettings)
          { target := shopQuery.target, file := .path savedPath } = .ok s'
        ∧ s'.same shopSettings = true := by
  have hregions : (Value.list [.int 1, .null]).IsPlain :=
    Value.isPlain_list (by simp [Value.isPlain_int, Value.isPlain_null])
  have hcustom : (shopSettings.get .custom).IsPlain :=
    Value.isPlain_object ⟨by simp [Fields.keys], by decide⟩ (by simp [Value.isPlain_text, hregions])
  have hsaved : saveSettings ⟨[], []⟩ shopSettings savedPath = (savedFiles shopSettings, .ok ()) :=
    Prod.ext rfl (by rfl)
  have hquery : loadSettings ⟨[], []⟩ shopQuery = .ok shopSettings :=
    loadSettings_eq_ok.mpr ⟨"csharp", [], _, by rfl, rfl, rfl, by rfl⟩
  have hpath : (FileChoice.path savedPath).path? = .ok (some savedPath) := rfl
  obtain ⟨⟨hwithout, -⟩, hwith⟩ := loadSettings_of_saveSettings
    (isPlain_get (Value.isPlain_text "Shop.Data") hcustom) (by rfl) hpath hsaved
  obtain ⟨s', target, layer, overrides, hs', htarget, hlayer, hoverrides, hiff, -⟩ :=
    hwith ⟨[], []⟩ shopQuery hquery
  refine ⟨hwithout, s', hs', hiff.mpr fun custom hobject => ?_⟩
  obtain rfl := Except.ok.inj htarget
  obtain rfl := Value.object.inj hobject
  decide

/-- A query that puts a list in the place of the custom section and has a top-level key that is no
setting. -/
def replacedQuery : SettingsQuery where
  target := .text "csharp"
  overrides := .object [(.text "custom", .list []), (.text "extra", .int 1)]

/-- The settings for the query that puts a list in the place of the custom section. -/
def replacedSettings : Settings where
  custom := .object [(.text "extra", .int 1)]

/-- The custom section of the target, which was replaced, is back when the settings that were saved
are loaded for the target again. -/
theorem loadSettings_restores_section :
    loadSettings ⟨[], []⟩ replacedQuery = .ok replacedSettings
      ∧ (∀ j, (replacedSettings.get j).IsPlain)
      ∧ saveSettings ⟨[], []⟩ replacedSettings savedPath = (savedFiles replacedSettings, .ok ())
      ∧ lowered savedPath.suffix = ".json"
      ∧ ∃ s', loadSettings (savedFiles replacedSettings)
          { target := replacedQuery.target, file := .path savedPath } = .ok s'
        ∧ s'.same replacedSettings = false := by
  have hcustom : (replacedSettings.get .custom).IsPlain :=
    Value.isPlain_object ⟨by simp [Fields.keys], by decide⟩ (by simp [Value.isPlain_int])
  have hplain : ∀ j, (replacedSettings.get j).IsPlain := isPlain_get Value.isPlain_null hcustom
  have hsaved : saveSettings ⟨[], []⟩ replacedSettings savedPath
      = (savedFiles replacedSettings, .ok ()) := Prod.ext rfl (by rfl)
  have hpath : (FileChoice.path savedPath).path? = .ok (some savedPath) := rfl
  have hquery : loadSettings ⟨[], []⟩ replacedQuery = .ok replacedSettings :=
    loadSettings_eq_ok.mpr ⟨"csharp", [], _, by rfl, rfl, rfl, by rfl⟩
  have hsuffix : lowered savedPath.suffix = ".json" := by rfl
  refine ⟨hquery, hplain, hsaved, hsuffix, replacedSettings.underlaid "csharp",
    loadSettings_underlaid hplain hsuffix hpath hsaved (by rfl), ?_⟩
  rw [Bool.eq_false_iff, ne_eq, Settings.same_underlaid_iff hplain]
  intro hkeys
  exact absurd (hkeys _ rfl (.text "file_suffix") (by decide)) (by decide)

end EntityMapping
