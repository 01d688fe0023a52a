import EntityMapping.Proofs.Settings.Precedence

/-!
# Layers may be united before

Overrides may be laid over the settings file first, and then both at once over the settings of the
target, also where all three have a custom section (`laidOver_assoc`).  The settings come out the
same, with the entries of their custom section in the same order (`loadSettings_united`): keys of a
layer below keep their places, inside the custom section as outside, and the keys that name no
setting are put into the section only at the end.

The keys of a settings file are texts.  Overrides may have other keys too, as long as no two of them
are the same key, and so may their custom section.

## Main definitions

* `IsDistinctLayer` — objects no two of whose keys are the same, with such a custom section.
* `IsLayerWithin` — layers with keys among given ones.
* `joinedTo` — a layer with its custom section joined to the one below.
* `laidOver` — what a layer laid over another one comes to.

## Main results

* `overlay_eq_laidOver` — the evaluator lays over just that.
* `laidOver_assoc` — laying over is associative, as to the order of the fields too.
* `loadSettings_united` — settings for a query, and for one with the united overrides.
-/

namespace EntityMapping

/-- A layer no two of whose keys are the same, and whose custom section, if there is one, is such
an object too. -/
structure IsDistinctLayer (layer : Fields) : Prop where
  distinct : Fields.Distinct layer
  custom : ∀ v, Fields.get? layer customKey = some v →
    ∃ fields, v = .object fields ∧ Fields.Distinct fields

/-- A layer with all keys among given ones, and those of its custom section among other given
ones. -/
structure IsLayerWithin (T U : Key → Prop) (layer : Fields) : Prop extends IsLayer layer where
  within : Fields.Within T layer
  sectionWithin : Fields.Within U (sectionOf layer)

variable {T U : Key → Prop} {layer : Fields}

namespace IsDistinctLayer

theorem isLayer (h : IsDistinctLayer layer) : IsLayer layer where
  nodup := h.distinct.nodup
  custom v hv := (h.custom v hv).imp fun _ hfields => ⟨hfields.1, hfields.2.nodup⟩

theorem distinct_section (h : IsDistinctLayer layer) : Fields.Distinct (sectionOf layer) := by
  unfold sectionOf
  split
  · obtain ⟨fields, he, hdistinct⟩ := h.custom _ ‹_›
    obtain rfl := Value.object.inj he
    exact hdistinct
  · exact List.Pairwise.nil

/-- Such a layer has its keys among texts and further keys, no two of which are the same. -/
theorem exists_isLayerWithin (h : IsDistinctLayer layer) :
    ∃ T U, Key.Discrete T ∧ Key.Discrete U ∧ IsLayerWithin T U layer :=
  ⟨_, _, h.distinct.discrete, h.distinct_section.discrete, h.isLayer, fun _ => Or.inr,
    fun _ => Or.inr⟩

end IsDistinctLayer

namespace IsLayer

/-- Where all keys are texts, they are among any given ones. -/
theorem isLayerWithin (h : IsLayer layer) (hT : Key.Discrete T) (hU : Key.Discrete U)
    (hlayer : Fields.Named layer) (hsection : Fields.Named (sectionOf layer)) :
    IsLayerWithin T U layer :=
  ⟨h, hlayer.within hT, hsection.within hU⟩

end IsLayer

theorem named_section_of_isDocument (h : (Value.object layer).IsDocument) :
    Fields.Named (sectionOf layer) := by
  unfold sectionOf
  split
  · rename_i fields hget
    have hpart : Value.object fields ∈ (Value.object layer).parts :=
      List.mem_map_of_mem (Fields.mem_of_get?_eq_some hget)
    exact (h.inside hpart).here fields rfl
  · exact Fields.named_nil

theorem isLayerWithin_targetDefaults (hT : Key.Discrete T) (hU : Key.Discrete U) (target : String) :
    IsLayerWithin T U (targetDefaults target) :=
  (isLayer_targetDefaults target).isLayerWithin hT hU (named_targetDefaults target)
    (named_section_targetDefaults target)

/-! ### One layer over another -/

/-- A layer with its custom section, if it has one, joined to the section of the layer below. -/
def joinedTo (base layer : Fields) : Fields :=
  match Fields.get? layer customKey with
  | some _ => Fields.set layer customKey (.object (Fields.update (sectionOf base) (sectionOf layer)))
  | none => layer

/-- The fields of a layer with another one laid over. -/
def laidOver (base layer : Fields) : Fields := Fields.update base (joinedTo base layer)

section

variable {base file overrides : Fields}

theorem joinedTo_of_none (base : Fields) (h : Fields.get? layer customKey = none) :
    joinedTo base layer = layer := by
  rw [joinedTo, h]

theorem joinedTo_of_some (base : Fields) {v : Value} (h : Fields.get? layer customKey = some v) :
    joinedTo base layer
      = Fields.set layer customKey
          (.object (Fields.update (sectionOf base) (sectionOf layer))) := by
  rw [joinedTo, h]

theorem nodup_keys_joinedTo (base : Fields) (h : (Fields.keys layer).Nodup) :
    (Fields.keys (joinedTo base layer)).Nodup := by
  unfold joinedTo
  split
  · exact Fields.nodup_keys_set _ _ h
  · exact h

theorem within_joinedTo (hT : Key.Discrete T) (base : Fields) (h : Fields.Within T layer) :
    Fields.Within T (joinedTo base layer) := by
  unfold joinedTo
  split
  · exact h.set (hT.text _) _
  · exact h

/-- Laying over fails for no layers whose custom sections are objects. -/
theorem overlay_eq_laidOver (hbase : IsLayer base) (hlayer : IsLayer layer) :
    overlay base layer = .ok (laidOver base layer) := by
  have hsection := exists_section fun v hv => (hbase.custom v hv).imp fun _ => And.left
  rw [overlay_eq base hlayer.nodup, laidOver]
  cases hget : Fields.get? layer customKey with
  | none => rw [joinedTo_of_none base hget]
  | some v =>
    obtain ⟨new, rfl, -⟩ := hlayer.custom v hget
    have hnew : sectionOf layer = new := by rw [sectionOf, hget]
    rw [joinedTo_of_some base hget, hnew]
    simp only [joinSections, hsection, Except.map]

/-- The custom entry is joined if the upper layer has one, and else that of the lower layer. -/
theorem get?_customKey_laidOver (base : Fields) (hlayer : (Fields.keys layer).Nodup) :
    Fields.get? (laidOver base layer) customKey
      = match Fields.get? layer customKey with
        | some _ => some (.object (Fields.update (sectionOf base) (sectionOf layer)))
        | none => Fields.get? base customKey := by
  have hupdate :=
    Fields.get?_update base (nodup_keys_joinedTo base hlayer) Setting.custom.key
  rw [laidOver, customKey, hupdate, ← customKey]
  cases hget : Fields.get? layer customKey with
  | none => rw [joinedTo_of_none base hget, hget, Option.none_or]
  | some v =>
    rw [joinedTo_of_some base hget, customKey, Fields.get?_set, if_pos rfl, Option.some_or]

/-- The custom sections are united. -/
theorem sectionOf_laidOver (base : Fields) (hlayer : (Fields.keys layer).Nodup) :
    sectionOf (laidOver base layer) = Fields.update (sectionOf base) (sectionOf layer) := by
  rw [sectionOf, get?_customKey_laidOver base hlayer]
  cases hget : Fields.get? layer customKey with
  | none =>
    have hnil : sectionOf layer = [] := by rw [sectionOf, hget]
    rw [hnil, Fields.update_nil]
    rfl
  | some v => rfl

theorem isLayer_laidOver (hbase : IsLayer base) (hlayer : IsLayer layer) :
    IsLayer (laidOver base layer) where
  nodup := Fields.nodup_keys_update _ hbase.nodup
  custom v hv := by
    rw [get?_customKey_laidOver base hlayer.nodup] at hv
    split at hv
    · obtain rfl := Option.some.inj hv
      exact ⟨_, rfl, Fields.nodup_keys_update _ hbase.nodup_section⟩
    · exact hbase.custom v hv

/-! ### Three layers -/

/-- Joining the united layer is uniting the joined ones: the custom section comes of all three. -/
theorem joinedTo_laidOver (hT : Key.Discrete T) (hU : Key.Discrete U)
    (hbase : IsLayerWithin T U base) (hfile : IsLayerWithin T U file)
    (hoverrides : IsLayerWithin T U overrides) :
    joinedTo base (laidOver file overrides)
      = Fields.update (joinedTo base file) (joinedTo (laidOver base file) overrides) := by
  have hentry := get?_customKey_laidOver file hoverrides.nodup
  have hunited := sectionOf_laidOver file hoverrides.nodup
  cases hupper : Fields.get? overrides customKey with
  | none =>
    -- The overrides have no section, so the united layer has that of the file.
    rw [hupper] at hentry
    have hnil : sectionOf overrides = [] := by rw [sectionOf, hupper]
    have hnew : customKey ∉ Fields.keys overrides := Fields.get?_eq_none_iff.mp hupper
    rw [joinedTo_of_none _ hupper]
    cases hlower : Fields.get? file customKey with
    | none =>
      rw [joinedTo_of_none base (hentry.trans hlower), joinedTo_of_none base hlower, laidOver,
        joinedTo_of_none file hupper]
    | some v =>
      have hthere : customKey ∈ Fields.keys file :=
        List.mem_map_of_mem (Fields.mem_of_get?_eq_some hlower)
      rw [joinedTo_of_some base (hentry.trans hlower), joinedTo_of_some base hlower, hunited, hnil,
        Fields.update_nil, laidOver, joinedTo_of_none file hupper]
      exact Fields.set_update hT hfile.within hoverrides.within _ hthere hnew
  | some w =>
    -- The entry is set last, so that what the file has under the key does not show.
    rw [hupper] at hentry
    have hsections : Fields.update (sectionOf base) (sectionOf (laidOver file overrides))
        = Fields.update (sectionOf (laidOver base file)) (sectionOf overrides) := by
      rw [hunited, sectionOf_laidOver base hfile.nodup]
      exact Fields.update_update hU hbase.sectionWithin hfile.sectionWithin hfile.nodup_section
        hoverrides.sectionWithin
    have hset {fs : Fields} (hfs : Fields.Within T fs) (v : Value) :
        Fields.update fs (Fields.set overrides customKey v)
          = Fields.set (Fields.update fs overrides) customKey v :=
      Fields.update_set hT hfs hoverrides.within hoverrides.nodup Setting.custom.key v
    rw [joinedTo_of_some base hentry, joinedTo_of_some _ hupper, hsections, laidOver,
      joinedTo_of_some file hupper, hset hfile.within, hset (within_joinedTo hT base hfile.within)]
    cases hlower : Fields.get? file customKey with
    | none =>
      rw [joinedTo_of_none base hlower]
      simp only [customKey, Fields.set_text, Assoc.set_set_same]
    | some v =>
      have hthere : customKey ∈ Fields.keys file :=
        List.mem_map_of_mem (Fields.mem_of_get?_eq_some hlower)
      rw [joinedTo_of_some base hlower, customKey,
        Fields.set_update_set hT hfile.within hoverrides.within _ _ hthere]
      simp only [Fields.set_text, Assoc.set_set_same]

/-- Layers may be laid over each other from the top or from the bottom. -/
theorem laidOver_assoc (hT : Key.Discrete T) (hU : Key.Discrete U)
    (hbase : IsLayerWithin T U base) (hfile : IsLayerWithin T U file)
    (hoverrides : IsLayerWithin T U overrides) :
    laidOver base (laidOver file overrides) = laidOver (laidOver base file) overrides :=
  calc
    laidOver base (laidOver file overrides)
      = Fields.update base
          (Fields.update (joinedTo base file) (joinedTo (laidOver base file) overrides)) :=
        congrArg (Fields.update base) (joinedTo_laidOver hT hU hbase hfile hoverrides)
    _ = laidOver (laidOver base file) overrides :=
        Fields.update_update hT hbase.within (within_joinedTo hT base hfile.within)
          (nodup_keys_joinedTo base hfile.nodup) (within_joinedTo hT _ hoverrides.within)

/-- The settings of the layers are those of the united layer over the target. -/
theorem layeredSettings_laidOver (target : String) (hT : Key.Discrete T) (hU : Key.Discrete U)
    (hfile : IsLayerWithin T U file) (hoverrides : IsLayerWithin T U overrides) :
    layeredSettings target [] (laidOver file overrides) = layeredSettings target file overrides := by
  have hbase := isLayerWithin_targetDefaults hT hU target
  have hlower := overlay_eq_laidOver hbase.toIsLayer hfile.toIsLayer
  have hupper := overlay_eq_laidOver (isLayer_laidOver hbase.toIsLayer hfile.toIsLayer)
    hoverrides.toIsLayer
  have hunited := overlay_eq_laidOver hbase.toIsLayer
    (isLayer_laidOver hfile.toIsLayer hoverrides.toIsLayer)
  have hone : layeredSettings target [] (laidOver file overrides)
      = overlay (targetDefaults target) (laidOver file overrides) >>= Settings.ofLayers := rfl
  rw [hone, hunited, layeredSettings, hlower]
  simp only [bind, Except.bind, hupper, laidOver_assoc hT hU hbase hfile hoverrides]

end

/-- A query with a settings file and overrides has settings, and one with the file united with the
overrides as its overrides has just the same, whose custom entries stand in the same order. -/
theorem loadSettings_united {fs : FileSystem} {q : SettingsQuery} {target : String}
    {file overrides : Fields} (htarget : targetKey q.target = .ok target)
    (hfile : q.fileFields fs = .ok file)
    (hsection : ∀ v, Fields.get? file customKey = some v → ∃ fields, v = .object fields)
    (hoverrides : q.overrides = .object overrides) (hlayer : IsDistinctLayer overrides) :
    ∃ united s, overlay file overrides = .ok united ∧ loadSettings fs q = .ok s
      ∧ loadSettings fs { target := q.target, overrides := .object united } = .ok s := by
  have hfileLayer : IsLayer file := SettingsQuery.isLayer_of_fileFields hfile hsection
  have hdocument : (Value.object file).IsDocument := SettingsQuery.isDocument_of_fileFields hfile
  obtain ⟨T, U, hT, hU, hwithin⟩ := hlayer.exists_isLayerWithin
  have hfileWithin : IsLayerWithin T U file := hfileLayer.isLayerWithin hT hU
    (hdocument.here file rfl) (named_section_of_isDocument hdocument)
  obtain ⟨s, hs, -⟩ := exists_layeredSettings target hfileLayer hlayer.isLayer
  have hfields : overrideFields q.overrides = .ok overrides := by rw [hoverrides, overrideFields]
  refine ⟨laidOver file overrides, s, overlay_eq_laidOver hfileLayer hlayer.isLayer, ?_, ?_⟩
  · exact loadSettings_eq_ok.mpr ⟨target, file, overrides, htarget, hfile, hfields, hs⟩
  · refine loadSettings_eq_ok.mpr ⟨target, [], laidOver file overrides, htarget, rfl, rfl, ?_⟩
    rw [layeredSettings_laidOver target hT hU hfileWithin hwithin, hs]

/-- The fields of a settings file with a custom section and a custom setting outside of it. -/
def stageFile : Fields :=
  [(.text "namespace", .text "Shop.Data"),
    (.text "custom", .object [(.text "region", .int 1), (.text "builder_type", .text "Builder")]),
    (.text "stage", .text "test")]

/-- Overrides with a custom section, and custom settings outside of it; one key is a number. -/
def stageOverrides : Fields :=
  [(.text "zone", .int 3), (.int 8, .text "eight"),
    (.text "custom", .object [(.text "stage", .text "live"), (.text "region", .int 2)])]

/-- A query with the settings file and the overrides. -/
def stageQuery : SettingsQuery where
  target := .text "csharp"
  overrides := .object stageOverrides
  file := .path ⟨.here, ["auditgen.json"]⟩

theorem fileFields_stageFile : stageQuery.fileFields (folderHolding stageFile) = .ok stageFile := by
  have hsection : (Value.object [(.text "region", .int 1),
      (.text "builder_type", .text "Builder")]).IsPlain :=
    Value.isPlain_object ⟨by simp [Fields.keys], by decide⟩
      (by simp [Value.isPlain_text, Value.isPlain_int])
  have hplain : (Value.object stageFile).IsPlain :=
    Value.isPlain_object ⟨by simp [Fields.keys, stageFile], by decide⟩
      (by simp [stageFile, Value.isPlain_text, hsection])
  exact fileFields_holding hplain (by decide) (by rfl) rfl

theorem isDistinctLayer_stageOverrides : IsDistinctLayer stageOverrides := by
  refine ⟨by simp [Fields.Distinct, Fields.keys, stageOverrides, Key.same], ?_⟩
  intro v hv
  obtain rfl := Option.some.inj hv
  exact ⟨_, rfl, by simp [Fields.Distinct, Fields.keys, Key.same]⟩

/-- All three layers have custom sections.  The entries of the target come first, then those of the
file and of the overrides, and at last the settings from outside of the sections; the stage keeps
its place, and is the one of the file. -/
theorem loadSettings_united_stage :
    ∃ united s, overlay stageFile stageOverrides = .ok united
      ∧ loadSettings (folderHolding stageFile) stageQuery = .ok s
      ∧ loadSettings (folderHolding stageFile)
          { target := .text "csharp", overrides := .object united } = .ok s
      ∧ s.custom = .object
          [(.text "file_suffix", .text ".g.cs"), (.text "builder_type", .text "Builder"),
            (.text "region", .int 2), (.text "stage", .text "test"), (.text "zone", .int 3),
            (.int 8, .text "eight")] := by
  have htarget : targetKey stageQuery.target = .ok "csharp" := by rfl
  have hsection : ∀ v, Fields.get? stageFile customKey = some v → ∃ fields, v = .object fields := by
    intro v hv
    obtain rfl := Option.some.inj hv
    exact ⟨_, rfl⟩
  obtain ⟨united, s, hunited, hs, hagain⟩ := loadSettings_united htarget fileFields_stageFile
    hsection rfl isDistinctLayer_stageOverrides
  refine ⟨united, s, hunited, hs, hagain, ?_⟩
  obtain ⟨target, file, overrides, ht, hf, ho, hlayers⟩ := loadSettings_eq_ok.mp hs
  rw [htarget] at ht
  rw [fileFields_stageFile] at hf
  cases ht
  cases hf
  cases ho
  cases hlayers
  rfl

end EntityMapping
