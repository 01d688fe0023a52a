import EntityMapping.Proofs.Outcome
import EntityMapping.Proofs.Value.Fields
import EntityMapping.Settings.Layers

/-!
# What layers of settings come to

A layer that repeats no key is laid over another one in two parts: its custom section, if it has
one, is joined with the section below, and then all its fields are set (`overlay_eq`).  The settings
of the layers are read off by keys: each known setting is what stands under its key
(`Settings.get_ofFields`), and a custom one is what stands under its key outside of the custom
section, or else inside (`exists_ofLayers`).

## Main definitions

* `sectionOf` — the custom section of a layer.
* `IsLayer` — objects without repeated keys, whose custom section is such an object too.
* `joinSections` — what a layer with a custom entry makes of the entry below.
* `knownFields`, `unknownFields` — fields whose keys name settings, and all others.
-/

namespace EntityMapping

/-! ### Settings and their keys -/

theorem Setting.ofKey?_eq_some {k : Key} {j : Setting} :
    Setting.ofKey? k = some j ↔ k = .text j.key := by
  constructor
  · intro h
    cases k with
    | text s =>
      have hkey := List.find?_some h
      rw [decide_eq_true_eq] at hkey
      rw [hkey]
    | _ => cases h
  · rintro rfl
    cases j <;> rfl

namespace Settings

theorem get_foldl_set (fs : Fields) (s : Settings) (j : Setting) (hfs : (Fields.keys fs).Nodup) :
    (fs.foldl (fun s (k, v) => ((Setting.ofKey? k).map (s.set · v)).getD s) s).get j
      = (Fields.get? fs (.text j.key)).getD (s.get j) := by
  induction fs generalizing s with
  | nil => rfl
  | cons f r ih =>
    obtain ⟨k, v⟩ := f
    obtain ⟨hnew, hr⟩ := List.nodup_cons.mp hfs
    rw [List.foldl_cons, ih _ hr, Fields.get?]
    simp only [Key.same_text]
    cases hk : Setting.ofKey? k with
    | none =>
      have hne : k ≠ .text j.key := by
        intro he
        rw [Setting.ofKey?_eq_some.mpr he] at hk
        cases hk
      simp [hne]
    | some i =>
      have hki := Setting.ofKey?_eq_some.mp hk
      by_cases hij : i = j
      · subst hij
        have hnone : Fields.get? r (.text i.key) = none :=
          Fields.get?_eq_none_iff.mpr (hki ▸ hnew)
        simp [hki, hnone]
      · have hne : k ≠ .text j.key := by
          intro he
          rw [Setting.ofKey?_eq_some.mpr he] at hk
          exact hij (Option.some.inj hk.symm)
        simp [hne, get_set_of_ne s v (Ne.symm hij)]

/-- A setting that fields give is what stands under its key. -/
theorem get_ofFields {fs : Fields} (hfs : (Fields.keys fs).Nodup) (j : Setting) :
    (ofFields fs).get j = (Fields.get? fs (.text j.key)).getD (({} : Settings).get j) :=
  get_foldl_set fs {} j hfs

/-- Settings are known by the values of all of them. -/
theorem ext_get {s t : Settings} (h : ∀ j, s.get j = t.get j) : s = t := by
  cases s
  cases t
  congr
  · exact h .outputDir
  · exact h .namespaceName
  · exact h .baseClassName
  · exact h .entitySuffix
  · exact h .auditFieldsFile
  · exact h .auditFieldNames
  · exact h .defaultStringLength
  · exact h .addComments
  · exact h .templateDir
  · exact h .custom

theorem get?_toFields (s : Settings) (j : Setting) :
    Fields.get? s.toFields (.text j.key) = some (s.get j) := by
  cases j <;> rfl

theorem named_toFields (s : Settings) : Fields.Named s.toFields where
  text k hk := by
    simp only [toFields, Fields.keys, List.map_map, List.mem_map] at hk
    obtain ⟨j, -, rfl⟩ := hk
    exact ⟨j.key, rfl⟩
  nodup := by
    have hkeys : Fields.keys s.toFields = Setting.all.map fun j => Key.text j.key := rfl
    rw [hkeys]
    decide

end Settings

/-! ### Laying one layer over another -/

/-- The custom section of a layer; anything else than an object has no entries. -/
def sectionOf (layer : Fields) : Fields :=
  match Fields.get? layer customKey with
  | some (.object fields) => fields
  | _ => []

/-- A layer whose custom section, if there is one, is an object; no key repeats. -/
structure IsLayer (layer : Fields) : Prop where
  nodup : (Fields.keys layer).Nodup
  custom : ∀ v, Fields.get? layer customKey = some v →
    ∃ fields, v = .object fields ∧ (Fields.keys fields).Nodup

theorem IsLayer.nodup_section {layer : Fields} (h : IsLayer layer) :
    (Fields.keys (sectionOf layer)).Nodup := by
  unfold sectionOf
  split
  · obtain ⟨fields, he, hnodup⟩ := h.custom _ ‹_›
    obtain rfl := Value.object.inj he
    exact hnodup
  · exact List.nodup_nil

theorem isLayer_nil : IsLayer [] := ⟨List.nodup_nil, by simp⟩

/-- The custom entry of a layer that is laid over an entry: objects are united, anything else takes
the place of the entry below. -/
def joinSections (below : Option Value) (v : Value) : Except Fault Value :=
  match v with
  | .object new =>
    match below.getD (.object []) with
    | .object old => .ok (.object (Fields.update old new))
    | w => .error (.noAttribute w.kind "update")
  | v => .ok v

theorem overlayField_of_ne {base : Fields} {k : Key} (v : Value) (h : k ≠ customKey) :
    overlayField base k v = .ok (Fields.set base k v) := by
  have hsame : ¬k.same customKey = true := fun hs => h (Key.same_text.mp hs)
  unfold overlayField
  rw [if_neg hsame]

theorem overlayField_customKey (base : Fields) (v : Value) :
    overlayField base customKey v
      = (joinSections (Fields.get? base customKey) v).map (Fields.set base customKey) := by
  have hsame : customKey.same customKey = true := Key.same_self _
  unfold overlayField
  rw [if_pos hsame]
  cases v with
  | object new =>
    rw [joinSections]
    cases (Fields.get? base customKey).getD (.object []) <;> rfl
  | _ => rfl

/-- A layer is laid over another one by joining the custom entries and setting all fields. -/
theorem overlay_eq (base : Fields) {layer : Fields} (h : (Fields.keys layer).Nodup) :
    overlay base layer
      = match Fields.get? layer customKey with
        | none => .ok (Fields.update base layer)
        | some v => (joinSections (Fields.get? base customKey) v).map fun c =>
            Fields.update base (Fields.set layer customKey c) := by
  induction layer generalizing base with
  | nil => rfl
  | cons f r ih =>
    obtain ⟨k, v⟩ := f
    obtain ⟨hnew, hr⟩ := List.nodup_cons.mp h
    have hstep : overlay base ((k, v) :: r) = overlayField base k v >>= (overlay · r) := rfl
    rw [hstep]
    by_cases hk : k = customKey
    · subst hk
      have hnone : Fields.get? r customKey = none := Fields.get?_eq_none_iff.mpr hnew
      have hget : Fields.get? ((customKey, v) :: r) customKey = some v := by
        rw [Fields.get?, if_pos (Key.same_self _)]
      rw [hget, overlayField_customKey]
      dsimp only
      cases joinSections (Fields.get? base customKey) v with
      | error e => rfl
      | ok c =>
        have hset : Fields.set ((customKey, v) :: r) customKey c = (customKey, c) :: r := by
          rw [Fields.set, if_pos (Key.same_self _)]
        simp only [Except.map, bind, Except.bind, ih _ hr, hnone, hset]
        rfl
    · have hsame : ¬k.same customKey = true := fun hs => hk (Key.same_text.mp hs)
      have hbase : Fields.get? (Fields.set base k v) customKey = Fields.get? base customKey :=
        Fields.get?_set_of_ne v hk
      have hget : Fields.get? ((k, v) :: r) customKey = Fields.get? r customKey := by
        rw [Fields.get?, if_neg hsame]
      have hset (c : Value) :
          Fields.set ((k, v) :: r) customKey c = (k, v) :: Fields.set r customKey c := by
        rw [Fields.set, if_neg hsame]
      simp only [overlayField_of_ne v hk, bind, Except.bind, ih _ hr, hbase, hget, hset]
      rfl

theorem exists_section {layer : Fields}
    (h : ∀ v, Fields.get? layer customKey = some v → ∃ fields, v = .object fields) :
    (Fields.get? layer customKey).getD (.object []) = .object (sectionOf layer) := by
  unfold sectionOf
  cases hget : Fields.get? layer customKey with
  | none => rfl
  | some v =>
    obtain ⟨fields, rfl⟩ := h v hget
    rfl

/-- Layers with custom sections that are objects can be laid over each other, and what was laid over
counts first, inside the custom sections and outside. -/
theorem exists_overlay {base layer : Fields} (hbase : IsLayer base) (hlayer : IsLayer layer) :
    ∃ r, overlay base layer = .ok r ∧ IsLayer r
      ∧ (∀ s, Key.text s ≠ customKey →
        Fields.get? r (.text s) = (Fields.get? layer (.text s)).or (Fields.get? base (.text s)))
      ∧ ∀ s, Fields.get? (sectionOf r) (.text s)
          = (Fields.get? (sectionOf layer) (.text s)).or
            (Fields.get? (sectionOf base) (.text s)) := by
  have hold := exists_section fun v hv => (hbase.custom v hv).imp fun _ => And.left
  rw [overlay_eq base hlayer.nodup]
  cases hget : Fields.get? layer customKey with
  | none =>
    have hcustom :
        Fields.get? (Fields.update base layer) customKey = Fields.get? base customKey := by
      rw [customKey, Fields.get?_update base hlayer.nodup, ← customKey, hget, Option.none_or]
    refine ⟨_, rfl, ⟨Fields.nodup_keys_update layer hbase.nodup, ?_⟩, ?_, ?_⟩
    · rw [hcustom]
      exact hbase.custom
    · exact fun s _ => Fields.get?_update base hlayer.nodup s
    · intro s
      simp [sectionOf, hcustom, hget]
  | some v =>
    obtain ⟨new, rfl, hnew⟩ := hlayer.custom v hget
    have hjoin : joinSections (Fields.get? base customKey) (.object new)
        = .ok (.object (Fields.update (sectionOf base) new)) := by
      rw [joinSections, hold]
    let upper := Fields.set layer customKey (.object (Fields.update (sectionOf base) new))
    have hupper : (Fields.keys upper).Nodup := Fields.nodup_keys_set _ _ hlayer.nodup
    have hcustom : Fields.get? (Fields.update base upper) customKey
        = some (.object (Fields.update (sectionOf base) new)) := by
      have hset : Fields.get? upper customKey
          = some (.object (Fields.update (sectionOf base) new)) :=
        (Fields.get?_set layer customKey _ Setting.custom.key).trans (if_pos rfl)
      rw [customKey, Fields.get?_update base hupper, ← customKey, hset, Option.some_or]
    refine ⟨Fields.update base upper, by simp only [hjoin]; rfl,
      ⟨Fields.nodup_keys_update upper hbase.nodup, ?_⟩, ?_, ?_⟩
    · rw [hcustom]
      rintro _ ⟨rfl⟩
      exact ⟨_, rfl, Fields.nodup_keys_update new hbase.nodup_section⟩
    · intro s hs
      rw [Fields.get?_update base hupper, Fields.get?_set_of_ne _ (Ne.symm hs)]
    · intro s
      simp only [sectionOf, hcustom, hget]
      exact Fields.get?_update _ hnew s

/-! ### Settings of layers -/

/-- The fields whose keys name settings. -/
def knownFields (fs : Fields) : Fields := fs.filter fun f => (Setting.ofKey? f.1).isSome

/-- The fields whose keys name no setting. -/
def unknownFields (fs : Fields) : Fields := fs.filter fun f => (Setting.ofKey? f.1).isNone

theorem nodup_keys_knownFields {fs : Fields} (h : (Fields.keys fs).Nodup) :
    (Fields.keys (knownFields fs)).Nodup := h.sublist (List.filter_sublist.map Prod.fst)

theorem nodup_keys_unknownFields {fs : Fields} (h : (Fields.keys fs).Nodup) :
    (Fields.keys (unknownFields fs)).Nodup := h.sublist (List.filter_sublist.map Prod.fst)

theorem get?_knownFields (fs : Fields) (j : Setting) :
    Fields.get? (knownFields fs) (.text j.key) = Fields.get? fs (.text j.key) := by
  have hj : (Setting.ofKey? (.text j.key)).isSome = true := by
    rw [Setting.ofKey?_eq_some.mpr rfl]
    rfl
  rw [knownFields, Fields.get?_filter fs (fun k => (Setting.ofKey? k).isSome), if_pos hj]

theorem get?_unknownFields (fs : Fields) (name : String) :
    Fields.get? (unknownFields fs) (.text name)
      = if (Setting.ofKey? (.text name)).isNone then Fields.get? fs (.text name) else none :=
  Fields.get?_filter fs (fun k => (Setting.ofKey? k).isNone) name

theorem unknownFields_eq_nil {fs : Fields}
    (h : ∀ k ∈ Fields.keys fs, (Setting.ofKey? k).isSome = true) : unknownFields fs = [] := by
  refine List.filter_eq_nil_iff.mpr fun f hf => ?_
  rw [Option.isNone_iff_eq_none, ← Option.not_isSome_iff_eq_none, not_not]
  exact h f.1 (List.mem_map_of_mem hf)

/-- The settings of layers are those of the known fields; unknown ones are put into the custom
entry. -/
theorem Settings.ofLayers_eq (fs : Fields) :
    Settings.ofLayers fs
      = if (unknownFields fs).isEmpty then .ok (Settings.ofFields (knownFields fs))
        else
          match ((Fields.get? fs customKey).getD (.object [])).toFields with
          | .ok custom =>
            .ok ((Settings.ofFields (knownFields fs)).set .custom
              (.object (Fields.update custom (unknownFields fs))))
          | .error e => .error e := by
  have hcustom : Fields.get? fs customKey = Fields.get? (knownFields fs) customKey :=
    (get?_knownFields fs .custom).symm
  rw [hcustom]
  rfl

/-- The settings of layers: a known one is what stands under its key, a custom one is what stands
under its key outside of the custom section, or else inside. -/
theorem exists_ofLayers {fs : Fields} (h : IsLayer fs) :
    ∃ s custom, Settings.ofLayers fs = .ok s ∧ s.custom = .object custom
      ∧ (∀ j, j ≠ .custom → s.get j
        = (Fields.get? fs (.text j.key)).getD (({} : Settings).get j))
      ∧ ∀ name, Fields.get? custom (.text name)
          = (if (Setting.ofKey? (.text name)).isNone then Fields.get? fs (.text name) else none).or
            (Fields.get? (sectionOf fs) (.text name)) := by
  have hget (j : Setting) : (Settings.ofFields (knownFields fs)).get j
      = (Fields.get? fs (.text j.key)).getD (({} : Settings).get j) := by
    rw [Settings.get_ofFields (nodup_keys_knownFields h.nodup) j, get?_knownFields]
  have hsection : (Fields.get? fs customKey).getD (.object []) = .object (sectionOf fs) :=
    exists_section fun v hv => (h.custom v hv).imp fun _ => And.left
  rw [Settings.ofLayers_eq, hsection]
  cases hempty : (unknownFields fs).isEmpty with
  | true =>
    have hnil : unknownFields fs = [] := List.isEmpty_iff.mp hempty
    refine ⟨Settings.ofFields (knownFields fs), sectionOf fs, rfl, ?_, fun j _ => hget j, ?_⟩
    · exact (hget .custom).trans hsection
    · intro name
      rw [← get?_unknownFields, hnil]
      rfl
  | false =>
    refine ⟨(Settings.ofFields (knownFields fs)).set .custom
        (.object (Fields.update (sectionOf fs) (unknownFields fs))),
      Fields.update (sectionOf fs) (unknownFields fs), rfl,
      Settings.get_set_same _ .custom _, ?_, ?_⟩
    · intro j hj
      rw [Settings.get_set_of_ne _ _ hj, hget]
    · intro name
      rw [Fields.get?_update _ (nodup_keys_unknownFields h.nodup), get?_unknownFields]

theorem named_targetDefaults (target : String) : Fields.Named (targetDefaults target) := by
  unfold targetDefaults
  split
  · exact ⟨by simp [Fields.keys], by decide⟩
  · exact Fields.named_nil

theorem isLayer_targetDefaults (target : String) : IsLayer (targetDefaults target) := by
  unfold targetDefaults
  split
  · refine ⟨by decide, ?_⟩
    rintro v ⟨rfl⟩
    exact ⟨_, rfl, by decide⟩
  · exact isLayer_nil

theorem named_section_targetDefaults (target : String) :
    Fields.Named (sectionOf (targetDefaults target)) := by
  refine ⟨?_, (isLayer_targetDefaults target).nodup_section⟩
  unfold targetDefaults
  split
  · intro k hk
    have hkeys : k ∈ [Key.text "file_suffix", Key.text "builder_type"] := hk
    rcases List.mem_pair.mp hkeys with rfl | rfl <;> exact ⟨_, rfl⟩
  · exact fun k hk => nomatch hk

theorem isSome_ofKey?_of_mem_targetDefaults {target : String} {k : Key}
    (h : k ∈ Fields.keys (targetDefaults target)) : (Setting.ofKey? k).isSome = true := by
  unfold targetDefaults at h
  split at h
  · revert k
    decide
  · cases h

end EntityMapping
