import EntityMapping.Generation.Request
import EntityMapping.Proofs.CommandLine.Gathering
import EntityMapping.Proofs.CommandLine.Settings
import EntityMapping.Proofs.Files.Lookup

/-!
# Generating in one call for a command

What a command generates is just what generation in one call gives for the same target, manifest and
list of audit fields, where the fields of the settings file and what the options override are one
object (`generates_iff`).  The settings are the same, since the options override no custom section;
and the name of the target may be given as it is on the command line.

## Main definitions

* `GeneratesAtOnce` — generation in one call for a command.
-/

namespace EntityMapping

namespace Registry

open Text

/-- A name is found as the target that it stands for. -/
theorem Owned.find_eq {r : Registry} {n key : String} (h : r.Owned) (hn : r.resolve n = .ok key) :
    r.find n = r.find key := by
  obtain ⟨t, ht⟩ := h.find_of_resolve hn
  obtain ⟨u, hu⟩ := h.find_of_resolve (h.resolve_self (h.mem_of_resolve hn))
  obtain ⟨-, ht'⟩ := find_eq_ok ht
  obtain ⟨-, hu'⟩ := find_eq_ok hu
  obtain rfl : t = u := Option.some.inj (ht'.symm.trans hu')
  rw [ht, hu]

theorem owned_bundled : Registry.bundled.Owned where
  lower := by decide
  owner := by decide

end Registry

namespace CommandLine

open Text

variable {ask : String → Reply} {r : GenerateRequest} {o : Outlet} {fs fs' : FileSystem}
  {target : String} {s : Settings} {g : Generated}

/-- Generation in one call for a command: its options and the fields of its settings file are given
as one object, and the manifest is given as it was read. -/
inductive GeneratesAtOnce (ask : String → Reply) (r : GenerateRequest) (fs : FileSystem) :
    Settings → GenerationResult → Prop
  | intro {name target file manifest s lines result} (hname : r.target = .text name)
    (resolved : r.targetName = .ok target) (configured : r.settings fs target = .ok s)
    (hfile : (r.query name).fileFields fs = .ok file)
    (hmanifest : readDocument fs r.manifestPath = .ok manifest)
    (hlines : (r.auditLines fs ask s).1 = .ok lines)
    (h : (Registry.bundled.generateManifest fs name
        (.value (.object (Fields.update file r.overrides))) manifest (linesValue lines)).1
      = .ok result) : GeneratesAtOnce ask r fs s result

theorem parseDocument_eq_ok {p : Path} {manifest : Value} :
    (parseDocument fs p).1 = .ok manifest ↔ readDocument fs p = .ok manifest := by
  unfold parseDocument
  cases readDocument fs p <;> simp

theorem found_of_readDocument {p : Path} {manifest : Value}
    (h : readDocument fs p = .ok manifest) : (findDocument fs p).1 = .ok () := by
  have hread : ∃ octets, fs.read p = .ok octets := by
    unfold readDocument at h
    split at h
    · cases h
    · exact ⟨_, ‹_›⟩
  obtain ⟨octets, hread⟩ := hread
  rw [findDocument, (FileSystem.exists?_of_read hread).2]

/-- The settings of a command come of the fields of its settings file and its options. -/
theorem exists_layers (hs : r.settings fs target = .ok s) (name : String) :
    ∃ file, (r.query name).fileFields fs = .ok file
      ∧ layeredSettings (lowered target) file r.overrides = .ok s := by
  have hload := settings_eq_ok.mp hs
  rw [loadSettings_query] at hload
  obtain ⟨file, hfile, hlayers⟩ := bind_eq_ok.mp hload
  exact ⟨file, fileFields_eq_ok.mpr (fileFields_eq_ok.mp hfile), liftM_fault_eq_ok.mp hlayers⟩

/-- The settings of a command are also those of one object, of the fields of its settings file with
its options laid over. -/
theorem loadSettings_atOnce {name : String} {file : Fields}
    (hfile : (r.query name).fileFields fs = .ok file)
    (hlayers : layeredSettings (lowered target) file r.overrides = .ok s) :
    loadSettings fs
      { target := .text target, overrides := .object (Fields.update file r.overrides) }
      = .ok s := by
  have hnamed : Fields.Named file :=
    (SettingsQuery.isDocument_of_fileFields hfile).here file rfl
  have hone := (layeredSettings_update (lowered target) hnamed (named_overrides r)
    (customKey_notMem_overrides r)).trans hlayers
  rw [loadSettings_eq]
  exact liftM_fault_eq_ok.mpr hone

/-- A generator may be made from the settings of a command or from that object, and by the name that
the command gives or the target that it stands for. -/
theorem createGenerator_atOnce {name : String} {file : Fields} (hname : r.target = .text name)
    (resolved : r.targetName = .ok target) (configured : r.settings fs target = .ok s)
    (hfile : (r.query name).fileFields fs = .ok file) :
    Registry.bundled.createGenerator fs name (.value (.object (Fields.update file r.overrides)))
      = Registry.bundled.createGenerator fs target (.settings s) := by
  obtain ⟨_, hname', hresolve⟩ := targetName_eq_ok.mp resolved
  obtain rfl := Value.text.inj (hname.symm.trans hname')
  obtain ⟨t, hfind⟩ := Registry.owned_bundled.find_of_resolve hresolve
  have hself : Registry.bundled.find target = .ok (target, t) :=
    (Registry.owned_bundled.find_eq hresolve).symm.trans hfind
  obtain ⟨file', hfile', hlayers⟩ := exists_layers configured name
  obtain rfl : file = file' := Except.ok.inj (hfile.symm.trans hfile')
  have hsettings : Registry.settingsFrom fs target
      (.value (.object (Fields.update file r.overrides))) = .ok s :=
    loadSettings_atOnce hfile hlayers
  rw [Registry.createGenerator_of_find hfind, Registry.createGenerator_of_find hself, hsettings]
  rfl

/-- Generation in one call for a command gives one result. -/
theorem GeneratesAtOnce.unique {s' : Settings} {result result' : GenerationResult}
    (h : GeneratesAtOnce ask r fs s result) (h' : GeneratesAtOnce ask r fs s' result') :
    s = s' ∧ result = result' := by
  obtain ⟨hname, resolved, configured, hfile, hmanifest, hlines, h⟩ := h
  obtain ⟨hname', resolved', configured', hfile', hmanifest', hlines', h'⟩ := h'
  obtain rfl := Value.text.inj (hname.symm.trans hname')
  obtain rfl := Except.ok.inj (resolved.symm.trans resolved')
  obtain rfl := Except.ok.inj (configured.symm.trans configured')
  obtain rfl := Except.ok.inj (hfile.symm.trans hfile')
  obtain rfl := Except.ok.inj (hmanifest.symm.trans hmanifest')
  obtain rfl := Except.ok.inj (hlines.symm.trans hlines')
  exact ⟨rfl, Except.ok.inj (h.symm.trans h')⟩

/-- Without a file for notes, gathering changes no file, and a command generates just what
generation in one call gives, as long as its settings pass the check. -/
theorem generates_iff (ho : o.file = none) :
    Generates ask r o fs g fs'
      ↔ fs' = fs ∧ (∃ checks, g.settings.check = .ok checks)
        ∧ ∃ artifacts, g.artifacts = artifacts.map (·.2)
          ∧ GeneratesAtOnce ask r fs g.settings (.success artifacts g.warnings g.facts) := by
  have hfiles (fs : FileSystem) (notes : List Note) : o.takeAll fs notes = fs :=
    Outlet.takeAll_of_file_eq_none ho fs notes
  constructor
  · rintro @⟨target, s, gen, builder, manifest, cs, lines, artifacts, warnings, facts,
      ⟨resolved, configured, checked, hgen⟩, ⟨hbuilder, -, hmanifest, hcs⟩, hlines, hresult⟩
    simp only [GenerateRequest.filesListed, GenerateRequest.filesLoaded, GenerateRequest.filesRead,
      GenerateRequest.filesFound, hfiles] at hmanifest hlines ⊢
    refine ⟨trivial, checked, artifacts, rfl, ?_⟩
    obtain ⟨name, hname, -⟩ := targetName_eq_ok.mp resolved
    obtain ⟨file, hfile, -⟩ := exists_layers configured name
    obtain ⟨_, _, -, hcreate⟩ := createGenerator_eq_ok hgen
    rw [← (create_eq_ok hcreate).1] at hbuilder
    refine .intro hname resolved configured hfile (parseDocument_eq_ok.mp hmanifest) hlines ?_
    refine Registry.generateManifest_eq_ok.mpr ⟨gen, builder, cs, ?_, hbuilder, hcs, hresult⟩
    rw [createGenerator_atOnce hname resolved configured hfile, hgen]
  · obtain ⟨s, as, warnings, facts⟩ := g
    rintro ⟨rfl, checked, artifacts, rfl, @⟨name, target, file, manifest, _, lines, _, hname,
      resolved, configured, hfile, hmanifest, hlines, h⟩⟩
    obtain ⟨gen, builder, cs, hgen, hbuilder, hcs, hresult⟩ := Registry.generateManifest_eq_ok.mp h
    rw [createGenerator_atOnce hname resolved configured hfile] at hgen
    obtain ⟨_, _, -, hcreate⟩ := createGenerator_eq_ok hgen
    rw [(create_eq_ok hcreate).1] at hbuilder
    have prepared : Prepares r fs' target s gen := ⟨resolved, configured, checked, hgen⟩
    have loaded : Loads r o fs' s builder manifest cs := by
      refine ⟨hbuilder, found_of_readDocument hmanifest, ?_, hcs⟩
      rw [GenerateRequest.filesFound, hfiles]
      exact parseDocument_eq_ok.mpr hmanifest
    have listed : (r.auditLines (r.filesLoaded o fs' builder manifest) ask s).1 = .ok lines := by
      simp only [GenerateRequest.filesLoaded, GenerateRequest.filesRead,
        GenerateRequest.filesFound, hfiles]
      exact hlines
    have hgenerates := Generates.intro prepared loaded listed hresult
    simp only [GenerateRequest.filesListed, GenerateRequest.filesLoaded, GenerateRequest.filesRead,
      GenerateRequest.filesFound, hfiles] at hgenerates
    exact hgenerates

end CommandLine

end EntityMapping
