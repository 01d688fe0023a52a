import EntityMapping.Proofs.Json.Reading
import EntityMapping.Proofs.Json.RoundTrip
import EntityMapping.Proofs.Outcome
import EntityMapping.Proofs.Text.Line
import EntityMapping.Settings.Layers

/-!
# Settings files

The fields of a settings file are those of the object that its document holds
(`loadSettingsFile_eq_ok`); their keys are texts and do not repeat
(`isDocument_of_loadSettingsFile`).  A document that was printed from a value is read as that value
(`readDocument_of_prints`).  The settings for a query are the layers of the target, the file and the
overrides (`loadSettings_eq_ok`).

## Main definitions

* `SettingsQuery.fileFields` — the fields of the settings file that a query names.
-/

namespace EntityMapping

open Text

/-- A settings file gives the fields of the object in its document, if its name ends as it
should. -/
theorem loadSettingsFile_eq_ok {fs : FileSystem} {p : Path} {fields : Fields} :
    loadSettingsFile fs p = .ok fields
      ↔ fs.exists? p = .ok true ∧ lowered p.suffix = ".json"
        ∧ readDocument fs p = .ok (.object fields) := by
  unfold loadSettingsFile
  cases fs.exists? p with
  | error e => simp [liftM, monadLift, MonadLift.monadLift, Except.mapError, bind, Except.bind]
  | ok there =>
    cases there with
    | false =>
      have hthrow {e : Failure} : (Except.error e : Except Failure Fields) ≠ .ok fields := by simp
      exact ⟨fun h => absurd h hthrow, fun h => by cases h.1⟩
    | true =>
      by_cases hsuffix : lowered p.suffix = ".json"
      · simp only [liftM, monadLift, MonadLift.monadLift, Except.mapError, bind, Except.bind,
          hsuffix, Bool.not_true, Bool.false_eq_true, if_false, ne_eq, not_true_eq_false, true_and]
        split <;> simp_all [throw, throwThe, MonadExceptOf.throw, pure, Except.pure]
      · simp [liftM, monadLift, MonadLift.monadLift, Except.mapError, bind, Except.bind, hsuffix,
          throw, throwThe, MonadExceptOf.throw]

theorem readDocument_eq_ok {fs : FileSystem} {p : Path} {v : Value} :
    readDocument fs p = .ok v ↔ ∃ octets cs, fs.read p = .ok octets ∧ Utf8.decode octets = .ok cs
      ∧ Json.read (unifyNewlines cs) = .ok v := by
  unfold readDocument documentOf
  constructor
  · intro h
    split at h
    · cases h
    · split at h
      · cases h
      · split at h
        · obtain rfl := Except.ok.inj h
          exact ⟨_, _, ‹_›, ‹_›, ‹_›⟩
        · cases h
        · cases h
  · rintro ⟨octets, cs, hread, hdecode, hv⟩
    simp only [hread, hdecode, hv]

/-- A file with the document of a value without binary64 numbers holds that value. -/
theorem readDocument_of_prints {fs : FileSystem} {p : Path} {v : Value} {cs : List Char}
    (hv : v.IsPlain) (hdepth : v.depth ≤ Json.maxDepth)
    (hprints : Prints (Json.documentPieces v) cs) (hread : fs.read p = .ok (Utf8.encode cs)) :
    readDocument fs p = .ok v := by
  have hunified := unifyNewlines_of_notMem (Json.return_notMem_document hv hprints)
  refine readDocument_eq_ok.mpr ⟨_, cs, hread, Utf8.decode_encode cs, ?_⟩
  rw [hunified, Json.read_of_prints hv hdepth hprints]

/-- The fields of a settings file are those of an object as documents hold it. -/
theorem isDocument_of_loadSettingsFile {fs : FileSystem} {p : Path} {fields : Fields}
    (h : loadSettingsFile fs p = .ok fields) : (Value.object fields).IsDocument := by
  obtain ⟨-, -, hdocument⟩ := loadSettingsFile_eq_ok.mp h
  obtain ⟨_, _, -, -, hread⟩ := readDocument_eq_ok.mp hdocument
  exact Json.isDocument_of_read hread

/-- The fields of the settings file that a query names; without one there are none. -/
def SettingsQuery.fileFields (fs : FileSystem) (q : SettingsQuery) : Except Failure Fields := do
  match ← q.file.path? with
  | some p => loadSettingsFile fs p
  | none => pure []

theorem SettingsQuery.isDocument_of_fileFields {fs : FileSystem} {q : SettingsQuery}
    {fields : Fields} (h : q.fileFields fs = .ok fields) : (Value.object fields).IsDocument := by
  obtain ⟨path, -, h⟩ := bind_eq_ok.mp h
  cases path with
  | none =>
    obtain rfl := pure_eq_ok.mp h
    exact Value.isDocument_object Fields.named_nil (by simp)
  | some p => exact isDocument_of_loadSettingsFile h

/-- The settings for a query are put together from its target, its file and its overrides. -/
theorem loadSettings_eq (fs : FileSystem) (q : SettingsQuery) :
    loadSettings fs q = (do
      let target ← targetKey q.target
      let file ← q.fileFields fs
      let overrides ← overrideFields q.overrides
      layeredSettings target file overrides) := by
  unfold loadSettings SettingsQuery.fileFields
  cases q.file.path? with
  | error e => rfl
  | ok path => cases path <;> rfl

/-- The settings for a query are those of its three layers. -/
theorem loadSettings_eq_ok {fs : FileSystem} {q : SettingsQuery} {s : Settings} :
    loadSettings fs q = .ok s ↔ ∃ target file overrides, targetKey q.target = .ok target
      ∧ q.fileFields fs = .ok file ∧ overrideFields q.overrides = .ok overrides
      ∧ layeredSettings target file overrides = .ok s := by
  simp only [loadSettings_eq, bind_eq_ok, liftM_fault_eq_ok]
  constructor
  · rintro ⟨target, htarget, file, hfile, overrides, hoverrides, hs⟩
    exact ⟨target, file, overrides, htarget, hfile, hoverrides, hs⟩
  · rintro ⟨target, file, overrides, htarget, hfile, hoverrides, hs⟩
    exact ⟨target, htarget, file, hfile, overrides, hoverrides, hs⟩

end EntityMapping
