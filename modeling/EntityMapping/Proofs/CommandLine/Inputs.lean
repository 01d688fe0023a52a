import EntityMapping.Proofs.CommandLine.Gathering
import EntityMapping.Proofs.CommandLine.Settings
import EntityMapping.Proofs.Manifest.Loading
import EntityMapping.Proofs.Resource.Neighbour

/-!
# What a command reads

The manifest and the list of audit fields are not loaded, without a report, just where there is a
hazard (`escapes_findDocument`, `escapes_parseDocument`, `escapes_auditLines`).

## Main definitions

* `AddressHazard`, `FileHazard`, `NeighbourHazard` — what keeps lines from being loaded from an
  address, a file, and a file next to the manifest.
* `AuditHazard` — what keeps the list of audit fields from being loaded or forgiven.
-/

namespace EntityMapping.CommandLine

variable {ask : String → Reply} {r : GenerateRequest} {fs : FileSystem} {p : Path}

/-! ### The manifest -/

/-- What keeps the lines at an address from being loaded without a report: the address is no text,
its host is malformed, or the answer has no status. -/
inductive AddressHazard (ask : String → Reply) : Value → Prop
  | noText {v} (h : ¬v.IsText) : AddressHazard ask v
  | host {a e} (h : Address.isComplete a = .error e) : AddressHazard ask (.text a)
  | noStatus {a} (hcomplete : Address.isComplete a = .ok true) (h : ask a = .noStatus) :
    AddressHazard ask (.text a)

/-- What keeps the lines in a file from being loaded without a report: it is named by no text, or it
cannot be looked up. -/
inductive FileHazard (fs : FileSystem) : Value → Prop
  | noText {v} (h : ¬v.IsText) : FileHazard fs v
  | tooLong {name} (h : fs.TooLong (.ofText name)) : FileHazard fs (.text name)

/-- What keeps the lines in a file of a folder from being loaded without a report: the folder, or a
name that the search for the file comes to, cannot be looked up, or the file is wanted by no text. -/
inductive NeighbourHazard (fs : FileSystem) (folder : Path) (wanted : Value) : Prop
  | folder (h : fs.TooLong folder)
  | noText (hfolder : fs.isFolder folder = .ok true) (h : ¬wanted.IsText)
  | entry {text name} (hwanted : wanted = .text text) (hcomes : fs.ComesTo folder text name)
    (h : fs.TooLong (folder.child name))

/-- What keeps the list of audit fields from being loaded or forgiven. -/
inductive AuditHazard (ask : String → Reply) (r : GenerateRequest) (fs : FileSystem)
    (s : Settings) : Prop
  | address (hurl : r.auditFieldsUrl.truthy = true) (h : AddressHazard ask r.auditFieldsUrl)
  | file (hurl : r.auditFieldsUrl.truthy = false) (hfile : r.auditFields.truthy = true)
    (h : FileHazard fs r.auditFields)
  | neighbour (hurl : r.auditFieldsUrl.truthy = false) (hfile : r.auditFields.truthy = false)
    (h : NeighbourHazard fs r.manifestPath.parent s.auditFieldsFile)

theorem escapes_auditLines_iff {s : Settings} :
    Escapes (r.auditLines fs ask s).1 ↔ Escapes (r.auditSource fs ask s).1 := by
  unfold GenerateRequest.auditLines
  split
  · rename_i hsource
    rw [hsource]
    exact iff_of_false (not_escapes_ok none) fun h => by cases escapes_error.mp h
  · rfl

theorem escapes_loadFileLines : Escapes (loadFileLines fs p).1 ↔ fs.TooLong p := by
  unfold loadFileLines
  cases hfile : fs.isFile p with
  | error e =>
    obtain ⟨hlong, rfl⟩ := FileSystem.isFile_eq_error.mp hfile
    exact iff_of_true ⟨_, rfl, rfl⟩ hlong
  | ok there =>
    have hnot : ¬fs.TooLong p := fun h => by
      rw [FileSystem.isFile_eq_error.mpr ⟨h, rfl⟩] at hfile
      cases hfile
    refine iff_of_false ?_ hnot
    cases there with
    | false => exact not_escapes_ok none
    | true =>
      dsimp only
      split
      · exact fun h => by cases escapes_error.mp h
      · split
        · exact fun h => by cases escapes_error.mp h
        · exact not_escapes_ok _

theorem escapes_lines {reply : Reply} {address : String} :
    Escapes (reply.lines address).1 ↔ reply = .noStatus := by
  cases reply with
  | answer status text =>
    unfold Reply.lines
    dsimp only
    split <;> simp [Failure.isReported]
  | _ => simp [Reply.lines, Failure.isReported]

theorem escapes_loadAddressLines {v : Value} :
    Escapes (loadAddressLines ask v).1 ↔ AddressHazard ask v := by
  have hnot {a : String} : ¬¬(Value.text a).IsText := not_not.mpr ⟨a, rfl⟩
  cases v with
  | text a =>
    unfold loadAddressLines
    dsimp only
    cases hcomplete : Address.isComplete a with
    | error e => exact iff_of_true (escapes_error.mpr rfl) (.host hcomplete)
    | ok complete =>
      cases complete with
      | false =>
        refine iff_of_false (fun h => nomatch escapes_error.mp h) ?_
        rintro (h | h | ⟨h, -⟩)
        · exact hnot h
        · exact nomatch hcomplete.symm.trans h
        · exact nomatch hcomplete.symm.trans h
      | true =>
        refine escapes_lines.trans ⟨.noStatus hcomplete, ?_⟩
        rintro (h | h | ⟨-, h⟩)
        · exact absurd h hnot
        · exact nomatch hcomplete.symm.trans h
        · exact h
  | _ => exact iff_of_true (escapes_error.mpr rfl) (.noText fun ⟨_, h⟩ => nomatch h)

theorem escapes_loadLines_file {v : Value} :
    Escapes (loadLines fs ask (.file v)).1 ↔ FileHazard fs v := by
  cases v with
  | text name =>
    have hload : loadLines fs ask (.file (.text name)) = loadFileLines fs (.ofText name) := rfl
    rw [hload, escapes_loadFileLines]
    refine ⟨.tooLong, ?_⟩
    rintro (h | h)
    · exact absurd ⟨name, rfl⟩ h
    · exact h
  | _ => exact iff_of_true (escapes_error.mpr rfl) (.noText fun ⟨_, h⟩ => nomatch h)

theorem escapes_findFile_text {folder : Path} {text : String} :
    Escapes (fs.findFile folder (.text text))
      ↔ ∃ e, fs.findFile folder (.text text) = .error e := by
  constructor
  · exact fun ⟨e, he, _⟩ => ⟨e, he⟩
  · rintro ⟨e, he⟩
    obtain ⟨p, rfl⟩ := FileSystem.findFile_eq_error he
    exact ⟨_, he, rfl⟩

theorem escapes_findFile {folder : Path} {wanted : Value} :
    Escapes (fs.findFile folder wanted) ↔ NeighbourHazard fs folder wanted := by
  by_cases htext : wanted.IsText
  · obtain ⟨text, rfl⟩ := htext
    rw [escapes_findFile_text, FileSystem.exists_findFile_eq_error]
    constructor
    · rintro (h | ⟨name, hcomes, h⟩)
      · exact .folder h
      · exact .entry rfl hcomes h
    · rintro (h | ⟨-, h⟩ | ⟨⟨⟩, hcomes, h⟩)
      · exact Or.inl h
      · exact absurd ⟨text, rfl⟩ h
      · exact Or.inr ⟨_, hcomes, h⟩
  · unfold FileSystem.findFile
    cases hfolder : fs.isFolder folder with
    | error e =>
      obtain ⟨hlong, rfl⟩ := FileSystem.isFolder_eq_error.mp hfolder
      exact iff_of_true ⟨_, rfl, rfl⟩ (.folder hlong)
    | ok there =>
      cases there with
      | false =>
        refine iff_of_false (not_escapes_ok none) ?_
        rintro (h | ⟨h, -⟩ | ⟨-, hcomes, -⟩)
        · exact nomatch (FileSystem.isFolder_eq_error.mpr ⟨h, rfl⟩).symm.trans hfolder
        · exact nomatch h.symm.trans hfolder
        · exact nomatch hcomes.isFolder.symm.trans hfolder
      | true =>
        refine iff_of_true ?_ (.noText hfolder htext)
        cases wanted with
        | text text => exact absurd ⟨text, rfl⟩ htext
        | _ => exact ⟨_, rfl, rfl⟩

theorem escapes_neighbourLines {folder : Path} {wanted : Value} {notes : List Note} :
    Escapes (match fs.findFile folder wanted with
      | .error e => (Except.error e, [])
      | .ok (some p) => loadFileLines fs p
      | .ok none => (Except.ok none, notes)).1
      ↔ NeighbourHazard fs folder wanted := by
  rw [← escapes_findFile]
  cases hpath : fs.findFile folder wanted with
  | error e => exact escapes_error.trans escapes_error.symm
  | ok found =>
    refine iff_of_false ?_ (not_escapes_ok found)
    cases found with
    | none => exact not_escapes_ok none
    | some path =>
      intro h
      have hlong : fs.TooLong path := escapes_loadFileLines.mp h
      have hfile := FileSystem.isFile_of_findFile hpath
      rw [FileSystem.isFile_eq_error.mpr ⟨hlong, rfl⟩] at hfile
      cases hfile

/-- The list of audit fields is not loaded, without a report, just where there is a hazard. -/
theorem escapes_auditLines {s : Settings} :
    Escapes (r.auditLines fs ask s).1 ↔ AuditHazard ask r fs s := by
  rw [escapes_auditLines_iff]
  unfold GenerateRequest.auditSource
  cases hurl : r.auditFieldsUrl.truthy with
  | true =>
    rw [if_pos rfl, loadLines, escapes_map, escapes_loadAddressLines]
    refine ⟨.address hurl, ?_⟩
    rintro (⟨-, h⟩ | ⟨hno, -, -⟩ | ⟨hno, -, -⟩)
    · exact h
    · exact nomatch hurl.symm.trans hno
    · exact nomatch hurl.symm.trans hno
  | false =>
    rw [if_neg (by decide)]
    cases hfile : r.auditFields.truthy with
    | true =>
      rw [if_pos rfl, escapes_loadLines_file]
      refine ⟨.file hurl hfile, ?_⟩
      rintro (⟨hno, -⟩ | ⟨-, -, h⟩ | ⟨-, hno, -⟩)
      · exact nomatch hurl.symm.trans hno
      · exact h
      · exact nomatch hfile.symm.trans hno
    | false =>
      rw [if_neg (by decide)]
      refine escapes_neighbourLines.trans ⟨AuditHazard.neighbour hurl hfile, ?_⟩
      rintro (⟨hno, -⟩ | ⟨-, hno, -⟩ | ⟨-, -, h⟩)
      · exact nomatch hurl.symm.trans hno
      · exact nomatch hfile.symm.trans hno
      · exact h

end EntityMapping.CommandLine
