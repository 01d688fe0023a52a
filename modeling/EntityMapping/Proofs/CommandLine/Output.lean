import EntityMapping.Proofs.CommandLine.Endings
import EntityMapping.Proofs.CommandLine.OneCall
import EntityMapping.Proofs.CommandLine.Writing
import EntityMapping.Proofs.Generation.Coherence

/-!
# What the command that generates leaves

Without a file for notes, the command that generates changes nothing before it comes to writing, and
then the artifacts that generation in one call gives are in files directly in the folder for them
(`run_writes`).  Gathering is still, and so is presenting what is not written
(`isStill_gather`, `isStill_present`).  The files of the artifacts are different ones, since the
check of the settings lets only a text be the name of the shared base
(`Generates.nodup_fileNames`).

## Main definitions

* `Writes`, `ComesToWriting` — a command comes to writing, by what it has generated and by what
  generation in one call gives.
* `Written` — artifacts are in files directly in a folder, and everything else is as before.

## Main results

* `run_writes` — what the program does to files.
-/

namespace EntityMapping.CommandLine

open Text

variable {ask : String → Reply} {r : GenerateRequest} {fs fs' : FileSystem} {o : Outlet}
  {g : Generated} {t t' : Trace} {time : String} {args : List String}

/-! ### The names of files -/

/-- Artifacts of a generation stand under different names; they are texts if that of the shared base
is one. -/
theorem names_of_generate {gen : Generator} {cs : List Candidate} {lines : Value}
    {artifacts : List (Key × Artifact)} {warnings : List String} {facts : RunFacts}
    (hbase : gen.settings.baseClassName.IsText)
    (h : (generate gen cs lines).1 = .success artifacts warnings facts) :
    ((artifacts.map (·.2)).map (·.name)).Nodup
      ∧ ∀ a ∈ artifacts.map (·.2), ∃ n, a.name = .text n := by
  have hcoherent : Run.Coherent gen (· ∈ cs) (Run.run gen lines cs {}).2 :=
    Run.Coherent.of_run (fun _ hc => hc) {}
  have hartifacts : (Run.run gen lines cs {}).2.artifacts = artifacts := by
    unfold generate at h
    rcases Run.run_cases gen lines cs {} with ⟨e, mid, -, hrun⟩ | ⟨mid, -, hrun⟩
    · rw [hrun] at h
      cases h
    · rw [hrun] at h ⊢
      exact (GenerationResult.success.inj h).1
  obtain ⟨base, hbase⟩ := hbase
  have hplaced (p : Key × Artifact) (hp : p ∈ artifacts) : p.1 = p.2.name ∧ ∃ n, p.1 = .text n := by
    obtain ⟨hname, hrole⟩ := hcoherent.placed p (hartifacts ▸ hp)
    refine ⟨hname, ?_⟩
    split at hrole
    · rw [Generator.baseName, hbase] at hrole
      exact ⟨base, (Except.ok.inj hrole).symm⟩
    · obtain ⟨n, -, hkey⟩ := hrole
      exact ⟨_, hkey⟩
  have hkeys : (artifacts.map (·.2)).map (·.name) = Assoc.keys artifacts := by
    rw [List.map_map]
    exact List.map_congr_left fun p hp => (hplaced p hp).1.symm
  rw [hkeys, ← hartifacts]
  refine ⟨hcoherent.keys_nodup, List.forall_mem_map.mpr fun p hp => ?_⟩
  obtain ⟨hname, n, hn⟩ := hplaced p (hartifacts ▸ hp)
  exact ⟨n, hname.symm.trans hn⟩

/-- Different artifacts that a command has generated have different files. -/
theorem Generates.nodup_fileNames (h : Generates ask r o fs g fs') (extension : Value) :
    (g.artifacts.map (·.fileName extension)).Nodup := by
  obtain @⟨target, s, gen, builder, manifest, cs, lines, artifacts, warnings, facts,
    ⟨-, -, ⟨checks, hcheck⟩, hgen⟩, -, -, hresult⟩ := h
  have htext : ¬LacksText s := by
    rw [← escapes_check, hcheck]
    exact not_escapes_ok checks
  have hbase : gen.settings.baseClassName.IsText := by
    obtain ⟨_, _, -, hcreate⟩ := createGenerator_eq_ok hgen
    rw [(create_eq_ok hcreate).1]
    exact not_not.mp fun hno => htext (Or.inl hno)
  obtain ⟨hnodup, hnames⟩ := names_of_generate hbase hresult
  refine List.Nodup.map_on (fun a ha b hb heq => ?_) hnodup.of_map
  obtain ⟨m, hm⟩ := hnames a ha
  obtain ⟨n, hn⟩ := hnames b hb
  have hdisplay : a.name.toValue.display = b.name.toValue.display :=
    (String.append_left_inj _).mp heq
  have hname : a.name = b.name := by
    rw [hm, hn] at hdisplay ⊢
    exact congrArg Key.text hdisplay
  exact List.inj_on_of_nodup_map hnodup ha hb hname

/-! ### Gathering and presenting -/

theorem isStill_gather (ask : String → Reply) (r : GenerateRequest) : (gather ask r).IsStill := by
  unfold gather
  refine Step.isStill_bind (Step.isStill_ofExcept _) fun target => ?_
  refine Step.isStill_bind (Step.isStill_reading _) fun s => ?_
  refine Step.isStill_bind (Step.isStill_ofExcept _) fun warnings => ?_
  refine Step.isStill_bind (Step.isStill_forIn_print _ _) fun _ => ?_
  refine Step.isStill_bind (Step.isStill_reading _) fun gen => ?_
  refine Step.isStill_bind (Step.isStill_ofExcept _) fun builder => ?_
  refine Step.isStill_bind (Step.isStill_noted _) fun _ => ?_
  refine Step.isStill_bind (Step.isStill_noted _) fun manifest => ?_
  refine Step.isStill_bind (Step.isStill_noted _) fun cs => ?_
  refine Step.isStill_bind (Step.isStill_noted _) fun lines => ?_
  refine Step.isStill_bind (Step.isStill_noting _) fun _ => ?_
  split
  · exact Step.isStill_throw _
  · exact Step.isStill_pure _

/-- A command comes to writing what it generated into a folder. -/
structure Writes (r : GenerateRequest) (g : Generated) (folder : Path) : Prop where
  some : g.artifacts ≠ []
  kept : r.dryRun = false
  placed : r.folder g.settings = .ok folder

/-- Nothing but writing changes files. -/
theorem isStill_present (h : ¬∃ folder, Writes r g folder) : (present r g).IsStill := by
  unfold present
  by_cases hnil : g.artifacts = []
  · rw [if_pos (by rw [hnil]; rfl)]
    exact Step.isStill_printAll _
  · rw [if_neg (by simpa using hnil)]
    cases hdry : r.dryRun with
    | true => exact Step.isStill_printAll _
    | false =>
      rw [if_neg (by decide)]
      cases hfolder : r.folder g.settings with
      | ok folder => exact absurd ⟨folder, hnil, hdry, hfolder⟩ h
      | error e =>
        intro t _
        have hlift : (liftM (.error e : Except Fault Path) : Except Failure Path)
            = .error (.fault e) := rfl
        rw [hlift, run_bind_of_error (Step.run_ofExcept _ t)]
        exact ⟨rfl, rfl⟩

/-- Artifacts are in files directly in a folder, each in a file of its own, and everything else is
as before, except that there may be further folders. -/
structure Written (before after : FileSystem) (folder : Path) (dir : Location) (extension : Value)
    (as : List Artifact) : Prop where
  located : after.locate folder = .ok dir
  isFolder : after.at? dir = some .folder
  texts : ∀ a ∈ as, ∃ octets, Utf8.encodeText? a.text.toList = some octets
    ∧ after.at? (dir ++ [a.fileName extension]) = some (.file octets)
  nodup : (as.map (·.fileName extension)).Nodup
  others (k : Location) : (∀ a ∈ as, k ≠ dir ++ [a.fileName extension]) →
    after.at? k = before.at? k ∨ before.at? k = none ∧ after.at? k = some .folder

theorem makeFolder_eq_ok {folder : Path} (h : (makeFolder folder fs).2 = .ok ()) :
    (fs.ensureFolder folder).2 = none
      ∧ (makeFolder folder fs).1 = (fs.ensureFolder folder).1 := by
  unfold makeFolder at h ⊢
  split at h
  · cases h
  · cases h
  · rename_i heq
    rw [heq]
    exact ⟨rfl, rfl⟩

/-- What a command leaves that writes artifacts, without a file for notes. -/
theorem written_of_present (ho : t.outlet.file = none) (hsome : g.artifacts ≠ [])
    (hkept : r.dryRun = false)
    (hnodup : (g.artifacts.map (·.fileName g.facts.fileExtension)).Nodup)
    (hplain : ∀ a ∈ g.artifacts, '/' ∉ (a.fileName g.facts.fileExtension).toList)
    (h : (present r g).Yields t () t') :
    ∃ folder dir, r.folder g.settings = .ok folder
      ∧ Written t.files t'.files folder dir g.facts.fileExtension g.artifacts := by
  unfold present at h
  rw [if_neg (by simpa using hsome), hkept, if_neg (by decide)] at h
  simp only [Step.yields_bind, Step.yields_ofExcept, Step.yields_changing, Step.yields_printAll,
    liftM_fault_eq_ok] at h
  obtain ⟨folder, _, ⟨hplaced, rfl⟩, _, made, ⟨hmake, hmade⟩, paths, u, hwrite, rfl⟩ := h
  obtain ⟨hensure, hensured⟩ := makeFolder_eq_ok hmake
  have hfiles : made.files = (t.files.ensureFolder folder).1 := by rw [← hmade, ← hensured]
  have hadded : t.files.Added made.files := hfiles ▸ FileSystem.added_ensureFolder t.files folder
  have hfolder (fs : FileSystem) (hhere : fs.here = made.files.here)
      (hfolders : ∀ k, made.files.at? k = some .folder → fs.at? k = some .folder) :
      ∀ l, fs.target folder ≠ .ok l :=
    FileSystem.target_ne_ok_of_ensureFolder hensure (hhere.trans hadded.here) (hfiles ▸ hfolders)
  obtain ⟨hfilled, hdir⟩ := filled_of_writeArtifacts (hmade ▸ ho) hnodup hplain hfolder hwrite
  obtain ⟨hwalk, hisFolder⟩ := hdir hsome
  obtain ⟨-, hlength, -⟩ := FileSystem.ensureFolder_eq_none hensure
  have hstart : u.files.start folder = made.files.start folder := by
    rw [FileSystem.start, FileSystem.start, hfilled.here]
  refine ⟨folder, _, hplaced, ?_, hisFolder, hfilled.texts, hnodup, fun k hk => ?_⟩
  · rw [Trace.files_print, FileSystem.locate, if_neg (by omega), hstart, hwalk]
  · rw [Trace.files_print, hfilled.others k hk]
    exact hadded.at? k

/-! ### The command that generates -/

/-- Without a file for notes, all files stay unless a command has generated artifacts and comes to
writing them. -/
theorem still_of_not_writes (ho : t.outlet.file = none)
    (h : ¬∃ g folder, Generates ask r t.outlet t.files g t.files ∧ Writes r g folder) :
    ((runGenerate ask r).run t).2.files = t.files
      ∧ ((runGenerate ask r).run t).2.outlet = t.outlet := by
  obtain ⟨hfiles, houtlet⟩ := isStill_gather ask r t ho
  rcases hrun : (gather ask r).run t with ⟨e | g, u⟩
  · rw [hrun] at hfiles houtlet
    rw [runGenerate, run_bind_of_error hrun]
    exact ⟨hfiles, houtlet⟩
  · rw [hrun] at hfiles houtlet
    rw [runGenerate, run_bind_of_ok hrun]
    obtain ⟨hgenerates, -⟩ := generates_of_yields ((Step.yields_of_run hrun).mpr ⟨rfl, rfl⟩)
    have hno : ¬∃ folder, Writes r g folder := by
      rintro ⟨folder, hwrites⟩
      exact h ⟨g, folder, hfiles ▸ hgenerates, hwrites⟩
    obtain ⟨hfiles', houtlet'⟩ := isStill_present hno u (houtlet ▸ ho)
    exact ⟨hfiles'.trans hfiles, houtlet'.trans houtlet⟩

/-- Without a file for notes, a command that succeeds has generated artifacts, and written them if
they are not only to be shown. -/
theorem written_of_yields (ho : t.outlet.file = none) (h : (runGenerate ask r).Yields t () t') :
    ∃ g, Generates ask r t.outlet t.files g t.files ∧ (r.dryRun = false → g.artifacts ≠ [] →
      (∀ a ∈ g.artifacts, '/' ∉ (a.fileName g.facts.fileExtension).toList) →
      ∃ folder dir, r.folder g.settings = .ok folder
        ∧ Written t.files t'.files folder dir g.facts.fileExtension g.artifacts) := by
  obtain ⟨g, u, hgather, hpresent⟩ := Step.yields_bind.mp h
  obtain ⟨hgenerates, houtlet⟩ := generates_of_yields hgather
  obtain ⟨hfiles, -⟩ := (generates_iff ho).mp hgenerates
  rw [hfiles] at hgenerates
  refine ⟨g, hgenerates, fun hkept hsome hplain => ?_⟩
  have hwritten := written_of_present (houtlet ▸ ho) hsome hkept
    (hgenerates.nodup_fileNames g.facts.fileExtension) hplain hpresent
  rwa [hfiles] at hwritten

/-- The program with a command that generates and without a file for notes: the outlet that it
works with, and the files afterwards. -/
theorem exists_outlet (hargs : Command.ofArguments args = .ok (some (.generate r)))
    (hlog : r.logFile = .null) :
    ∃ o : Outlet, o.file = none
      ∧ (((runGenerate ask r).run { files := fs, outlet := o }).2.outlet = o →
        (run fs ask time args).files
          = ((runGenerate ask r).run { files := fs, outlet := o }).2.files)
      ∧ ((run fs ask time args).ending = .finished 0 →
        ∃ t', (runGenerate ask r).Yields { files := fs, outlet := o } () t'
          ∧ (run fs ask time args).files = t'.files) := by
  obtain ⟨threshold, hlevel⟩ := exists_thresholdOf_level (.generate r)
  have opened : openJournal fs time (Command.generate r).level (Command.generate r).logFile
      = (.ok ⟨threshold, none, time⟩, fs) := by
    rw [openJournal, hlevel, Command.logFile, hlog]
  have hrun : run fs ask time args = runCommand fs ask time (.generate r) := by rw [run, hargs]
  refine ⟨⟨threshold, none, time⟩, rfl, ?_⟩
  rw [hrun, runCommand, opened]
  dsimp only [Command.run]
  rcases hcommand : (runGenerate ask r).run { files := fs, outlet := ⟨threshold, none, time⟩ } with
    ⟨e | _, t⟩
  · cases hreported : e.isReported with
    | true =>
      simp only [report, hreported, if_true, Ending.finished.injEq, one_ne_zero, false_implies,
        and_true]
      intro houtlet
      exact Outlet.takeAll_of_file_eq_none (congrArg Outlet.file houtlet) t.files _
    | false => simp [report, hreported]
  · exact ⟨fun _ => rfl, fun _ => ⟨t, (Step.yields_of_run hcommand).mpr ⟨rfl, rfl⟩, rfl⟩⟩

/-- A command comes to writing artifacts into a folder: its settings pass the check, generation in
one call gives the artifacts, and they are not only to be shown. -/
structure ComesToWriting (ask : String → Reply) (r : GenerateRequest) (fs : FileSystem)
    (s : Settings) (artifacts : List (Key × Artifact)) (folder : Path) : Prop where
  checked : ∃ checks, s.check = .ok checks
  generated : ∃ warnings facts, GeneratesAtOnce ask r fs s (.success artifacts warnings facts)
  some : artifacts ≠ []
  kept : r.dryRun = false
  placed : r.folder s = .ok folder

/-- What the program does to files with a command that generates and without a file for notes.  It
changes nothing unless it comes to writing.  If it ends with code 0, generation in one call gives
artifacts; unless they are only to be shown, they are in files directly in the folder for them, and
everything else is as before, except that there may be further folders. -/
theorem run_writes (hargs : Command.ofArguments args = .ok (some (.generate r)))
    (hlog : r.logFile = .null) :
    ((run fs ask time args).files ≠ fs →
      ∃ s artifacts folder, ComesToWriting ask r fs s artifacts folder)
    ∧ ((run fs ask time args).ending = .finished 0 → ∃ s artifacts warnings facts,
      GeneratesAtOnce ask r fs s (.success artifacts warnings facts)
        ∧ (r.dryRun = false → artifacts ≠ [] →
          (∀ p ∈ artifacts, '/' ∉ (p.2.fileName facts.fileExtension).toList) →
          ∃ folder dir, r.folder s = .ok folder
            ∧ Written fs (run fs ask time args).files folder dir facts.fileExtension
              (artifacts.map (·.2)))) := by
  obtain ⟨o, ho, hstill, hending⟩ := exists_outlet hargs hlog
  constructor
  · intro hne
    have hwrites : ∃ g folder, Generates ask r o fs g fs ∧ Writes r g folder := by
      by_contra hno
      have ho' : ({ files := fs, outlet := o } : Trace).outlet.file = none := ho
      obtain ⟨hfiles, houtlet⟩ := still_of_not_writes ho' hno
      exact hne ((hstill houtlet).trans hfiles)
    obtain ⟨g, folder, hgenerates, hwrites⟩ := hwrites
    obtain ⟨-, checked, artifacts, hartifacts, honce⟩ := (generates_iff ho).mp hgenerates
    refine ⟨g.settings, artifacts, folder, checked, ⟨_, _, honce⟩, ?_, hwrites.kept,
      hwrites.placed⟩
    rintro rfl
    exact hwrites.some hartifacts
  · intro hfinished
    obtain ⟨t', hyields, hfiles⟩ := hending hfinished
    obtain ⟨g, hgenerates, hwritten⟩ := written_of_yields ho hyields
    obtain ⟨-, -, artifacts, hartifacts, honce⟩ := (generates_iff ho).mp hgenerates
    refine ⟨g.settings, artifacts, g.warnings, g.facts, honce, fun hkept hsome hplain => ?_⟩
    rw [hfiles, ← hartifacts]
    refine hwritten hkept ?_ ?_
    · rwa [hartifacts, ne_eq, List.map_eq_nil_iff]
    · rw [hartifacts]
      exact List.forall_mem_map.mpr hplain

namespace Sample

/-- The lines of a manifest with one declaration. -/
def manifestLines : List String := [
  "\x7b\"types\": [\x7b\"name\": \"User\"\x7d],",
  "\"declarations\": [\x7b\"name\": \"D\",",
  "\"attributes\":", "[\"GenerateConfiguration\"],",
  "\"methods\": [\x7b", "\"name\": \"Configure\",",
  "\"parameters\": [\x7b", "\"type\": \"EntityTypeBuilder<User>\"\x7d]\x7d]\x7d]\x7d"]

/-- A file that holds texts one after the other. -/
def fileOf (texts : List String) : Node := .file (texts.flatMap fun s => Utf8.encode s.toList)

/-- Files with a manifest, a settings file that names a folder with templates, and the templates, of
which one prints the folder for generated files. -/
def templateFiles : FileSystem :=
  (((FileSystem.empty ["work"]).place ["work", "in", "m.json"] (fileOf manifestLines)).place
    ["work", "c.json"] (fileOf ["\x7b\"template_dir\": \"t\"\x7d"])).place
    ["work", "t", "audit_base.cs.j2"] (fileOf ["\x7b\x7b config.output_dir \x7d\x7d"])
    |>.place ["work", "t", "entity_config.cs.j2"] (fileOf ["user"])

/-- Arguments that name the settings file and a folder for generated files. -/
def templateArguments : List String :=
  ["generate", "in/m.json", "--config", "c.json", "--output-dir", "out"]

/-- What these arguments ask for. -/
def templateRequest : GenerateRequest :=
  { manifest := "in/m.json", config := .text "c.json", outputDir := .text "out" }

/-- Whether the program ends with code 0. -/
def isDone : Ending → Bool
  | .finished 0 => true
  | _ => false

theorem eq_finished_of_isDone {e : Ending} (h : isDone e = true) : e = .finished 0 := by
  unfold isDone at h
  split at h
  · rfl
  · cases h

/-- The texts of the artifacts that a generation gives. -/
def texts? : Except Failure GenerationResult → Option (List String)
  | .ok (.success artifacts _ _) => some (artifacts.map (·.2.text))
  | _ => none

/-- The texts that generation in one call gives for the fields of the settings file alone. -/
def textsOfFile : Option (List String) := do
  let file ← (loadSettingsFile templateFiles (.ofText "c.json")).toOption
  let manifest ← (readDocument templateFiles (.ofText "in/m.json")).toOption
  texts? (Registry.bundled.generateManifest templateFiles "csharp" (.value (.object file)) manifest
    .null).1

theorem ofArguments_templateArguments :
    Command.ofArguments templateArguments = .ok (some (.generate templateRequest)) := rfl

theorem run_templateFiles :
    isDone (run templateFiles noNetwork "" templateArguments).ending = true
      ∧ (run templateFiles noNetwork "" templateArguments).files.at?
        ["work", "out", "AuditEntityConfiguration.g.cs"] = some (fileOf ["out\n"]) := by
  decide +kernel

end Sample

open Sample

/-- A command that writes with templates of its own. -/
theorem run_writes_template :
    Command.ofArguments templateArguments = .ok (some (.generate templateRequest))
      ∧ templateRequest.logFile = .null
      ∧ (∃ s artifacts folder,
        ComesToWriting noNetwork templateRequest templateFiles s artifacts folder)
      ∧ ∃ s artifacts warnings facts, GeneratesAtOnce noNetwork templateRequest templateFiles s
        (.success artifacts warnings facts) := by
  obtain ⟨hfinished, hwritten⟩ := run_templateFiles
  have hfiles : (run templateFiles noNetwork "" templateArguments).files ≠ templateFiles := by
    intro heq
    rw [heq] at hwritten
    exact absurd hwritten (by decide +kernel)
  obtain ⟨hchanges, hdone⟩ := run_writes ofArguments_templateArguments rfl
  obtain ⟨s, artifacts, warnings, facts, honce, -⟩ := hdone (eq_finished_of_isDone hfinished)
  exact ⟨ofArguments_templateArguments, rfl, hchanges hfiles, s, artifacts, warnings, facts, honce⟩

/-- A template may print the folder for generated files, which an option overrides, so the fields of
the settings file alone give another text than the one that is written. -/
theorem run_writes_outputDir :
    Command.ofArguments templateArguments = .ok (some (.generate templateRequest))
      ∧ isDone (run templateFiles noNetwork "" templateArguments).ending = true
      ∧ (run templateFiles noNetwork "" templateArguments).files.at?
        ["work", "out", "AuditEntityConfiguration.g.cs"] = some (fileOf ["out\n"])
      ∧ textsOfFile = some ["None\n", "user\n"] :=
  ⟨ofArguments_templateArguments, run_templateFiles.1, run_templateFiles.2, by decide +kernel⟩

end EntityMapping.CommandLine
