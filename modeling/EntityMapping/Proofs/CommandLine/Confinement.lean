import EntityMapping.Proofs.CommandLine.Output

/-!
# Where artifacts are written

An artifact is written where its path leads, and nothing checks that the path of its name stays in
the folder for artifacts.  Without a file for notes, the command that generates changes nothing but
the places of the artifacts that it opens for writing, apart from new folders; each of these places
then holds the text of an artifact that has it.  The places are directly in the folder, each under
the name of its artifact and different from the others, just if no name has a separator
(`run_confined_iff`).

Names with a separator do reach the program: an entity `../Order` has its file outside of the folder
(`run_strays`), and an entity `./User` shares a file with `User` (`placeIn_eq_of_dot`).

## Main definitions

* `opened`, `openedInto` — the artifacts that are opened for writing.
* `Opens` — writing artifacts in order, with the files afterwards.
* `Delivered` — artifacts are in files at their places, and everything else is as before.
* `Confined` — the places of artifacts are directly in a folder, and different ones.

## Main results

* `run_confined_iff` — what a command changes, and when that stays in the folder.
-/

namespace EntityMapping.CommandLine

open Text

variable {ask : String → Reply} {r : GenerateRequest} {fs fs' : FileSystem} {folder p : Path}
  {extension : Value} {a : Artifact} {as : List Artifact} {g : Generated} {t : Trace}
  {time : String} {args : List String}

/-! ### One artifact -/

/-- The octets that writing an artifact leaves: none if its text cannot be encoded. -/
def textOctets (a : Artifact) : Utf8.Octets := (Utf8.encodeText? a.text.toList).getD []

/-- An artifact that cannot be opened for writing leaves everything as it is; one that can is then
where its path leads. -/
theorem writeArtifact_cases (p : Path) (a : Artifact) (fs : FileSystem) :
    (∃ e, fs.write p [] = .error e) ∧ (∃ e, writeArtifact p a fs = (fs, .error e))
      ∨ (∃ fs', fs.write p [] = .ok fs') ∧ ∃ l outcome, fs.target p = .ok l
        ∧ writeArtifact p a fs = (fs.put l (.file (textOctets a)), outcome) := by
  obtain ⟨outcome, hpieces⟩ : ∃ outcome, encodePieces [.ok a.text.toList]
      = (textOctets a, outcome) := by
    rw [encodePieces, pieceOctets, textOctets]
    cases Utf8.encodeText? a.text.toList <;> simp [encodePieces]
  unfold writeArtifact FileSystem.writeText
  rw [hpieces]
  dsimp only
  rcases FileSystem.write_cases fs p with ⟨e, hwrite⟩ | ⟨l, htarget, hwrite⟩
  · refine Or.inl ⟨⟨e, hwrite []⟩, ?_⟩
    rw [hwrite]
    cases e <;> exact ⟨_, rfl⟩
  · refine Or.inr ⟨⟨_, hwrite []⟩, l, ?_⟩
    rw [hwrite]
    dsimp only
    split
    · rename_i h
      exact ⟨_, htarget, Prod.ext (Prod.mk.inj h).1.symm rfl⟩
    · exact ⟨outcome, htarget, rfl⟩

/-! ### Writing in order -/

/-- Where the path of an artifact in a folder leads. -/
def placeIn (fs : FileSystem) (folder : Path) (extension : Value) (a : Artifact) : Location :=
  fs.destination (folder.child (a.fileName extension))

theorem placeIn_congr (h : fs'.here = fs.here) (folder : Path) (extension : Value) :
    placeIn fs' folder extension = placeIn fs folder extension :=
  funext fun _ => FileSystem.destination_congr h _

/-- The artifacts that are opened for writing into a folder, in order; the last one may be cut off,
and none is opened after the first failure. -/
def opened (folder : Path) (extension : Value) : FileSystem → List Artifact → List Artifact
  | _, [] => []
  | fs, a :: r =>
    let p := folder.child (a.fileName extension)
    match fs.write p [] with
    | .error _ => []
    | .ok _ =>
      match writeArtifact p a fs with
      | (fs, .ok _) => a :: opened folder extension fs r
      | (_, .error _) => [a]

/-- Artifacts are in files at their places, of several with one place one of them, and everything
else is as before, except that there may be further folders. -/
structure Delivered (before after : FileSystem) (place : Artifact → Location)
    (as : List Artifact) : Prop where
  here : after.here = before.here
  folders (k : Location) : before.at? k = some .folder → after.at? k = some .folder
  texts : ∀ a ∈ as, ∃ b ∈ as, place b = place a ∧ after.at? (place a) = some (.file (textOctets b))
  others (k : Location) : (∀ a ∈ as, k ≠ place a) →
    after.at? k = before.at? k ∨ before.at? k = none ∧ after.at? k = some .folder

variable {place : Artifact → Location}

theorem Delivered.of_added (h : fs.Added fs') : Delivered fs fs' place [] where
  here := h.here
  folders _ hk := h.folder_stays hk
  texts := nofun
  others k _ := h.at? k

theorem Delivered.of_added_left {fs'' : FileSystem} (hadded : fs.Added fs')
    (h : Delivered fs' fs'' place as) : Delivered fs fs'' place as where
  here := h.here.trans hadded.here
  folders k hk := h.folders k (hadded.folder_stays hk)
  texts := h.texts
  others k hk := by
    rcases h.others k hk with hsame | ⟨hnone, hfolder⟩
    · rw [hsame]
      exact hadded.at? k
    · rcases hadded.at? k with hsame | ⟨-, hmade⟩
      · exact Or.inr ⟨hsame ▸ hnone, hfolder⟩
      · cases hmade.symm.trans hnone

/-- One more artifact is delivered first. -/
theorem Delivered.cons (hl : fs.at? (place a) ≠ some .folder)
    (h : Delivered (fs.put (place a) (.file (textOctets a))) fs' place as) :
    Delivered fs fs' place (a :: as) where
  here := h.here
  folders k hk := by
    have hne : k ≠ place a := by
      rintro rfl
      exact hl hk
    exact h.folders k ((FileSystem.at?_put_of_ne fs _ hne).trans hk)
  texts b hb := by
    have hroot : place a ≠ [] := fun hnil => hl (by rw [hnil]; rfl)
    by_cases hlater : ∃ c ∈ as, place c = place b
    · obtain ⟨c, hc, hcb⟩ := hlater
      obtain ⟨d, hd, hdc, hat⟩ := h.texts c hc
      exact ⟨d, List.mem_cons_of_mem a hd, hdc.trans hcb, hcb ▸ hat⟩
    · obtain rfl : b = a := (List.mem_cons.mp hb).resolve_right fun hb => hlater ⟨b, hb, rfl⟩
      have hlast : ∀ c ∈ as, place b ≠ place c := fun c hc heq => hlater ⟨c, hc, heq.symm⟩
      have hput := FileSystem.at?_put_same fs (.file (textOctets b)) hroot
      refine ⟨b, hb, rfl, ?_⟩
      rcases h.others (place b) hlast with hsame | ⟨hnone, -⟩
      · exact hsame.trans hput
      · cases hput.symm.trans hnone
  others k hk := by
    obtain ⟨ha, hrest⟩ := List.forall_mem_cons.mp hk
    have hput := FileSystem.at?_put_of_ne fs (.file (textOctets a)) ha
    rw [← hput]
    exact h.others k hrest

/-- Writing artifacts into a folder in order: the artifacts that are opened for writing, and the
files afterwards. -/
inductive Opens (folder : Path) (extension : Value) :
    FileSystem → List Artifact → List Artifact → FileSystem → Prop
  | nil {fs : FileSystem} : Opens folder extension fs [] [] fs
  | refused {fs : FileSystem} {a : Artifact} {r : List Artifact} {e : Failure}
    (h : writeArtifact (folder.child (a.fileName extension)) a fs = (fs, .error e)) :
    Opens folder extension fs (a :: r) [] fs
  | cut {fs : FileSystem} {a : Artifact} {r : List Artifact} {e : Failure}
    (target : fs.target (folder.child (a.fileName extension)) = .ok (placeIn fs folder extension a))
    (h : writeArtifact (folder.child (a.fileName extension)) a fs
      = (fs.put (placeIn fs folder extension a) (.file (textOctets a)), .error e)) :
    Opens folder extension fs (a :: r) [a]
      (fs.put (placeIn fs folder extension a) (.file (textOctets a)))
  | next {fs fs' : FileSystem} {a : Artifact} {r written : List Artifact}
    (target : fs.target (folder.child (a.fileName extension)) = .ok (placeIn fs folder extension a))
    (h : writeArtifact (folder.child (a.fileName extension)) a fs
      = (fs.put (placeIn fs folder extension a) (.file (textOctets a)), .ok ()))
    (rest : Opens folder extension (fs.put (placeIn fs folder extension a) (.file (textOctets a)))
      r written fs') :
    Opens folder extension fs (a :: r) (a :: written) fs'

theorem exists_opens (folder : Path) (extension : Value) (fs : FileSystem) (as : List Artifact) :
    ∃ fs', Opens folder extension fs as (opened folder extension fs as) fs' := by
  induction as generalizing fs with
  | nil => exact ⟨fs, .nil⟩
  | cons a r ih =>
    rcases writeArtifact_cases (folder.child (a.fileName extension)) a fs with
      ⟨⟨e, hopen⟩, e', hwrite⟩ | ⟨⟨_, hopen⟩, l, outcome, htarget, hwrite⟩
    · rw [opened, hopen]
      exact ⟨fs, .refused hwrite⟩
    · obtain rfl : l = placeIn fs folder extension a := (FileSystem.target_destination htarget).1
      rw [opened, hopen]
      dsimp only
      rw [hwrite]
      cases outcome with
      | error e => exact ⟨_, .cut htarget hwrite⟩
      | ok u =>
        obtain ⟨fs', hrest⟩ := ih (fs.put (placeIn fs folder extension a) (.file (textOctets a)))
        exact ⟨fs', .next htarget hwrite hrest⟩

namespace Opens

variable {written : List Artifact}

/-- The artifacts that are opened for writing are the first ones. -/
theorem prefix_of (h : Opens folder extension fs as written fs') : written <+: as := by
  induction h with
  | nil => exact List.nil_prefix
  | refused => exact List.nil_prefix
  | cut => exact (List.prefix_cons_inj _).mpr List.nil_prefix
  | next _ _ _ ih => exact (List.prefix_cons_inj _).mpr ih

/-- The artifacts that are opened for writing are delivered. -/
theorem delivered (h : Opens folder extension fs as written fs') :
    Delivered fs fs' (placeIn fs folder extension) written := by
  induction h with
  | nil => exact .of_added (.refl _)
  | refused => exact .of_added (.refl _)
  | cut target => exact .cons (FileSystem.target_destination target).2 (.of_added (.refl _))
  | next target _ _ ih => exact .cons (FileSystem.target_destination target).2 ih

/-- Under a folder that cannot be written to itself, the place of an artifact that is opened for
writing is directly in the folder just if its name has no separator. -/
theorem direct_iff (h : Opens folder extension fs as written fs')
    (hfolder : ∀ fs' : FileSystem, fs'.here = fs.here →
      (∀ k, fs.at? k = some .folder → fs'.at? k = some .folder) → ∀ l, fs'.target folder ≠ .ok l)
    (ha : a ∈ written) :
    placeIn fs folder extension a = fs.destination folder ++ [a.fileName extension]
      ↔ '/' ∉ (a.fileName extension).toList := by
  induction h with
  | nil => cases ha
  | refused => cases ha
  | cut target =>
    obtain rfl := List.mem_singleton.mp ha
    exact FileSystem.destination_child_iff (hfolder _ rfl fun _ => id) target
  | @next fs fs' b r written target _ _ ih =>
    rcases List.mem_cons.mp ha with rfl | ha
    · exact FileSystem.destination_child_iff (hfolder _ rfl fun _ => id) target
    · -- The folders are still there, as nothing is put where a folder is.
      have hkept (k : Location) (hk : fs.at? k = some .folder) :
          (fs.put (placeIn fs folder extension b) (.file (textOctets b))).at? k = some .folder := by
        rw [FileSystem.at?_put_of_ne fs _, hk]
        rintro rfl
        exact (FileSystem.target_destination target).2 hk
      exact ih (fun fs' hhere hfolders =>
        hfolder fs' hhere fun k hk => hfolders k (hkept k hk)) ha

/-- Without a file for notes, the artifacts are written so. -/
theorem run_writeArtifacts (h : Opens folder extension fs as written fs') (hfiles : t.files = fs)
    (ho : t.outlet.file = none) :
    ((writeArtifacts folder extension as).run t).2.files = fs'
      ∧ ((writeArtifacts folder extension as).run t).2.outlet = t.outlet
      ∧ ((∃ paths, ((writeArtifacts folder extension as).run t).1 = .ok paths) → written = as) := by
  induction h generalizing t with
  | nil => exact ⟨hfiles, rfl, fun _ => rfl⟩
  | @refused fs a r e hwrite =>
    subst hfiles
    have hchanging := Step.run_changing (writeArtifact (folder.child (a.fileName extension)) a) t
    rw [hwrite] at hchanging
    rw [writeArtifacts, run_bind_of_error hchanging]
    refine ⟨rfl, rfl, ?_⟩
    rintro ⟨_, h⟩
    cases h
  | @cut fs a r e _ hwrite =>
    subst hfiles
    have hchanging := Step.run_changing (writeArtifact (folder.child (a.fileName extension)) a) t
    rw [hwrite] at hchanging
    rw [writeArtifacts, run_bind_of_error hchanging]
    refine ⟨rfl, rfl, ?_⟩
    rintro ⟨_, h⟩
    cases h
  | @next fs fs' a r written _ hwrite _ ih =>
    subst hfiles
    have hchanging := Step.run_changing (writeArtifact (folder.child (a.fileName extension)) a) t
    rw [hwrite] at hchanging
    rw [writeArtifacts, run_bind_of_ok hchanging, run_bind_of_ok (Step.run_noting _ _)]
    -- The note on the file goes to an outlet without a file, so the files are those just written.
    generalize hu : Trace.take _ _ = u
    have houtlet : u.outlet = t.outlet := by
      rw [← hu]
      rfl
    have hput : u.files
        = t.files.put (placeIn t.files folder extension a) (.file (textOctets a)) := by
      rw [← hu]
      exact Outlet.takeAll_of_file_eq_none ho _ _
    obtain ⟨hafter, hkept, hall⟩ := ih hput (houtlet ▸ ho)
    rcases hrun : (writeArtifacts folder extension r).run u with ⟨e | paths, v⟩
    · rw [hrun] at hafter hkept
      rw [run_bind_of_error hrun]
      refine ⟨hafter, hkept.trans houtlet, ?_⟩
      rintro ⟨_, h⟩
      cases h
    · rw [hrun] at hafter hkept hall
      rw [run_bind_of_ok hrun]
      exact ⟨hafter, hkept.trans houtlet, fun _ => congrArg (a :: ·) (hall ⟨paths, rfl⟩)⟩

end Opens

/-! ### Names without a separator -/

/-- The artifacts that are opened for writing once their folder is made. -/
def openedInto (fs : FileSystem) (folder : Path) (extension : Value) (as : List Artifact) :
    List Artifact :=
  match makeFolder folder fs with
  | (_, .error _) => []
  | (fs, .ok _) => opened folder extension fs as

theorem fst_makeFolder (folder : Path) (fs : FileSystem) :
    (makeFolder folder fs).1 = (fs.ensureFolder folder).1 := by
  unfold makeFolder
  split <;> rename_i heq <;> rw [heq]

theorem prefix_openedInto (fs : FileSystem) (folder : Path) (extension : Value)
    (as : List Artifact) : openedInto fs folder extension as <+: as := by
  unfold openedInto
  split
  · exact List.nil_prefix
  · obtain ⟨_, hopens⟩ := exists_opens folder extension _ as
    exact hopens.prefix_of

/-- The places of artifacts are directly in a folder, each under the name of its artifact, and no
two artifacts have the same place. -/
structure Confined (fs : FileSystem) (folder : Path) (extension : Value) (as : List Artifact) :
    Prop where
  direct : ∀ a ∈ as,
    placeIn fs folder extension a = fs.destination folder ++ [a.fileName extension]
  apart : (as.map (placeIn fs folder extension)).Nodup

/-- The place of an artifact that is opened for writing is directly in the folder just if its name
has no separator. -/
theorem direct_iff_of_mem_openedInto (ha : a ∈ openedInto fs folder extension as) :
    placeIn fs folder extension a = fs.destination folder ++ [a.fileName extension]
      ↔ '/' ∉ (a.fileName extension).toList := by
  unfold openedInto at ha
  rcases hmake : makeFolder folder fs with ⟨made, e | u⟩
  · rw [hmake] at ha
    cases ha
  · rw [hmake] at ha
    obtain ⟨hensure, hmade⟩ := makeFolder_eq_ok (congrArg Prod.snd hmake)
    obtain rfl : made = (fs.ensureFolder folder).1 := by rw [← hmade, hmake]
    have hhere := (FileSystem.added_ensureFolder fs folder).here
    rw [← placeIn_congr hhere, ← FileSystem.destination_congr hhere folder]
    obtain ⟨_, hopens⟩ := exists_opens folder extension (fs.ensureFolder folder).1 as
    exact hopens.direct_iff (fun fs' hhere' hfolders =>
      FileSystem.target_ne_ok_of_ensureFolder hensure (hhere'.trans hhere) hfolders) ha

/-- The artifacts that are opened for writing stay in their folder just if no name of them has a
separator. -/
theorem confined_openedInto (hnodup : (as.map (·.fileName extension)).Nodup) :
    Confined fs folder extension (openedInto fs folder extension as)
      ↔ ∀ a ∈ openedInto fs folder extension as, '/' ∉ (a.fileName extension).toList := by
  refine ⟨fun h a ha => (direct_iff_of_mem_openedInto ha).mp (h.direct a ha), fun h => ?_⟩
  have hdirect : ∀ a ∈ openedInto fs folder extension as,
      placeIn fs folder extension a = fs.destination folder ++ [a.fileName extension] :=
    fun a ha => (direct_iff_of_mem_openedInto ha).mpr (h a ha)
  refine ⟨hdirect, ?_⟩
  have hnames : ((openedInto fs folder extension as).map (·.fileName extension)).Nodup :=
    hnodup.sublist ((prefix_openedInto fs folder extension as).sublist.map _)
  refine List.Nodup.map_on (fun a ha b hb heq => ?_) hnames.of_map
  rw [hdirect a ha, hdirect b hb] at heq
  exact List.inj_on_of_nodup_map hnames ha hb (by simpa using heq)

/-- An artifact that is named with `./` has the place of the one that is named without. -/
theorem placeIn_eq_of_dot {b : Artifact}
    (hname : (b.fileName extension).toList = '.' :: '/' :: (a.fileName extension).toList)
    (hrelative : (Path.ofText (a.fileName extension)).anchor = .here) :
    placeIn fs folder extension b = placeIn fs folder extension a := by
  have hpath : Path.ofText (b.fileName extension) = Path.ofText (a.fileName extension) := by
    have hcut : cut '/' ('.' :: '/' :: (a.fileName extension).toList)
        = ['.'] :: cut '/' (a.fileName extension).toList := by
      rw [cut, if_neg (by decide), cut, if_pos rfl]
    rw [Path.ofText, Path.ofText, Path.mk.injEq]
    constructor
    · rw [hname]
      exact hrelative.symm
    · rw [pieces, hname, hcut, List.map_cons, List.filter_cons, if_neg (by decide), pieces]
  rw [placeIn, placeIn, Path.child, Path.child, hpath]

/-! ### The command that generates -/

/-- Without a file for notes, a command that comes to writing delivers the artifacts that are opened
for writing, and these are all of them if it succeeds. -/
theorem delivered_present (ho : t.outlet.file = none) (h : Writes r g folder) :
    ((present r g).run t).2.outlet = t.outlet
      ∧ Delivered t.files ((present r g).run t).2.files
        (placeIn t.files folder g.facts.fileExtension)
        (openedInto t.files folder g.facts.fileExtension g.artifacts)
      ∧ (((present r g).run t).1 = .ok () →
        openedInto t.files folder g.facts.fileExtension g.artifacts = g.artifacts) := by
  have hfolder : (liftM (r.folder g.settings) : Except Failure Path) = .ok folder :=
    liftM_fault_eq_ok.mpr h.placed
  unfold present
  rw [if_neg (by simpa using h.some), h.kept, if_neg (by decide), hfolder,
    run_bind_of_ok (Step.run_ofExcept _ t)]
  have hadded := FileSystem.added_ensureFolder t.files folder
  rw [← fst_makeFolder folder t.files] at hadded
  have hchanging := Step.run_changing (makeFolder folder) t
  unfold openedInto
  rcases hmake : makeFolder folder t.files with ⟨made, e | u⟩
  · rw [hmake] at hadded hchanging
    rw [run_bind_of_error hchanging]
    exact ⟨rfl, .of_added hadded, fun h => nomatch h⟩
  · rw [hmake] at hadded hchanging
    rw [run_bind_of_ok hchanging]
    generalize hmade : Trace.mk _ _ _ = v
    obtain rfl : v.files = made := by rw [← hmade]
    have houtlet : v.outlet = t.outlet := by rw [← hmade]
    obtain ⟨after, hopens⟩ := exists_opens folder g.facts.fileExtension v.files g.artifacts
    obtain ⟨hafter, hkept, hall⟩ := hopens.run_writeArtifacts rfl (houtlet ▸ ho)
    have hdelivered := hopens.delivered
    rw [placeIn_congr hadded.here] at hdelivered
    rcases hrun : (writeArtifacts folder g.facts.fileExtension g.artifacts).run v with
      ⟨e | paths, w⟩
    · rw [hrun] at hafter hkept
      rw [run_bind_of_error hrun]
      exact ⟨hkept.trans houtlet, hafter ▸ hdelivered.of_added_left hadded, fun h => nomatch h⟩
    · rw [hrun] at hafter hkept hall
      rw [run_bind_of_ok hrun]
      exact ⟨hkept.trans houtlet, hafter ▸ hdelivered.of_added_left hadded,
        fun _ => hall ⟨paths, rfl⟩⟩

section OneCall

variable {o : Outlet} {s : Settings} {artifacts : List (Key × Artifact)} {warnings : List String}
  {facts : RunFacts}

theorem ComesToWriting.of_generates (ho : o.file = none) (hg : Generates ask r o fs g fs)
    (hw : Writes r g folder) :
    ∃ artifacts, ComesToWriting ask r fs g.settings artifacts folder := by
  obtain ⟨-, checked, artifacts, hartifacts, honce⟩ := (generates_iff ho).mp hg
  refine ⟨artifacts, checked, ⟨_, _, honce⟩, ?_, hw.kept, hw.placed⟩
  rintro rfl
  exact hw.some hartifacts

theorem ComesToWriting.generates (ho : o.file = none)
    (h : ComesToWriting ask r fs s artifacts folder)
    (honce : GeneratesAtOnce ask r fs s (.success artifacts warnings facts)) :
    Generates ask r o fs ⟨s, artifacts.map (·.2), warnings, facts⟩ fs
      ∧ Writes r ⟨s, artifacts.map (·.2), warnings, facts⟩ folder :=
  ⟨(generates_iff ho).mpr ⟨rfl, h.checked, artifacts, rfl, honce⟩,
    mt List.map_eq_nil_iff.mp h.some, h.kept, h.placed⟩

end OneCall

/-- What the program changes with a command that generates and without a file for notes, however
it ends.  It changes nothing unless it comes to writing.  Then it delivers the artifacts that are
opened for writing, and these are all of them if it ends with code 0.  They stay in the folder for
them, each in a file of its own directly under its name, just if no name of them has a
separator. -/
theorem run_confined_iff (hargs : Command.ofArguments args = .ok (some (.generate r)))
    (hlog : r.logFile = .null) :
    ((run fs ask time args).files ≠ fs →
      ∃ s artifacts folder, ComesToWriting ask r fs s artifacts folder)
    ∧ ∀ s artifacts folder warnings facts, ComesToWriting ask r fs s artifacts folder →
      GeneratesAtOnce ask r fs s (.success artifacts warnings facts) →
      let written := openedInto fs folder facts.fileExtension (artifacts.map (·.2))
      Delivered fs (run fs ask time args).files (placeIn fs folder facts.fileExtension) written
        ∧ ((run fs ask time args).ending = .finished 0 → written = artifacts.map (·.2))
        ∧ (Confined fs folder facts.fileExtension written
          ↔ ∀ a ∈ written, '/' ∉ (a.fileName facts.fileExtension).toList) := by
  obtain ⟨o, ho, hstill, hending⟩ := exists_outlet hargs hlog
  constructor
  · intro hne
    by_contra hno
    have hnone : ¬∃ g folder, Generates ask r o fs g fs ∧ Writes r g folder := by
      rintro ⟨g, folder, hg, hw⟩
      obtain ⟨artifacts, hcomes⟩ := ComesToWriting.of_generates ho hg hw
      exact hno ⟨g.settings, artifacts, folder, hcomes⟩
    have ho' : ({ files := fs, outlet := o } : Trace).outlet.file = none := ho
    obtain ⟨hfiles, houtlet⟩ := still_of_not_writes ho' hnone
    exact hne ((hstill houtlet).trans hfiles)
  · intro s artifacts folder warnings facts hcomes honce
    obtain ⟨hg, hw⟩ := hcomes.generates ho honce
    obtain ⟨t, hgather, hfiles, houtlet⟩ :=
      Generates.exists_yields (t := { files := fs, outlet := o }) hg
    have hrun : (runGenerate ask r).run { files := fs, outlet := o }
        = (present r ⟨s, artifacts.map (·.2), warnings, facts⟩).run t :=
      run_bind_of_ok (Prod.ext hgather.result hgather.trace)
    obtain ⟨hkept, hdelivered, hall⟩ := delivered_present (t := t) (by rwa [houtlet]) hw
    rw [hfiles] at hdelivered hall
    rw [hrun] at hstill
    rw [hstill (hkept.trans houtlet)]
    refine ⟨hdelivered, fun hfinished => ?_, confined_openedInto (hg.nodup_fileNames _)⟩
    obtain ⟨t', hyields, -⟩ := hending hfinished
    exact hall (hrun ▸ hyields.result)

namespace Sample

/-- Files with a manifest of a name that leads out of a folder. -/
def strayFiles : FileSystem :=
  templateFiles.put ["work", "in", "m.json"] (fileOf [
    "\x7b\"types\": [\x7b\"name\": \"../Order\"\x7d],",
    "\"declarations\": [\x7b\"name\": \"D\",",
    "\"attributes\":", "[\"GenerateConfiguration\"],",
    "\"methods\": [\x7b", "\"name\": \"Configure\",",
    "\"parameters\": [\x7b", "\"type\": \"EntityTypeBuilder<../Order>\"\x7d]\x7d]\x7d]\x7d"])

/-- The locations of the files that another file system has and this one has not. -/
def newFiles (before after : FileSystem) : List Location :=
  (after.nodes.filter fun p => p.2 ≠ .folder ∧ before.at? p.1 = none).map (·.1)

end Sample

open Sample

/-- A command that writes with templates of its own delivers the artifacts that it opens for
writing. -/
theorem run_confined_iff_template :
    Command.ofArguments templateArguments = .ok (some (.generate templateRequest))
      ∧ templateRequest.logFile = .null
      ∧ ∃ s artifacts folder warnings facts,
        ComesToWriting noNetwork templateRequest templateFiles s artifacts folder
        ∧ GeneratesAtOnce noNetwork templateRequest templateFiles s
          (.success artifacts warnings facts)
        ∧ openedInto templateFiles folder facts.fileExtension (artifacts.map (·.2))
          = artifacts.map (·.2) := by
  obtain ⟨hfinished, hwritten⟩ := run_templateFiles
  have hfiles : (run templateFiles noNetwork "" templateArguments).files ≠ templateFiles := by
    intro heq
    rw [heq] at hwritten
    exact absurd hwritten (by decide +kernel)
  obtain ⟨hchanges, hdelivers⟩ := run_confined_iff ofArguments_templateArguments rfl
  obtain ⟨s, artifacts, folder, hcomes⟩ := hchanges hfiles
  obtain ⟨warnings, facts, honce⟩ := hcomes.generated
  obtain ⟨-, hall, -⟩ := hdelivers s artifacts folder warnings facts hcomes honce
  exact ⟨ofArguments_templateArguments, rfl, s, artifacts, folder, warnings, facts, hcomes, honce,
    hall (eq_finished_of_isDone hfinished)⟩

/-- An entity has its file outside of the folder `out` for artifacts, and the program ends with
code 0. -/
theorem run_strays :
    Command.ofArguments templateArguments = .ok (some (.generate templateRequest))
      ∧ templateRequest.logFile = .null
      ∧ isDone (run strayFiles noNetwork "" templateArguments).ending = true
      ∧ newFiles strayFiles (run strayFiles noNetwork "" templateArguments).files = [
        ["work", "out", "AuditEntityConfiguration.g.cs"],
        ["work", "OrderCommonConfiguration.g.cs"]] := by
  refine ⟨ofArguments_templateArguments, rfl, ?_⟩
  decide +kernel

end EntityMapping.CommandLine
