import EntityMapping.CommandLine.Generate
import EntityMapping.Proofs.CommandLine.Steps
import EntityMapping.Proofs.Files.Folders

/-!
# What writing artifacts leaves

Without a file for notes, artifacts that were written fill files of one location, each under its own
name, and leave everything else as it was: `filled_of_writeArtifacts`.  One artifact is put at the
location of its path (`writeArtifact_eq_ok`); the others find the same folders, as nothing is put
where a folder is.

## Main definitions

* `Filled` — artifacts are in files of a location, and everything else is as before.
-/

namespace EntityMapping.CommandLine

open Text

variable {fs fs' : FileSystem} {folder p : Path} {extension : Value}

/-- An artifact that was written is at the location of its path in octets. -/
theorem writeArtifact_eq_ok {a : Artifact} (h : writeArtifact p a fs = (fs', .ok ())) :
    ∃ octets l, Utf8.encodeText? a.text.toList = some octets ∧ fs.target p = .ok l
      ∧ fs' = fs.put l (.file octets) := by
  unfold writeArtifact at h
  split at h
  · cases h
  · obtain ⟨cs, hcs, hwrite⟩ := FileSystem.writeText_eq_ok h
    obtain ⟨-, l, htarget, rfl⟩ := FileSystem.write_eq_ok.mp hwrite
    refine ⟨Utf8.encode cs, l, ?_, htarget, rfl⟩
    rw [Utf8.encodeText?, prints_singleton.mp hcs, Option.map_some]

/-- Artifacts are in files of a location, each under its own name, and everything else is as
before. -/
structure Filled (before after : FileSystem) (dir : Location) (extension : Value)
    (as : List Artifact) : Prop where
  here : after.here = before.here
  folders (k : Location) : before.at? k = some .folder → after.at? k = some .folder
  texts : ∀ a ∈ as, ∃ octets, Utf8.encodeText? a.text.toList = some octets
    ∧ after.at? (dir ++ [a.fileName extension]) = some (.file octets)
  others (k : Location) : (∀ a ∈ as, k ≠ dir ++ [a.fileName extension]) → after.at? k = before.at? k

theorem Filled.nil (fs : FileSystem) (dir : Location) (extension : Value) :
    Filled fs fs dir extension [] where
  here := rfl
  folders _ h := h
  texts := nofun
  others _ _ := rfl

theorem Filled.cons {dir : Location} {a : Artifact} {as : List Artifact} {octets : Utf8.Octets}
    (htext : Utf8.encodeText? a.text.toList = some octets)
    (hl : fs.at? (dir ++ [a.fileName extension]) ≠ some .folder)
    (hnew : a.fileName extension ∉ as.map (·.fileName extension))
    (h : Filled (fs.put (dir ++ [a.fileName extension]) (.file octets)) fs' dir extension as) :
    Filled fs fs' dir extension (a :: as) where
  here := h.here
  folders k hk := by
    have hne : k ≠ dir ++ [a.fileName extension] := by
      rintro rfl
      exact hl hk
    exact h.folders k ((FileSystem.at?_put_of_ne fs _ hne).trans hk)
  texts b hb := by
    rcases List.mem_cons.mp hb with rfl | hb
    · refine ⟨octets, htext, ?_⟩
      have hother : ∀ c ∈ as, dir ++ [b.fileName extension] ≠ dir ++ [c.fileName extension] := by
        intro c hc heq
        obtain ⟨-, heq⟩ := List.append_inj' heq rfl
        rw [List.singleton_inj.mp heq] at hnew
        exact hnew (List.mem_map_of_mem hc)
      rw [h.others _ hother]
      exact FileSystem.at?_put_same fs _ (by simp)
    · exact h.texts b hb
  others k hk := by
    obtain ⟨ha, hrest⟩ := List.forall_mem_cons.mp hk
    rw [h.others k hrest, FileSystem.at?_put_of_ne fs _ ha]

/-- Without a file for notes, the first artifact is written and the others after it. -/
theorem yields_writeArtifacts_cons {a : Artifact} {as : List Artifact} {paths : List Path}
    {t t' : Trace} (ho : t.outlet.file = none)
    (h : (writeArtifacts folder extension (a :: as)).Yields t paths t') :
    ∃ u rest, writeArtifact (folder.child (a.fileName extension)) a t.files = (u.files, .ok ())
      ∧ u.outlet = t.outlet ∧ (writeArtifacts folder extension as).Yields u rest t' := by
  simp only [writeArtifacts, Step.yields_bind, Step.yields_changing, Step.yields_noting,
    Step.yields_pure] at h
  obtain ⟨_, _, ⟨hwrite, rfl⟩, _, _, rfl, rest, _, hrest, -, rfl⟩ := h
  refine ⟨_, rest, ?_, ?_, hrest⟩
  · rw [Trace.files_take, Outlet.takeAll_of_file_eq_none ho]
    exact Prod.ext rfl hwrite
  · rfl

theorem filled_of_writeArtifacts {as : List Artifact} {paths : List Path} {t t' : Trace}
    (ho : t.outlet.file = none) (hnodup : (as.map (·.fileName extension)).Nodup)
    (hplain : ∀ a ∈ as, '/' ∉ (a.fileName extension).toList)
    (hfolder : ∀ fs : FileSystem, fs.here = t.files.here →
      (∀ k, t.files.at? k = some .folder → fs.at? k = some .folder) →
      ∀ l, fs.target folder ≠ .ok l)
    (h : (writeArtifacts folder extension as).Yields t paths t') :
    Filled t.files t'.files (Location.along (t.files.start folder) folder.parts) extension as
      ∧ (as ≠ [] → t'.files.walk (t.files.start folder) folder.parts
          = .ok (Location.along (t.files.start folder) folder.parts)
        ∧ t'.files.at? (Location.along (t.files.start folder) folder.parts) = some .folder) := by
  induction as generalizing t paths with
  | nil =>
    obtain ⟨-, rfl⟩ := Step.yields_pure.mp h
    exact ⟨.nil _ _ _, fun h => absurd rfl h⟩
  | cons a r ih =>
    obtain ⟨u, rest, hwrite, houtlet, hrest⟩ := yields_writeArtifacts_cons ho h
    obtain ⟨octets, l, htext, htarget, hput⟩ := writeArtifact_eq_ok hwrite
    obtain ⟨rfl, hl, hwalk, hdir⟩ := FileSystem.target_child (hplain a List.mem_cons_self)
      (hfolder t.files rfl fun _ => id) htarget
    obtain ⟨hnew, hnodup⟩ := List.nodup_cons.mp hnodup
    have hhere : u.files.here = t.files.here := by rw [hput]; rfl
    have hkept (k : Location) (hk : t.files.at? k = some .folder) :
        u.files.at? k = some .folder := by
      rw [hput, FileSystem.at?_put_of_ne t.files, hk]
      rintro rfl
      exact hl hk
    have hstart : u.files.start folder = t.files.start folder := by
      rw [FileSystem.start, FileSystem.start, hhere]
    have hfolder' (fs : FileSystem) (hfs : fs.here = u.files.here)
        (hfolders : ∀ k, u.files.at? k = some .folder → fs.at? k = some .folder) :
        ∀ l, fs.target folder ≠ .ok l :=
      hfolder fs (hfs.trans hhere) fun k hk => hfolders k (hkept k hk)
    obtain ⟨hfilled, -⟩ := ih (houtlet ▸ ho) hnodup
      (fun b hb => hplain b (List.mem_cons_of_mem a hb)) hfolder' hrest
    rw [hstart, hput] at hfilled
    have hall := Filled.cons htext hl hnew hfilled
    exact ⟨hall, fun _ => ⟨FileSystem.walk_of_folders hall.folders hwalk hdir,
      hall.folders _ hdir⟩⟩

end EntityMapping.CommandLine
