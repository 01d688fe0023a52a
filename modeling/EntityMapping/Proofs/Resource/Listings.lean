import EntityMapping.Proofs.Resource.Neighbour

/-!
# Listings of the same entries

Two file systems that list the same entries in different orders have the same names in a folder, in
the same order, and every path leads to the same in both.  So a search by name comes to the same in
both, and what it comes to is told by the entries alone (`FileSystem.findFile_finds`).
-/

namespace EntityMapping

open Text

namespace FileSystem

variable {fs fs' : FileSystem} {folder : Path} {wanted : String}

theorem at?_perm (hfs : fs.IsSound) (h : fs'.nodes.Perm fs.nodes) (l : Location) :
    fs'.at? l = fs.at? l := by
  rw [at?, at?, Assoc.get?_perm h.symm hfs.nodup]

section Congruence

variable (hat : ∀ l, fs'.at? l = fs.at? l) (hhere : fs'.here = fs.here)

include hat

theorem explore_congr (l : Location) (names : List String) :
    fs'.explore l names = fs.explore l names := by
  induction names generalizing l with
  | nil => rfl
  | cons name r ih => simp only [explore, hat, ih]

include hhere

theorem locate_congr (p : Path) : fs'.locate p = fs.locate p := by
  simp only [locate, walk, start, hhere, explore_congr hat]

theorem look_congr (p : Path) : fs'.look p = fs.look p := by
  simp only [look, locate_congr hat hhere, hat]

theorem firstFile_congr (folder : Path) (wanted : String) (names : List String) :
    fs'.firstFile folder wanted names = fs.firstFile folder wanted names := by
  induction names with
  | nil => rfl
  | cons name r ih => simp only [firstFile, isFile, look_congr hat hhere, ih]

end Congruence

theorem namesIn_perm (hfs : fs.IsSound) (hnodes : fs'.nodes.Perm fs.nodes)
    (hhere : fs'.here = fs.here) (folder : Path) : fs'.namesIn folder = fs.namesIn folder := by
  have hlocate : fs'.locate folder = fs.locate folder :=
    locate_congr (at?_perm hfs hnodes) hhere folder
  have hperm : (fs'.namesIn folder).Perm (fs.namesIn folder) := by
    unfold namesIn
    rw [hlocate]
    cases fs.locate folder with
    | error e => exact .refl _
    | ok l =>
      have hentries : (fs'.entriesAt l).Perm (fs.entriesAt l) := hnodes.filterMap _
      exact (List.mergeSort_perm _ _).trans
        ((hentries.map _).trans (List.mergeSort_perm _ _).symm)
  refine hperm.eq_of_pairwise (fun s t hs ht hst hts => ?_) (fs'.pairwise_namesIn folder)
    (fs.pairwise_namesIn folder)
  exact eq_of_not_precedes (hfs.isName_of_mem (hperm.mem_iff.mp hs)).isSpelled
    (hfs.isName_of_mem ht).isSpelled hts hst

theorem findFile_perm (hfs : fs.IsSound) (hnodes : fs'.nodes.Perm fs.nodes)
    (hhere : fs'.here = fs.here) (folder : Path) (wanted : Value) :
    fs'.findFile folder wanted = fs.findFile folder wanted := by
  have hat := at?_perm hfs hnodes
  have hfolder : fs'.isFolder folder = fs.isFolder folder := by
    rw [isFolder, isFolder, look_congr hat hhere]
  simp only [findFile, hfolder, namesIn_perm hfs hnodes hhere, firstFile_congr hat hhere]

/-- A search by name in a folder.  It ends well just if neither the path of the folder is too long
nor that of an entry which no file for the wanted name has its name before, and it then finds the
first of these files or, where there is none, nothing.  The order in which the files and folders are
listed makes no difference. -/
theorem findFile_finds (hfs : fs.IsSound) (hnodes : fs'.nodes.Perm fs.nodes)
    (hhere : fs'.here = fs.here) (folder : Path) (wanted : String) :
    ((∃ found, fs.findFile folder (.text wanted) = .ok found)
        ↔ ¬fs.TooLong folder ∧ ∀ name node, fs.Holds folder name node →
          fs.Foremost folder wanted name → ¬fs.TooLong (folder.child name))
      ∧ (∀ found, fs.findFile folder (.text wanted) = .ok found →
        fs.FirstFile folder wanted found)
      ∧ fs'.findFile folder (.text wanted) = fs.findFile folder (.text wanted) := by
  refine ⟨?_, fun found => firstFile_of_findFile hfs, findFile_perm hfs hnodes hhere folder _⟩
  rw [exists_eq_ok_iff, exists_findFile_eq_error_iff hfs, not_or]
  simp only [not_exists, not_and]

namespace Sample

/-- A folder in which two files and a folder have one name up to letter case. -/
def variantFiles : FileSystem where
  nodes := [(["work"], .folder), (["work", "AUDITFIELDS.txt"], .folder),
    (["work", "AuditFields.txt"], .file []), (["work", "auditfields.txt"], .file [])]
  here := ["work"]

/-- The same files and folders, listed the other way round. -/
def reversedFiles : FileSystem := { variantFiles with nodes := variantFiles.nodes.reverse }

theorem isSound_variantFiles : variantFiles.IsSound := ⟨by decide, by decide⟩

theorem findFile_variantFiles :
    variantFiles.findFile (.ofText ".") (.text "auditFields.TXT")
      = .ok (some (.ofText "AuditFields.txt")) := by
  have hnames : variantFiles.namesIn (.ofText ".")
      = ["AUDITFIELDS.txt", "AuditFields.txt", "auditfields.txt"] :=
    List.mergeSort_of_pairwise (by decide)
  rw [findFile_of_isFolder rfl, hnames]
  rfl

end Sample

open Sample

/-- Of two files that fit, the one whose name is first in order is found in either listing, and the
folder that has the name too is passed over. -/
theorem findFile_finds_variants :
    variantFiles.IsSound ∧ reversedFiles.nodes.Perm variantFiles.nodes
      ∧ reversedFiles.here = variantFiles.here
      ∧ variantFiles.FirstFile (.ofText ".") "auditFields.TXT" (some (.ofText "AuditFields.txt"))
      ∧ reversedFiles.findFile (.ofText ".") (.text "auditFields.TXT")
        = .ok (some (.ofText "AuditFields.txt")) := by
  have hnodes : reversedFiles.nodes.Perm variantFiles.nodes := List.reverse_perm _
  obtain ⟨-, hfirst, hsame⟩ := findFile_finds isSound_variantFiles hnodes rfl (.ofText ".")
    "auditFields.TXT"
  exact ⟨isSound_variantFiles, hnodes, rfl, hfirst _ findFile_variantFiles,
    hsame.trans findFile_variantFiles⟩

/-! ### A path with detours -/

theorem letters_append_of_unmarked {s : List Char} (h : mark ∉ s) (t : List Char) :
    letters (s ++ t) = letters s ++ letters t := by
  induction s with
  | nil => rfl
  | cons c r ih =>
    obtain ⟨hc, hr⟩ := not_or.mp (mt List.mem_cons.mpr h)
    rw [List.cons_append, letters_cons_of_ne _ (Ne.symm hc), letters_cons_of_ne _ (Ne.symm hc),
      ih hr, List.cons_append]

theorem octetCount_append {s : String} (h : mark ∉ s.toList) (t : String) :
    Path.octetCount (s ++ t) = Path.octetCount s + Path.octetCount t := by
  have hshift : ∀ (ls : List Letter) (n : Nat),
      ls.foldl (fun n l => n + Path.letterSize l) n
        = n + ls.foldl (fun n l => n + Path.letterSize l) 0 := by
    intro ls
    induction ls with
    | nil => exact fun _ => rfl
    | cons l r ih =>
      intro n
      rw [List.foldl_cons, List.foldl_cons, ih, ih (0 + Path.letterSize l)]
      omega
  rw [Path.octetCount, String.toList_append, letters_append_of_unmarked h, List.foldl_append,
    hshift]
  rfl

namespace Sample

/-- Names that lead into a folder and out of it again so many times before they go on. -/
def winding (rest : List String) : Nat → List String
  | 0 => rest
  | k + 1 => "d" :: ".." :: winding rest k

/-- A folder with a list, and a file whose name is longer and first in order. -/
def detourFiles : FileSystem where
  nodes := [(["work"], .folder), (["work", "d"], .folder),
    (["work", "d", "Abcdefghijklmnopqrstuvwxyz"], .file []),
    (["work", "d", "AuditFields.txt"], .file [])]
  here := ["work"]

variable {rest : List String} {k : Nat}

theorem winding_append (rest names : List String) (k : Nat) :
    winding rest k ++ names = winding (rest ++ names) k := by
  induction k with
  | zero => rfl
  | succ k ih => rw [winding, winding, List.cons_append, List.cons_append, ih]

theorem winding_ne_nil (hrest : rest ≠ []) : winding rest k ≠ [] := by
  cases k with
  | zero => exact hrest
  | succ k => exact List.cons_ne_nil _ _

theorem any_winding {f : String → Bool} (hd : f "d" = false) (hup : f ".." = false) :
    (winding rest k).any f = rest.any f := by
  induction k with
  | zero => rfl
  | succ k ih =>
    rw [winding, List.any_cons, List.any_cons, hd, hup, ih, Bool.false_or, Bool.false_or]

/-- Each detour adds five characters to the path. -/
theorem octetCount_winding (hrest : rest ≠ []) :
    Path.octetCount (Path.text ⟨.here, winding rest k⟩)
      = 5 * k + Path.octetCount (Path.text ⟨.here, rest⟩) := by
  induction k with
  | zero => rw [winding, Nat.mul_zero, Nat.zero_add]
  | succ k ih =>
    have htext : Path.text ⟨.here, winding rest (k + 1)⟩
        = "d/../" ++ Path.text ⟨.here, winding rest k⟩ := by
      obtain ⟨name, r, hnames⟩ := List.exists_cons_of_ne_nil (winding_ne_nil (k := k) hrest)
      rw [winding, hnames]
      simp [Path.text, Anchor.text, ← String.append_assoc]
    rw [htext, octetCount_append (by decide), ih]
    have hdetour : Path.octetCount "d/../" = 5 := by decide
    omega

theorem explore_winding (rest : List String) (k : Nat) :
    detourFiles.explore ["work"] (winding rest k) = detourFiles.explore ["work"] rest := by
  induction k with
  | zero => rfl
  | succ k ih => exact ih

theorem flaw?_winding (rest : List String) (k : Nat) :
    Path.flaw? ⟨.here, winding rest k⟩ = Path.flaw? ⟨.here, rest⟩ := by
  have hhalf : Path.hasHalf ⟨.here, winding rest k⟩ = Path.hasHalf ⟨.here, rest⟩ :=
    any_winding (by decide) (by decide)
  have hnull : Path.hasNull ⟨.here, winding rest k⟩ = Path.hasNull ⟨.here, rest⟩ :=
    any_winding (by decide) (by decide)
  rw [Path.flaw?, Path.flaw?, hhalf, hnull]

/-- With enough detours the path is too long. -/
theorem tooLong_winding (hrest : rest ≠ []) (hflaw : Path.flaw? ⟨.here, rest⟩ = none)
    (hlong : maxPath ≤ 5 * k + Path.octetCount (Path.text ⟨.here, rest⟩)) :
    detourFiles.TooLong ⟨.here, winding rest k⟩ := by
  refine ⟨(flaw?_winding rest k).trans hflaw, ?_⟩
  rw [locate, if_pos (by rwa [octetCount_winding hrest])]

/-- As long as the path is short enough, the detours make no difference. -/
theorem locate_winding (hrest : rest ≠ [])
    (hshort : 5 * k + Path.octetCount (Path.text ⟨.here, rest⟩) < maxPath) :
    detourFiles.locate ⟨.here, winding rest k⟩ = detourFiles.locate ⟨.here, rest⟩ := by
  have hlong : ¬maxPath ≤ Path.octetCount (Path.text ⟨.here, winding rest k⟩) := by
    rw [octetCount_winding hrest]
    omega
  rw [locate, if_neg hlong, locate, if_neg (by omega)]
  change detourFiles.walk ["work"] (winding rest k) = detourFiles.walk ["work"] rest
  rw [walk, walk, explore_winding]

theorem look_winding {node : Option Node} (hrest : rest ≠ [])
    (hshort : 5 * k + Path.octetCount (Path.text ⟨.here, rest⟩) < maxPath)
    (hlook : detourFiles.look ⟨.here, rest⟩ = .ok node) :
    detourFiles.look ⟨.here, winding rest k⟩ = .ok node := by
  rw [look, flaw?_winding, locate_winding hrest hshort]
  rw [look] at hlook
  split at hlook
  · exact hlook
  · split at hlook
    · exact hlook
    · exact hlook
    · exact hlook
    · cases hlook

/-- A folder by way of detours: the list in it has a path that the system takes, and the file first
in order has one that it refuses. -/
def detour : Path := ⟨.here, winding ["d"] 814⟩

theorem detour_child {name : String} (h : Path.ofText name = ⟨.here, [name]⟩) :
    detour.child name = ⟨.here, winding ["d", name] 814⟩ := by
  rw [Path.child, h]
  exact congrArg (Path.mk .here) (winding_append ["d"] [name] 814)

theorem isFolder_detour : detourFiles.isFolder detour = .ok true := by
  have hlook : detourFiles.look detour = .ok (some .folder) :=
    look_winding (by decide) (by decide) rfl
  rw [isFolder, hlook]
  rfl

theorem locate_detour : detourFiles.locate detour = .ok ["work", "d"] :=
  locate_winding (by decide) (by decide)

theorem namesIn_detour :
    detourFiles.namesIn detour = ["Abcdefghijklmnopqrstuvwxyz", "AuditFields.txt"] := by
  rw [namesIn, locate_detour]
  exact List.mergeSort_of_pairwise (by decide)

theorem tooLong_detour : detourFiles.TooLong (detour.child "Abcdefghijklmnopqrstuvwxyz") := by
  rw [detour_child (by decide)]
  exact tooLong_winding (by decide) (by decide) (by decide)

theorem offers_detour : detourFiles.Offers detour "AuditFields.txt" "AuditFields.txt" := by
  refine ⟨⟨[], isFolder_detour, ["work", "d"], locate_detour, ?_⟩, rfl⟩
  decide

end Sample

/-- The list is the only file for the wanted name, and the search does not get to it: the path of
another file is too long. -/
theorem findFile_stopped :
    detourFiles.IsSound ∧ detourFiles.FirstFile detour "AuditFields.txt"
        (some (detour.child "AuditFields.txt"))
      ∧ detourFiles.findFile detour (.text "AuditFields.txt")
        = .error (.file (.system .nameTooLong (detour.child "Abcdefghijklmnopqrstuvwxyz"))) := by
  refine ⟨⟨by decide, by decide⟩, .found offers_detour ?_, ?_⟩
  · intro m hoffers
    have hm := hoffers.mem_namesIn
    rw [namesIn_detour] at hm
    rcases List.mem_cons.mp hm with rfl | hm
    · exact absurd hoffers.alike (by decide)
    · exact Or.inl (List.mem_singleton.mp hm)
  · rw [findFile_of_isFolder isFolder_detour, namesIn_detour, firstFile_of_tooLong tooLong_detour]
    rfl

end FileSystem

end EntityMapping
