import EntityMapping.Proofs.Files.Writing
import EntityMapping.Proofs.Text.Pieces

/-!
# Where paths lead and what making folders leaves

If names lead from one location to another, the second one does not depend on the files
(`FileSystem.explore_eq_ok`), and a file to be written in a folder is where its name leads from
there (`FileSystem.target_child`), directly under its name just if the name has no separator
(`FileSystem.destination_child_iff`).  Making a path a folder adds folders where nothing was and
leaves everything else as it is (`FileSystem.added_ensureFolder`); afterwards nothing can be written
to the path itself (`FileSystem.target_ne_ok_of_ensureFolder`).  Besides the system, only a flaw and
a way that is too deep keep a path from being made a folder (`FileSystem.ensureFolder_eq_some`).

## Main definitions

* `Location.along` — the location that names lead to, if they lead anywhere.
* `FileSystem.destination` — the location that a path leads to, if it leads anywhere.
* `FileSystem.Added` — a file system has folders where another one has nothing.
* `FileSystem.TooDeep` — the way that a path goes on is too long for folders to be made.
-/

namespace EntityMapping

open Text

/-- The location that names lead to from a location, if they lead anywhere. -/
def Location.along (l : Location) (names : List String) : Location :=
  names.foldl (fun l name => if name = ".." then l.dropLast else l ++ [name]) l

namespace FileSystem

variable {fs fs' : FileSystem} {p : Path} {l l' : Location} {names rest : List String}

/-! ### Where names lead -/

theorem along_cons (l : Location) (name : String) (r : List String) :
    Location.along l (name :: r)
      = Location.along (if name = ".." then l.dropLast else l ++ [name]) r := rfl

theorem along_append (l : Location) (above further : List String) :
    Location.along l (above ++ further) = Location.along (Location.along l above) further :=
  List.foldl_append

theorem along_concat (l : Location) (above : List String) {name : String} (hup : name ≠ "..") :
    Location.along l (above ++ [name]) = Location.along l above ++ [name] := by
  rw [along_append, along_cons, if_neg hup]
  rfl

/-- Names lead along themselves as far as they lead. -/
theorem explore_eq_ok (h : fs.explore l names = .ok (l', rest)) :
    ∃ above, names = above ++ rest ∧ l' = Location.along l above := by
  induction names generalizing l with
  | nil =>
    obtain ⟨rfl, rfl⟩ := Prod.mk.inj (Except.ok.inj h)
    exact ⟨[], rfl, rfl⟩
  | cons name r ih =>
    rw [explore] at h
    split at h
    · split_ifs at h with hup
      · obtain ⟨above, rfl, rfl⟩ := ih h
        exact ⟨name :: above, rfl, by rw [along_cons, if_pos hup]⟩
      · obtain ⟨above, rfl, rfl⟩ := ih h
        exact ⟨name :: above, rfl, by rw [along_cons, if_neg hup]⟩
      · obtain ⟨rfl, rfl⟩ := Prod.mk.inj (Except.ok.inj h)
        exact ⟨[], rfl, rfl⟩
    · cases h
    · obtain ⟨rfl, rfl⟩ := Prod.mk.inj (Except.ok.inj h)
      exact ⟨[], rfl, rfl⟩

theorem explore_append (h : fs.explore l names = .ok (l', [])) (further : List String) :
    fs.explore l (names ++ further) = fs.explore l' further := by
  induction names generalizing l with
  | nil =>
    obtain ⟨rfl, -⟩ := Prod.mk.inj (Except.ok.inj h)
    rfl
  | cons name r ih =>
    rw [explore] at h
    rw [List.cons_append, explore]
    split at h
    · split_ifs at h ⊢
      · exact ih h
      · exact ih h
      · cases h
    · cases h
    · cases h

theorem walk_along (h : fs.walk l names = .ok l') : l' = Location.along l names := by
  obtain ⟨above, hnames, rfl⟩ := explore_eq_ok (walk_eq_ok.mp h)
  rw [hnames, List.append_nil]

/-! ### Making folders -/

/-- A file system has folders where another one has nothing, and all else as the other one. -/
structure Added (fs fs' : FileSystem) : Prop where
  here : fs'.here = fs.here
  at? (k : Location) :
    fs'.at? k = fs.at? k ∨ fs.at? k = none ∧ fs'.at? k = some .folder

theorem Added.refl (fs : FileSystem) : fs.Added fs := ⟨rfl, fun _ => Or.inl rfl⟩

theorem Added.trans {fs'' : FileSystem} (h : fs.Added fs') (h' : fs'.Added fs'') :
    fs.Added fs'' where
  here := h'.here.trans h.here
  at? k := by
    rcases h.at? k with hk | ⟨hnone, hk⟩
    · rw [← hk]
      exact h'.at? k
    · rcases h'.at? k with hk' | ⟨hnone', -⟩
      · exact Or.inr ⟨hnone, hk'.trans hk⟩
      · cases hk.symm.trans hnone'

theorem Added.folder_stays (h : fs.Added fs') (hl : fs.at? l = some .folder) :
    fs'.at? l = some .folder := by
  rcases h.at? l with hsame | ⟨hnone, -⟩
  · exact hsame.trans hl
  · cases hl.symm.trans hnone

theorem added_put (h : fs.at? l = none) : fs.Added (fs.put l .folder) where
  here := rfl
  at? k := by
    by_cases hk : k = l
    · subst hk
      have hroot : k ≠ [] := by
        rintro rfl
        cases h
      exact Or.inr ⟨h, at?_put_same fs .folder hroot⟩
    · exact Or.inl (at?_put_of_ne fs .folder hk)

/-- Making folders in each other adds folders. -/
theorem added_makeFolders (fs : FileSystem) (p : Path) (l : Location) (names : List String) :
    fs.Added (fs.makeFolders p l names).1 := by
  induction names generalizing fs p l with
  | nil => exact .refl fs
  | cons name r ih =>
    rw [makeFolders]
    split_ifs
    · exact ih fs _ _
    · exact .refl fs
    · split
      · exact ih fs _ _
      · exact .refl fs
      · exact (added_put ‹_›).trans (ih _ _ _)

/-- The last of the folders that were made is there. -/
theorem at?_makeFolders {name : String} (hup : name ≠ "..")
    (h : (fs.makeFolders p l (names ++ [name])).2 = none) :
    (fs.makeFolders p l (names ++ [name])).1.at? (Location.along l names ++ [name])
      = some .folder := by
  induction names generalizing fs p l with
  | nil =>
    have hroot : l ++ [name] ≠ [] := by simp
    rw [List.nil_append, makeFolders, if_neg hup] at h ⊢
    split_ifs at h ⊢
    cases hat : fs.at? (l ++ [name]) with
    | none => exact at?_put_same fs .folder hroot
    | some node =>
      rw [hat] at h
      cases node with
      | folder => exact hat
      | file content => cases h
  | cons first r ih =>
    rw [along_cons]
    rw [List.cons_append, makeFolders] at h ⊢
    split_ifs at h ⊢ with hfirst
    · exact ih h
    · cases hat : fs.at? (l ++ [first]) with
      | none =>
        rw [hat] at h
        exact ih h
      | some node =>
        rw [hat] at h
        cases node with
        | folder => exact ih h
        | file content => cases h

/-- Making a path a folder adds folders, whether it succeeds or not. -/
theorem added_ensureFolder (fs : FileSystem) (p : Path) : fs.Added (fs.ensureFolder p).1 := by
  unfold ensureFolder
  split
  · exact .refl fs
  · split_ifs
    · exact .refl fs
    · split
      · exact .refl fs
      · exact .refl fs
      · split_ifs
        · exact .refl fs
        · exact added_makeFolders fs _ _ _

/-- What making a path a folder does if it succeeds. -/
theorem ensureFolder_eq_none (h : (fs.ensureFolder p).2 = none) :
    p.flaw? = none ∧ Path.octetCount p.text < maxPath ∧ ∃ l missing,
      fs.explore (fs.start p) p.parts = .ok (l, missing)
        ∧ (missing = [] ∧ fs.at? l = some .folder ∧ (fs.ensureFolder p).1 = fs
          ∨ missing ≠ [] ∧ ∃ q, fs.ensureFolder p = fs.makeFolders q l missing) := by
  unfold ensureFolder at h ⊢
  cases hflaw : p.flaw? with
  | some e =>
    rw [hflaw] at h
    cases h
  | none =>
    rw [hflaw] at h
    dsimp only at h ⊢
    split_ifs at h ⊢ with hlength
    refine ⟨rfl, by omega, ?_⟩
    cases hexplore : fs.explore (fs.start p) p.parts with
    | error e =>
      rw [hexplore] at h
      cases h
    | ok found =>
      obtain ⟨l, missing⟩ := found
      rw [hexplore] at h
      refine ⟨l, missing, rfl, ?_⟩
      cases missing with
      | nil =>
        dsimp only at h
        split_ifs at h with hfolder
        exact Or.inl ⟨rfl, hfolder, rfl⟩
      | cons name r =>
        dsimp only at h ⊢
        split_ifs at h ⊢
        exact Or.inr ⟨List.cons_ne_nil name r, _, rfl⟩

/-- The way that a path goes on from what is there is too long for folders to be made. -/
def TooDeep (fs : FileSystem) (p : Path) : Prop :=
  p.flaw? = none ∧ Path.octetCount p.text < maxPath ∧ ∃ l missing,
    fs.explore (fs.start p) p.parts = .ok (l, missing) ∧ maxFolders < missing.length

theorem TooDeep.ensureFolder (h : fs.TooDeep p) : (fs.ensureFolder p).2 = some .tooDeep := by
  obtain ⟨hflaw, hlength, l, missing, hexplore, hdeep⟩ := h
  rw [FileSystem.ensureFolder, hflaw]
  dsimp only
  rw [if_neg (by omega), hexplore]
  cases missing with
  | nil => cases hdeep
  | cons name r =>
    dsimp only
    rw [if_pos hdeep]

/-- Where a path was made a folder, there is a folder, unless the path has no last name. -/
theorem at?_ensureFolder {above : List String} {name : String} (hparts : p.parts = above ++ [name])
    (hup : name ≠ "..") (h : (fs.ensureFolder p).2 = none) :
    (fs.ensureFolder p).1.at? (Location.along (fs.start p) p.parts) = some .folder := by
  obtain ⟨-, -, l, missing, hexplore, ⟨rfl, hfolder, hsame⟩ | ⟨hmissing, q, hmake⟩⟩ :=
    ensureFolder_eq_none h
  · obtain ⟨pre, hpre, rfl⟩ := explore_eq_ok hexplore
    rw [hsame, hpre, List.append_nil, hfolder]
  · obtain ⟨pre, hpre, rfl⟩ := explore_eq_ok hexplore
    obtain ⟨r, last, rfl⟩ := (List.eq_nil_or_concat' missing).resolve_left hmissing
    have hlast : [name] = [last] :=
      (List.append_inj' (hparts.symm.trans (hpre.trans (List.append_assoc pre r [last]).symm))
        rfl).2
    obtain rfl := List.singleton_inj.mp hlast
    rw [hmake] at h ⊢
    rw [hpre, along_append, along_concat _ r hup]
    exact at?_makeFolders hup h

/-- Where a path was made a folder, nothing can be written to the path itself, as long as folders
stay folders. -/
theorem target_ne_ok_of_ensureFolder (h : (fs.ensureFolder p).2 = none) (hhere : fs'.here = fs.here)
    (hfolders : ∀ k, (fs.ensureFolder p).1.at? k = some .folder → fs'.at? k = some .folder)
    (l : Location) : fs'.target p ≠ .ok l := by
  intro htarget
  obtain ⟨-, folder, above, name, hparts, hwalk, -, hup, -, hl, rfl⟩ := target_eq_ok htarget
  refine hl (hfolders _ ?_)
  have hstart : fs'.start p = fs.start p := by rw [start, start, hhere]
  have hthere := at?_ensureFolder hparts hup h
  rwa [hparts, along_concat _ above hup, ← hstart, ← walk_along hwalk] at hthere

end FileSystem

/-! ### Folders that stay -/

namespace FileSystem

variable {fs fs' : FileSystem} {p : Path} {l₀ l : Location} {names : List String}

/-- The way to a folder starts at a folder. -/
theorem at?_of_explore (h : fs.explore l₀ names = .ok (l, [])) (hl : fs.at? l = some .folder) :
    fs.at? l₀ = some .folder := by
  cases names with
  | nil =>
    obtain ⟨rfl, -⟩ := Prod.mk.inj (Except.ok.inj h)
    exact hl
  | cons name r =>
    rw [explore] at h
    split at h
    · assumption
    · cases h
    · cases h

/-- The way to a folder is the same as long as folders stay folders. -/
theorem walk_of_folders (hfolders : ∀ k, fs.at? k = some .folder → fs'.at? k = some .folder)
    (h : fs.walk l₀ names = .ok l) (hl : fs.at? l = some .folder) : fs'.walk l₀ names = .ok l := by
  rw [walk_eq_ok] at h ⊢
  induction names generalizing l₀ with
  | nil => exact h
  | cons name r ih =>
    have hstart := at?_of_explore h hl
    rw [explore, hstart] at h
    rw [explore, hfolders l₀ hstart]
    dsimp only at h ⊢
    split_ifs at h with hup hlong hthere
    · rw [if_pos hup]
      exact ih h
    · have hnext := hfolders _ (at?_of_explore h hl)
      rw [if_neg hup, if_neg hlong, hnext, Option.isSome_some, if_pos rfl]
      exact ih h
    · cases h

end FileSystem

/-! ### Names without a separator -/

/-- The names on the path that a text names have no separator. -/
theorem Path.notMem_of_mem_parts {s name : String} (h : name ∈ (ofText s).parts) :
    '/' ∉ name.toList := by
  obtain ⟨hname, -⟩ := List.mem_filter.mp h
  obtain ⟨p, hp, rfl⟩ := List.mem_map.mp hname
  rw [String.toList_ofList]
  exact notMem_of_mem_cut hp

/-- The path of a name is the folder, or it has no names, or its last name has no separator. -/
theorem Path.child_cases (folder : Path) (name : String) :
    folder.child name = folder ∨ (folder.child name).parts = []
      ∨ ∃ above last, (folder.child name).parts = above ++ [last] ∧ '/' ∉ last.toList := by
  rcases List.eq_nil_or_concat' (ofText name).parts with hnil | ⟨above, last, hparts⟩
  · rw [child, join]
    split_ifs
    · exact Or.inr (Or.inl hnil)
    · exact Or.inl (by rw [hnil, List.append_nil])
  · have hlast : '/' ∉ last.toList := notMem_of_mem_parts (s := name) (by simp [hparts])
    refine Or.inr (Or.inr ?_)
    rw [child, join]
    split_ifs
    · exact ⟨above, last, hparts, hlast⟩
    · exact ⟨folder.parts ++ above, last, by rw [hparts, List.append_assoc], hlast⟩

theorem Path.child_of_notMem (folder : Path) {name : String} (h : '/' ∉ name.toList) :
    folder.child name
      = ⟨folder.anchor, folder.parts ++ [name].filter fun p => p != "" && p != "."⟩ := by
  have hpieces : pieces '/' name = [name] := by
    rw [pieces, cut_of_notMem h, List.map_singleton, String.ofList_toList]
  have hanchor : anchorOf name.toList = .here := by
    unfold anchorOf
    split <;> simp_all
  rw [child, ofText, hpieces, hanchor, join, if_neg (by simp [isAbsolute])]

theorem Path.child_eq_concat (folder : Path) {name : String} (h : '/' ∉ name.toList)
    (hempty : name ≠ "") (hdot : name ≠ ".") :
    folder.child name = ⟨folder.anchor, folder.parts ++ [name]⟩ := by
  rw [folder.child_of_notMem h]
  simp [hempty, hdot]

/-- The path of a name without a separator goes on by the name, unless the name says nothing. -/
theorem Path.child_eq (folder : Path) {name : String} (h : '/' ∉ name.toList) :
    folder.child name = folder ∨ folder.child name = ⟨folder.anchor, folder.parts ++ [name]⟩ := by
  by_cases hname : name = "" ∨ name = "."
  · left
    have hfilter : [name].filter (fun p => p != "" && p != ".") = [] := by
      rcases hname with rfl | rfl <;> rfl
    rw [folder.child_of_notMem h, hfilter, List.append_nil]
  · obtain ⟨hempty, hdot⟩ := not_or.mp hname
    exact Or.inr (folder.child_eq_concat h hempty hdot)

namespace FileSystem

variable {fs fs' : FileSystem} {folder : Path} {l : Location}

/-- The location of a file to be written in a folder, unless its name says nothing. -/
theorem target_child {name : String} (hname : '/' ∉ name.toList)
    (hfolder : ∀ l, fs.target folder ≠ .ok l) (h : fs.target (folder.child name) = .ok l) :
    l = Location.along (fs.start folder) folder.parts ++ [name]
      ∧ fs.at? l ≠ some .folder
      ∧ fs.walk (fs.start folder) folder.parts
        = .ok (Location.along (fs.start folder) folder.parts)
      ∧ fs.at? (Location.along (fs.start folder) folder.parts) = some .folder := by
  rcases folder.child_eq hname with hchild | hchild
  · rw [hchild] at h
    exact absurd h (hfolder l)
  · rw [hchild] at h
    obtain ⟨-, k, above, last, hparts, hwalk, hk, -, -, hl, rfl⟩ := target_eq_ok h
    obtain ⟨rfl, hlast⟩ := List.append_inj' hparts rfl
    obtain rfl := List.singleton_inj.mp hlast
    have hstart : fs.start ⟨folder.anchor, folder.parts ++ [name]⟩ = fs.start folder := rfl
    rw [hstart] at hwalk
    obtain rfl := walk_along hwalk
    exact ⟨rfl, hl, hwalk, hk⟩

/-- The location that a path leads to, if it leads anywhere. -/
def destination (fs : FileSystem) (p : Path) : Location := Location.along (fs.start p) p.parts

theorem destination_congr (h : fs'.here = fs.here) (p : Path) :
    fs'.destination p = fs.destination p := by
  rw [destination, destination, start, start, h]

/-- A file to be written is where its path leads. -/
theorem target_destination {p : Path} (h : fs.target p = .ok l) :
    l = fs.destination p ∧ fs.at? l ≠ some .folder := by
  obtain ⟨-, k, above, name, hparts, hwalk, -, hup, -, hl, rfl⟩ := target_eq_ok h
  rw [destination, hparts, along_concat _ above hup, ← walk_along hwalk]
  exact ⟨rfl, hl⟩

/-- A file to be written in a folder is there directly under its name just if the name has no
separator. -/
theorem destination_child_iff {name : String} (hfolder : ∀ l, fs.target folder ≠ .ok l)
    (h : fs.target (folder.child name) = .ok l) :
    fs.destination (folder.child name) = fs.destination folder ++ [name] ↔ '/' ∉ name.toList := by
  obtain ⟨rfl, -⟩ := target_destination h
  constructor
  · intro hdirect
    obtain ⟨-, k, above, last, hparts, -, -, -, -, -, hl⟩ := target_eq_ok h
    have hlast : last = name := by simpa using (List.append_inj' (hl.symm.trans hdirect) rfl).2
    rcases folder.child_cases name with hchild | hnil | ⟨above', last', hparts', hplain⟩
    · rw [hchild] at h
      exact absurd h (hfolder _)
    · simp [hparts] at hnil
    · have hlast' : last = last' := by
        simpa using (List.append_inj' (hparts.symm.trans hparts') rfl).2
      rwa [← hlast', hlast] at hplain
  · intro hplain
    exact (target_child hplain hfolder h).1

end FileSystem

end EntityMapping
