import EntityMapping.Resource.Neighbour
import EntityMapping.Proofs.Assoc
import EntityMapping.Proofs.Files.Folders
import EntityMapping.Proofs.Files.Lookup
import EntityMapping.Proofs.Text.Order

/-!
# What a search by name comes to

The names in a folder are gone through in order.  A search ends at the first name that fits and
leads to a file, or whose path is too long (`FileSystem.search_firstFile`).  So it ends well just if
no path that it comes to is too long (`FileSystem.exists_findFile_eq_error`).  The path of a name in
a folder leads to the entry of that name (`FileSystem.look_child`), so what fits is a file among the
entries (`FileSystem.fits_iff_offers`), and the first of these in order is found, if there is one
(`FileSystem.firstFile_of_findFile`).

## Main definitions

* `FileSystem.Fits` — a name that leads to a file and is the wanted one up to letter case.
* `FileSystem.Search` — what a search through names comes to, as a relation.
* `FileSystem.IsSound` — each location is listed once, under names that files and folders can have.
* `FileSystem.Holds`, `FileSystem.Offers` — an entry of a folder; a file among the entries whose
  name is the wanted one up to letter case.
* `FileSystem.ComesTo` — a search in a folder comes to a name.
* `FileSystem.Foremost`, `FileSystem.FirstFile` — a name that no file for the wanted name has its
  name before; the first of these files, if there is one.
-/

namespace EntityMapping

open Text

namespace FileSystem

/-! ### Going through names -/

/-- A name leads from a folder to a file and is the wanted one up to letter case. -/
structure Fits (fs : FileSystem) (folder : Path) (wanted name : String) : Prop where
  isFile : fs.isFile (folder.child name) = .ok true
  alike : lowered name = lowered wanted

/-- A name that a search goes on behind: its path is not too long, and it does not fit. -/
structure Passes (fs : FileSystem) (folder : Path) (wanted name : String) : Prop where
  notLong : ¬fs.TooLong (folder.child name)
  notFits : ¬fs.Fits folder wanted name

/-- What a search through names comes to: nothing, the first name that fits, or the first one whose
path is too long. -/
inductive Search (fs : FileSystem) (folder : Path) (wanted : String) :
    List String → Except FileError (Option Path) → Prop
  | missing {names} (hnames : ∀ m ∈ names, fs.Passes folder wanted m) :
    Search fs folder wanted names (.ok none)
  | found {before name after} (hbefore : ∀ m ∈ before, fs.Passes folder wanted m)
    (hfits : fs.Fits folder wanted name) :
    Search fs folder wanted (before ++ name :: after) (.ok (some (folder.child name)))
  | stopped {before name after} (hbefore : ∀ m ∈ before, fs.Passes folder wanted m)
    (hlong : fs.TooLong (folder.child name)) :
    Search fs folder wanted (before ++ name :: after)
      (.error (.system .nameTooLong (folder.child name)))

variable {fs : FileSystem} {folder p : Path} {wanted name : String} {names r : List String}

theorem Search.cons {x : Except FileError (Option Path)} (hname : fs.Passes folder wanted name)
    (h : fs.Search folder wanted r x) : fs.Search folder wanted (name :: r) x := by
  cases h with
  | missing hnames => exact .missing (List.forall_mem_cons.mpr ⟨hname, hnames⟩)
  | found hbefore hfits =>
    rw [← List.cons_append]
    exact .found (List.forall_mem_cons.mpr ⟨hname, hbefore⟩) hfits
  | stopped hbefore hlong =>
    rw [← List.cons_append]
    exact .stopped (List.forall_mem_cons.mpr ⟨hname, hbefore⟩) hlong

theorem Fits.not_tooLong (h : fs.Fits folder wanted name) : ¬fs.TooLong (folder.child name) := by
  intro hlong
  have hfile := h.isFile
  rw [isFile_eq_error.mpr ⟨hlong, rfl⟩] at hfile
  cases hfile

theorem firstFile_of_tooLong (h : fs.TooLong (folder.child name)) (r : List String) :
    fs.firstFile folder wanted (name :: r)
      = .error (.system .nameTooLong (folder.child name)) := by
  rw [firstFile, isFile_eq_error.mpr ⟨h, rfl⟩]
  rfl

theorem firstFile_of_fits (h : fs.Fits folder wanted name) (r : List String) :
    fs.firstFile folder wanted (name :: r) = .ok (some (folder.child name)) := by
  rw [firstFile, h.isFile, h.alike]
  simp [bind, Except.bind, pure, Except.pure]

theorem firstFile_of_passes (h : fs.Passes folder wanted name) (r : List String) :
    fs.firstFile folder wanted (name :: r) = fs.firstFile folder wanted r := by
  cases hfile : fs.isFile (folder.child name) with
  | error e => exact absurd (isFile_eq_error.mp hfile).1 h.notLong
  | ok there =>
    have hno : (there && lowered name == lowered wanted) = false := by
      rw [Bool.eq_false_iff]
      intro hboth
      obtain ⟨rfl, halike⟩ := Bool.and_eq_true_iff.mp hboth
      exact h.notFits ⟨hfile, beq_iff_eq.mp halike⟩
    rw [firstFile, hfile]
    simp [bind, Except.bind, hno]

/-- The search ends as the relation says: the induction is on the names, each of which is too long a
path, or fits, or is passed over. -/
theorem search_firstFile (fs : FileSystem) (folder : Path) (wanted : String)
    (names : List String) :
    fs.Search folder wanted names (fs.firstFile folder wanted names) := by
  induction names with
  | nil => exact .missing (List.forall_mem_nil _)
  | cons name r ih =>
    by_cases hlong : fs.TooLong (folder.child name)
    · rw [firstFile_of_tooLong hlong]
      exact @Search.stopped fs folder wanted [] name r (List.forall_mem_nil _) hlong
    · by_cases hfits : fs.Fits folder wanted name
      · rw [firstFile_of_fits hfits]
        exact @Search.found fs folder wanted [] name r (List.forall_mem_nil _) hfits
      · have hname : fs.Passes folder wanted name := ⟨hlong, hfits⟩
        rw [firstFile_of_passes hname]
        exact ih.cons hname

/-- A search fails just if it comes to a path that is too long: no name before it fits. -/
theorem exists_firstFile_eq_error :
    (∃ e, fs.firstFile folder wanted names = .error e)
      ↔ ∃ before name after, names = before ++ name :: after
        ∧ (∀ m ∈ before, ¬fs.Fits folder wanted m) ∧ fs.TooLong (folder.child name) := by
  constructor
  · rintro ⟨e, he⟩
    have hsearch := fs.search_firstFile folder wanted names
    rw [he] at hsearch
    cases hsearch with
    | stopped hbefore hlong => exact ⟨_, _, _, rfl, fun m hm => (hbefore m hm).notFits, hlong⟩
  · rintro ⟨before, name, after, rfl, hbefore, hlong⟩
    -- A name before this one is passed over, or its path is too long itself.
    induction before with
    | nil => exact ⟨_, firstFile_of_tooLong hlong after⟩
    | cons m before ih =>
      obtain ⟨hm, hbefore⟩ := List.forall_mem_cons.mp hbefore
      by_cases hmlong : fs.TooLong (folder.child m)
      · exact ⟨_, firstFile_of_tooLong hmlong _⟩
      · rw [List.cons_append, firstFile_of_passes ⟨hmlong, hm⟩]
        exact ih hbefore

/-! ### Names in a folder -/

/-- A name that a file or folder can have: a text without a separator or a flaw that means neither
the folder itself nor the one above it. -/
structure IsName (name : String) : Prop where
  isSpelled : IsSpelled name
  notMem : '/' ∉ name.toList
  ne_empty : name ≠ ""
  ne_dot : name ≠ "."
  ne_up : name ≠ ".."
  flaw : Path.flaw? ⟨.here, [name]⟩ = none

theorem isName_iff : IsName name
    ↔ IsSpelled name ∧ '/' ∉ name.toList ∧ name ∉ ["", ".", ".."]
      ∧ Path.flaw? ⟨.here, [name]⟩ = none := by
  constructor
  · intro h
    exact ⟨h.isSpelled, h.notMem, by simp [h.ne_empty, h.ne_dot, h.ne_up], h.flaw⟩
  · rintro ⟨hspelled, hplain, hdots, hflaw⟩
    simp only [List.mem_cons, List.not_mem_nil, or_false, not_or] at hdots
    exact ⟨hspelled, hplain, hdots.1, hdots.2.1, hdots.2.2, hflaw⟩

instance (name : String) : Decidable (IsName name) := decidable_of_iff _ isName_iff.symm

/-- Each location is listed once, under names that files and folders can have. -/
structure IsSound (fs : FileSystem) : Prop where
  nodup : (Assoc.keys fs.nodes).Nodup
  isName : ∀ l ∈ Assoc.keys fs.nodes, ∀ name ∈ l, IsName name

theorem mem_entriesAt_iff {l : Location} {node : Node} :
    (name, node) ∈ fs.entriesAt l ↔ (l ++ [name], node) ∈ fs.nodes := by
  rw [entriesAt, List.mem_filterMap]
  constructor
  · rintro ⟨⟨k, _⟩, hmem, h⟩
    dsimp only at h
    split at h
    · rename_i hlast
      split_ifs at h with hk
      obtain ⟨rfl, rfl⟩ := Prod.mk.inj (Option.some.inj h)
      obtain ⟨above, rfl⟩ := List.getLast?_eq_some_iff.mp hlast
      rw [List.dropLast_concat] at hk
      exact hk ▸ hmem
    · cases h
  · intro hmem
    exact ⟨_, hmem, by simp⟩

/-- The names in a folder are those with which the list of locations goes on from there. -/
theorem mem_namesIn_iff :
    name ∈ fs.namesIn folder
      ↔ ∃ l node, fs.locate folder = .ok l ∧ (l ++ [name], node) ∈ fs.nodes := by
  unfold namesIn
  cases fs.locate folder with
  | error e => simp
  | ok l => simp [mem_entriesAt_iff]

theorem IsSound.isName_of_mem (hfs : fs.IsSound) (h : name ∈ fs.namesIn folder) :
    IsName name := by
  obtain ⟨l, node, -, hmem⟩ := mem_namesIn_iff.mp h
  exact hfs.isName _ (List.mem_map_of_mem hmem) name (by simp)

theorem pairwise_namesIn (fs : FileSystem) (folder : Path) :
    (fs.namesIn folder).Pairwise fun s t => precedes t s = false := by
  unfold namesIn
  cases fs.locate folder with
  | error e => exact .nil
  | ok l =>
    have hsorted := @List.pairwise_mergeSort String (fun s t => !precedes t s)
      (fun s t u hst htu => by
        rw [Bool.not_eq_true'] at hst htu ⊢
        exact not_precedes_trans hst htu)
      (fun s t => by simpa using not_precedes_total s t)
      ((fs.entriesAt l).map (·.1))
    simpa using hsorted

/-! ### Entries of a folder -/

/-- A path leads to a folder, and the file or folder of this name in it is this one. -/
structure Holds (fs : FileSystem) (folder : Path) (name : String) (node : Node) : Prop where
  isFolder : fs.isFolder folder = .ok true
  entry : ∃ l, fs.locate folder = .ok l ∧ (l ++ [name], node) ∈ fs.nodes

/-- A folder has a file whose name is the wanted one up to letter case. -/
structure Offers (fs : FileSystem) (folder : Path) (wanted name : String) : Prop where
  file : ∃ content, fs.Holds folder name (.file content)
  alike : lowered name = lowered wanted

theorem Holds.mem_namesIn {node : Node} (h : fs.Holds folder name node) :
    name ∈ fs.namesIn folder := by
  obtain ⟨-, l, hlocate, hmem⟩ := h
  exact mem_namesIn_iff.mpr ⟨l, node, hlocate, hmem⟩

theorem exists_holds (hfolder : fs.isFolder folder = .ok true) (h : name ∈ fs.namesIn folder) :
    ∃ node, fs.Holds folder name node := by
  obtain ⟨l, node, hlocate, hmem⟩ := mem_namesIn_iff.mp h
  exact ⟨node, hfolder, l, hlocate, hmem⟩

theorem Offers.mem_namesIn (h : fs.Offers folder wanted name) : name ∈ fs.namesIn folder := by
  obtain ⟨⟨content, hholds⟩, -⟩ := h
  exact hholds.mem_namesIn

theorem flaw?_eq_none_iff : p.flaw? = none ↔ p.hasHalf = false ∧ p.hasNull = false := by
  unfold Path.flaw?
  split_ifs <;> simp_all

theorem flaw?_concat {p : Path} (hp : p.flaw? = none)
    (hname : Path.flaw? ⟨.here, [name]⟩ = none) :
    Path.flaw? ⟨p.anchor, p.parts ++ [name]⟩ = none := by
  rw [flaw?_eq_none_iff] at hp hname ⊢
  constructor
  · rw [Path.hasHalf, List.any_append]
    exact Bool.or_eq_false_iff.mpr ⟨hp.1, hname.1⟩
  · rw [Path.hasNull, List.any_append]
    exact Bool.or_eq_false_iff.mpr ⟨hp.2, hname.2⟩

/-- The path of a name in a folder leads to what has this name there, unless the path is too
long. -/
theorem look_child (hname : IsName name) (hfolder : fs.isFolder folder = .ok true)
    (hlong : ¬fs.TooLong (folder.child name)) :
    ∃ l, fs.locate folder = .ok l ∧ fs.look (folder.child name) = .ok (fs.at? (l ++ [name])) := by
  obtain ⟨hflaw, l, hlocate, hat⟩ := isFolder_eq_true hfolder
  refine ⟨l, hlocate, ?_⟩
  rw [folder.child_eq_concat hname.notMem hname.ne_empty hname.ne_dot] at hlong ⊢
  have hchild : Path.flaw? ⟨folder.anchor, folder.parts ++ [name]⟩ = none :=
    flaw?_concat hflaw hname.flaw
  have hshort : ¬maxPath ≤ Path.octetCount (Path.text ⟨folder.anchor, folder.parts ++ [name]⟩) :=
    fun h => hlong ⟨hchild, by rw [locate, if_pos h]⟩
  have hlocate' : fs.locate ⟨folder.anchor, folder.parts ++ [name]⟩ = fs.walk l [name] := by
    have hexplore : fs.explore (fs.start folder) (folder.parts ++ [name]) = fs.explore l [name] :=
      explore_append (walk_eq_ok.mp (walk_of_locate hlocate)) [name]
    rw [locate, if_neg hshort, walk, walk, ← hexplore]
    rfl
  have hshortName : ¬maxName < Path.octetCount name := fun h =>
    hlong ⟨hchild, by rw [hlocate', walk, explore, hat]; simp [hname.ne_up, h]⟩
  rw [look, hchild, hlocate', walk, explore, hat]
  cases hentry : fs.at? (l ++ [name]) <;> simp [hname.ne_up, hshortName, hentry, explore]

/-- What leads to a file in a folder is a file there, unless the path is too long. -/
theorem fits_iff_offers (hfs : fs.IsSound) (hfolder : fs.isFolder folder = .ok true)
    (hname : name ∈ fs.namesIn folder) (hlong : ¬fs.TooLong (folder.child name)) :
    fs.Fits folder wanted name ↔ fs.Offers folder wanted name := by
  obtain ⟨l, hlocate, hlook⟩ := look_child (hfs.isName_of_mem hname) hfolder hlong
  have hat : fs.at? (l ++ [name]) = Assoc.get? (l ++ [name]) fs.nodes := by simp [at?]
  rw [hat] at hlook
  constructor
  · rintro ⟨hfile, halike⟩
    rw [isFile, hlook] at hfile
    cases hentry : Assoc.get? (l ++ [name]) fs.nodes with
    | none =>
      rw [hentry] at hfile
      cases hfile
    | some node =>
      rw [hentry] at hfile
      cases node with
      | folder => cases hfile
      | file content =>
        have hmem := Assoc.mem_of_get?_eq_some hentry
        exact ⟨⟨content, hfolder, l, hlocate, hmem⟩, halike⟩
  · rintro ⟨⟨content, -, l', hlocate', hmem⟩, halike⟩
    obtain rfl := Except.ok.inj (hlocate.symm.trans hlocate')
    refine ⟨?_, halike⟩
    rw [isFile, hlook, (Assoc.get?_eq_some_iff hfs.nodup).mpr hmem]
    rfl

/-! ### Searching in a folder -/

/-- A search in a folder comes to a name: no name before it fits. -/
structure ComesTo (fs : FileSystem) (folder : Path) (wanted name : String) : Prop where
  isFolder : fs.isFolder folder = .ok true
  first : ∃ before after, fs.namesIn folder = before ++ name :: after
    ∧ ∀ m ∈ before, ¬fs.Fits folder wanted m

/-- The name of each file that a folder has for the wanted name is this one or behind it in
order. -/
def Foremost (fs : FileSystem) (folder : Path) (wanted name : String) : Prop :=
  ∀ m, fs.Offers folder wanted m → m = name ∨ precedes name m = true

/-- The first of the files that a folder has for the wanted name, if it has one. -/
inductive FirstFile (fs : FileSystem) (folder : Path) (wanted : String) : Option Path → Prop
  | missing (h : ∀ m, ¬fs.Offers folder wanted m) : FirstFile fs folder wanted none
  | found {m} (hoffers : fs.Offers folder wanted m) (hforemost : fs.Foremost folder wanted m) :
    FirstFile fs folder wanted (some (folder.child m))

theorem Passes.not_offers (hfs : fs.IsSound) (hfolder : fs.isFolder folder = .ok true)
    (hname : name ∈ fs.namesIn folder) (h : fs.Passes folder wanted name) :
    ¬fs.Offers folder wanted name :=
  mt (fits_iff_offers hfs hfolder hname h.notLong).mpr h.notFits

/-- Behind names that are passed over, a search is at a name that no file for the wanted name has
its name before. -/
theorem foremost_of_passes (hfs : fs.IsSound) (hfolder : fs.isFolder folder = .ok true)
    {before after : List String} (hnames : fs.namesIn folder = before ++ name :: after)
    (hbefore : ∀ m ∈ before, fs.Passes folder wanted m) : fs.Foremost folder wanted name := by
  intro m hoffers
  have hsorted := fs.pairwise_namesIn folder
  have hname : name ∈ fs.namesIn folder := by simp [hnames]
  have hm := hoffers.mem_namesIn
  have hsplit := hm
  rw [hnames] at hsorted hsplit
  rcases List.mem_append.mp hsplit with h | h
  · exact absurd hoffers ((hbefore m h).not_offers hfs hfolder hm)
  · rcases List.mem_cons.mp h with rfl | h
    · exact Or.inl rfl
    · have hafter : precedes m name = false :=
        List.rel_of_pairwise_cons (List.pairwise_append.mp hsorted).2.1 h
      cases hbehind : precedes name m with
      | true => exact Or.inr rfl
      | false =>
        exact Or.inl (eq_of_not_precedes (hfs.isName_of_mem hm).isSpelled
          (hfs.isName_of_mem hname).isSpelled hafter hbehind)

/-- A search comes to each name that no file for the wanted name has its name before. -/
theorem comesTo_of_foremost (hfs : fs.IsSound) {node : Node} (hholds : fs.Holds folder name node)
    (hforemost : fs.Foremost folder wanted name) : fs.ComesTo folder wanted name := by
  obtain ⟨before, after, hnames, hnotMem⟩ := List.eq_append_cons_of_mem hholds.mem_namesIn
  refine ⟨hholds.isFolder, before, after, hnames, fun m hm hfits => ?_⟩
  have hsorted := fs.pairwise_namesIn folder
  rw [hnames] at hsorted
  have hbehind : precedes name m = false :=
    (List.pairwise_append.mp hsorted).2.2 m hm name List.mem_cons_self
  have hoffers : fs.Offers folder wanted m :=
    (fits_iff_offers hfs hholds.isFolder (by simp [hnames, hm]) hfits.not_tooLong).mp hfits
  rcases hforemost m hoffers with rfl | hprecedes
  · exact hnotMem hm
  · exact Bool.false_ne_true (hbehind.symm.trans hprecedes)

theorem findFile_of_isFolder (h : fs.isFolder folder = .ok true) (wanted : String) :
    fs.findFile folder (.text wanted)
      = (fs.firstFile folder wanted (fs.namesIn folder)).mapError .file := by
  rw [findFile, h]
  rfl

/-- A search fails at the folder, or finds nothing in what is no folder, or goes through the
names. -/
theorem findFile_cases (fs : FileSystem) (folder : Path) (wanted : String) :
    (fs.TooLong folder
        ∧ fs.findFile folder (.text wanted) = .error (.file (.system .nameTooLong folder)))
      ∨ (fs.isFolder folder = .ok false ∧ fs.findFile folder (.text wanted) = .ok none)
      ∨ (fs.isFolder folder = .ok true ∧ fs.findFile folder (.text wanted)
        = (fs.firstFile folder wanted (fs.namesIn folder)).mapError .file) := by
  cases hfolder : fs.isFolder folder with
  | error e =>
    obtain ⟨hlong, rfl⟩ := isFolder_eq_error.mp hfolder
    refine Or.inl ⟨hlong, ?_⟩
    rw [findFile, hfolder]
    rfl
  | ok there =>
    cases there with
    | false =>
      refine Or.inr (Or.inl ⟨rfl, ?_⟩)
      rw [findFile, hfolder]
      rfl
    | true => exact Or.inr (Or.inr ⟨rfl, findFile_of_isFolder hfolder wanted⟩)

theorem firstFile_eq_error {e : FileError}
    (h : fs.firstFile folder wanted names = .error e) : ∃ p, e = .system .nameTooLong p := by
  have hsearch := fs.search_firstFile folder wanted names
  rw [h] at hsearch
  cases hsearch
  exact ⟨_, rfl⟩

theorem isFile_of_firstFile (h : fs.firstFile folder wanted names = .ok (some p)) :
    fs.isFile p = .ok true := by
  have hsearch := fs.search_firstFile folder wanted names
  rw [h] at hsearch
  cases hsearch with
  | found _ hfits => exact hfits.isFile

/-- What is found is there. -/
theorem isFile_of_findFile {v : Value} (h : fs.findFile folder v = .ok (some p)) :
    fs.isFile p = .ok true := by
  unfold findFile at h
  cases hfolder : fs.isFolder folder with
  | error e =>
    rw [hfolder] at h
    cases h
  | ok there =>
    rw [hfolder] at h
    cases there with
    | false => cases h
    | true =>
      cases v with
      | text wanted => exact isFile_of_firstFile (mapError_eq_ok.mp h)
      | _ => cases h

/-- A search fails only where a path is too long. -/
theorem findFile_eq_error {e : Failure} (h : fs.findFile folder (.text wanted) = .error e) :
    ∃ p, e = .file (.system .nameTooLong p) := by
  rcases fs.findFile_cases folder wanted with ⟨-, hfind⟩ | ⟨-, hfind⟩ | ⟨-, hfind⟩
  · exact ⟨folder, Except.error.inj (h.symm.trans hfind)⟩
  · cases h.symm.trans hfind
  · obtain ⟨e₀, he₀, rfl⟩ := exists_of_mapError_eq_error (hfind.symm.trans h)
    obtain ⟨p, rfl⟩ := firstFile_eq_error he₀
    exact ⟨p, rfl⟩

/-- A search in a folder fails just if the path of the folder is too long, or one that it comes
to. -/
theorem exists_findFile_eq_error :
    (∃ e, fs.findFile folder (.text wanted) = .error e)
      ↔ fs.TooLong folder
        ∨ ∃ name, fs.ComesTo folder wanted name ∧ fs.TooLong (folder.child name) := by
  rcases fs.findFile_cases folder wanted with ⟨hlong, hfind⟩ | ⟨hno, hfind⟩ | ⟨hfolder, hfind⟩
  · exact iff_of_true ⟨_, hfind⟩ (Or.inl hlong)
  · refine iff_of_false (fun ⟨e, he⟩ => nomatch hfind.symm.trans he) ?_
    rintro (hlong | ⟨name, hcomes, -⟩)
    · exact nomatch hno.symm.trans (isFolder_eq_error.mpr ⟨hlong, rfl⟩)
    · exact nomatch hno.symm.trans hcomes.isFolder
  · have hfile : (∃ e, fs.findFile folder (.text wanted) = .error e)
        ↔ ∃ e, fs.firstFile folder wanted (fs.namesIn folder) = .error e := by
      rw [hfind]
      cases fs.firstFile folder wanted (fs.namesIn folder) <;> simp [Except.mapError]
    have hnot : ¬fs.TooLong folder := fun hlong =>
      nomatch hfolder.symm.trans (isFolder_eq_error.mpr ⟨hlong, rfl⟩)
    rw [hfile, exists_firstFile_eq_error, or_iff_right hnot]
    constructor
    · rintro ⟨before, name, after, hnames, hbefore, hlong⟩
      exact ⟨name, ⟨hfolder, before, after, hnames, hbefore⟩, hlong⟩
    · rintro ⟨name, ⟨-, before, after, hnames, hbefore⟩, hlong⟩
      exact ⟨before, name, after, hnames, hbefore, hlong⟩

/-- Among sound entries a search fails just if the path of the folder is too long, or that of an
entry which no file for the wanted name has its name before. -/
theorem exists_findFile_eq_error_iff (hfs : fs.IsSound) :
    (∃ e, fs.findFile folder (.text wanted) = .error e)
      ↔ fs.TooLong folder ∨ ∃ name node, fs.Holds folder name node
        ∧ fs.Foremost folder wanted name ∧ fs.TooLong (folder.child name) := by
  constructor
  · rintro ⟨e, he⟩
    rcases fs.findFile_cases folder wanted with ⟨hlong, -⟩ | ⟨-, hfind⟩ | ⟨hfolder, hfind⟩
    · exact Or.inl hlong
    · cases hfind.symm.trans he
    · obtain ⟨e₀, he₀, -⟩ := exists_of_mapError_eq_error (hfind.symm.trans he)
      have hsearch := fs.search_firstFile folder wanted (fs.namesIn folder)
      rw [he₀] at hsearch
      generalize hnames : fs.namesIn folder = names at hsearch
      cases hsearch with
      | stopped hbefore hlong =>
        obtain ⟨node, hholds⟩ :=
          exists_holds hfolder (hnames ▸ List.mem_append_right _ List.mem_cons_self)
        exact Or.inr ⟨_, node, hholds, foremost_of_passes hfs hfolder hnames hbefore, hlong⟩
  · rw [exists_findFile_eq_error]
    rintro (hlong | ⟨name, node, hholds, hforemost, hlong⟩)
    · exact Or.inl hlong
    · exact Or.inr ⟨name, comesTo_of_foremost hfs hholds hforemost, hlong⟩

/-- What a search finds is the first file for the wanted name. -/
theorem firstFile_of_findFile (hfs : fs.IsSound) {found : Option Path}
    (h : fs.findFile folder (.text wanted) = .ok found) : fs.FirstFile folder wanted found := by
  rcases fs.findFile_cases folder wanted with ⟨-, hfind⟩ | ⟨hno, hfind⟩ | ⟨hfolder, hfind⟩
  · cases h.symm.trans hfind
  · obtain rfl := Except.ok.inj (h.symm.trans hfind)
    refine .missing fun m hoffers => ?_
    obtain ⟨⟨content, hholds⟩, -⟩ := hoffers
    exact nomatch hno.symm.trans hholds.isFolder
  · have hfirst := mapError_eq_ok.mp (hfind.symm.trans h)
    have hsearch := fs.search_firstFile folder wanted (fs.namesIn folder)
    rw [hfirst] at hsearch
    generalize hnames : fs.namesIn folder = names at hsearch
    cases hsearch with
    | missing hall =>
      refine .missing fun m hoffers => ?_
      have hm := hoffers.mem_namesIn
      exact (hall m (hnames ▸ hm)).not_offers hfs hfolder hm hoffers
    | found hbefore hfits =>
      have hmem : _ ∈ fs.namesIn folder := hnames ▸ List.mem_append_right _ List.mem_cons_self
      exact .found ((fits_iff_offers hfs hfolder hmem hfits.not_tooLong).mp hfits)
        (foremost_of_passes hfs hfolder hnames hbefore)

end FileSystem

end EntityMapping
