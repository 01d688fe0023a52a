import EntityMapping.Files.Writing
import EntityMapping.Proofs.Outcome
import EntityMapping.Proofs.Text.Utf8

/-!
# What writing a file leaves

If every piece of a text can be written, the octets are those of the characters that the pieces
print together (`encodePieces_eq_ok`).  A file that was written is there, and it holds what was
written (`exists?_of_write`, `read_of_write`): the way to its folder leads through folders only, and
what was written is at none of them.

## Main definitions

* `Prints` — pieces can be printed, and these are the characters that they print.
-/

namespace EntityMapping

open Text

/-! ### Characters of texts -/

namespace Text

theorem chars?_append_of_unmarked {s : List Char} (h : mark ∉ s) (t : List Char) :
    chars? (s ++ t) = (chars? t).map (s ++ ·) := by
  induction s with
  | nil => simp
  | cons c r ih =>
    obtain ⟨hc, hr⟩ := not_or.mp (mt List.mem_cons.mpr h)
    rw [List.cons_append, chars?_cons_of_ne _ (Ne.symm hc), ih hr, Option.map_map]
    rfl

theorem chars?_of_unmarked {s : List Char} (h : mark ∉ s) : chars? s = some s := by
  simpa [chars?] using chars?_append_of_unmarked h []

end Text

/-! ### Pieces of a text -/

/-- Pieces can be printed, and these are the characters that they print together. -/
def Prints : List (Except Fault (List Char)) → List Char → Prop
  | [], cs => cs = []
  | p :: r, cs => ∃ s a b, p = .ok s ∧ chars? s = some a ∧ Prints r b ∧ cs = a ++ b

theorem prints_cons {s : List Char} {ps : List (Except Fault (List Char))} {cs : List Char} :
    Prints (.ok s :: ps) cs ↔ ∃ a b, chars? s = some a ∧ Prints ps b ∧ cs = a ++ b := by
  rw [Prints]
  constructor
  · rintro ⟨_, a, b, ⟨rfl⟩, ha, hb, rfl⟩
    exact ⟨a, b, ha, hb, rfl⟩
  · rintro ⟨a, b, ha, hb, rfl⟩
    exact ⟨s, a, b, rfl, ha, hb, rfl⟩

theorem prints_cons_of_unmarked {s : List Char} (h : mark ∉ s)
    {ps : List (Except Fault (List Char))} {cs : List Char} :
    Prints (.ok s :: ps) cs ↔ ∃ b, Prints ps b ∧ cs = s ++ b := by
  rw [prints_cons, chars?_of_unmarked h]
  simp

theorem prints_singleton {s cs : List Char} : Prints [.ok s] cs ↔ chars? s = some cs := by
  simp [Prints]

theorem prints_append {ps qs : List (Except Fault (List Char))} {cs : List Char} :
    Prints (ps ++ qs) cs ↔ ∃ a b, Prints ps a ∧ Prints qs b ∧ cs = a ++ b := by
  induction ps generalizing cs with
  | nil => simp [Prints]
  | cons p r ih =>
    simp only [List.cons_append, Prints, ih]
    constructor
    · rintro ⟨s, a, _, hp, ha, ⟨b, c, hb, hc, rfl⟩, rfl⟩
      exact ⟨a ++ b, c, ⟨s, a, b, hp, ha, hb, rfl⟩, hc, (List.append_assoc a b c).symm⟩
    · rintro ⟨_, c, ⟨s, a, b, hp, ha, hb, rfl⟩, hc, rfl⟩
      exact ⟨s, a, b ++ c, hp, ha, ⟨b, c, hb, hc, rfl⟩, List.append_assoc a b c⟩

theorem pieceOctets_eq_ok {p : Except Fault (List Char)} {octets : Utf8.Octets} :
    pieceOctets p = .ok octets
      ↔ ∃ s cs, p = .ok s ∧ chars? s = some cs ∧ octets = Utf8.encode cs := by
  cases p with
  | error e => simp [pieceOctets]
  | ok s =>
    rw [pieceOctets, Utf8.encodeText?]
    cases hs : chars? s with
    | none => simp [hs]
    | some cs => simp [hs, eq_comm]

/-- Pieces that can all be written give the octets of what they print. -/
theorem encodePieces_eq_ok {ps : List (Except Fault (List Char))} {octets : Utf8.Octets} :
    encodePieces ps = (octets, .ok ()) ↔ ∃ cs, Prints ps cs ∧ octets = Utf8.encode cs := by
  induction ps generalizing octets with
  | nil => simp [encodePieces, Prints, Utf8.encode, eq_comm]
  | cons p r ih =>
    rw [encodePieces]
    constructor
    · intro h
      split at h
      · cases h
      · obtain ⟨s, a, rfl, ha, rfl⟩ := pieceOctets_eq_ok.mp ‹_›
        cases hr : encodePieces r with
        | mk rest outcome =>
          rw [hr] at h
          obtain ⟨rfl, rfl⟩ := Prod.mk.inj h
          obtain ⟨b, hb, rfl⟩ := ih.mp hr
          exact ⟨a ++ b, ⟨s, a, b, rfl, ha, hb, rfl⟩, (Utf8.encode_append a b).symm⟩
    · rintro ⟨_, ⟨s, a, b, rfl, ha, hb, rfl⟩, rfl⟩
      rw [pieceOctets_eq_ok.mpr ⟨s, a, rfl, ha, rfl⟩, ih.mpr ⟨b, hb, rfl⟩, Utf8.encode_append]

/-! ### A file that was written -/

namespace FileSystem

variable {fs fs' : FileSystem} {p : Path} {content : Utf8.Octets} {l l₀ folder : Location}
  {names : List String}

theorem write_eq_ok :
    fs.write p content = .ok fs'
      ↔ p.flaw? = none ∧ ∃ l, fs.target p = .ok l ∧ fs.put l (.file content) = fs' := by
  unfold write
  cases p.flaw? with
  | some e => simp
  | none => cases fs.target p <;> simp

/-- A path can be opened for writing or not, whatever is to be written. -/
theorem write_cases (fs : FileSystem) (p : Path) :
    (∃ e, ∀ content, fs.write p content = .error e)
      ∨ ∃ l, fs.target p = .ok l
        ∧ ∀ content, fs.write p content = .ok (fs.put l (.file content)) := by
  unfold write
  cases p.flaw? with
  | some e => exact Or.inl ⟨e, fun _ => rfl⟩
  | none =>
    cases fs.target p with
    | error e => exact Or.inl ⟨_, fun _ => rfl⟩
    | ok l => exact Or.inr ⟨l, rfl, fun _ => rfl⟩

theorem walk_eq_ok : fs.walk l₀ names = .ok l ↔ fs.explore l₀ names = .ok (l, []) := by
  unfold walk
  split <;> simp_all

theorem walk_of_locate (h : fs.locate p = .ok l) : fs.walk (fs.start p) p.parts = .ok l := by
  rw [locate] at h
  split_ifs at h
  exact h

/-- A file can be written only in a folder that is there, under a name that is no folder. -/
theorem target_eq_ok (h : fs.target p = .ok l) :
    Path.octetCount p.text < maxPath ∧ ∃ folder above name,
      p.parts = above ++ [name] ∧ fs.walk (fs.start p) above = .ok folder
        ∧ fs.at? folder = some .folder ∧ name ≠ ".." ∧ Path.octetCount name ≤ maxName
        ∧ fs.at? l ≠ some .folder ∧ l = folder ++ [name] := by
  unfold target at h
  split at h
  · cases h
  · split at h
    · cases h
    · rename_i hlength name hname
      obtain ⟨folder, hwalk, h⟩ := bind_eq_ok.mp h
      split at h
      · split_ifs at h with hup hlong hfolder
        obtain rfl := Except.ok.inj h
        have hparts : p.parts = p.parts.dropLast ++ [name] :=
          (List.dropLast_append_getLast? name hname).symm
        exact ⟨by omega, folder, p.parts.dropLast, name, hparts, hwalk, ‹_›, hup, by omega, hfolder,
          rfl⟩
      · cases h
      · cases h

/-- The way to a folder is the same with another node at a location that was no folder. -/
theorem explore_put (node : Node) (hl : fs.at? l ≠ some .folder)
    (hfolder : fs.at? folder = some .folder) (h : fs.explore l₀ names = .ok (folder, []))
    (further : List String) :
    (fs.put l node).explore l₀ (names ++ further) = (fs.put l node).explore folder further := by
  have hroot : l ≠ [] := by
    rintro rfl
    exact hl rfl
  have hsome {k : Location} (hk : (fs.at? k).isSome = true) :
      ((fs.put l node).at? k).isSome = true := by
    by_cases hkl : k = l
    · rw [hkl, at?_put_same fs node hroot]
      rfl
    · rwa [at?_put_of_ne fs node hkl]
  -- A step of the way asks for a folder here and for anything under the next name; the changed
  -- location is no folder, and nothing that was there has gone.
  induction names generalizing l₀ with
  | nil =>
    obtain ⟨rfl, -⟩ := Prod.mk.inj (Except.ok.inj h)
    rfl
  | cons name r ih =>
    rw [explore] at h
    rw [List.cons_append, explore]
    cases hat : fs.at? l₀ with
    | none => simp [hat] at h
    | some found =>
      cases found with
      | file content => simp [hat] at h
      | folder =>
        have hne : l₀ ≠ l := by
          rintro rfl
          exact hl hat
        rw [at?_put_of_ne fs node hne, hat]
        rw [hat] at h
        dsimp only at h ⊢
        split_ifs at h with hup hlong hthere
        · rw [if_pos hup]
          exact ih h
        · rw [if_neg hup, if_neg hlong, if_pos (hsome hthere)]
          exact ih h
        · simp at h

theorem locate_of_write (h : fs.write p content = .ok fs') :
    p.flaw? = none ∧ ∃ l, fs'.locate p = .ok l ∧ fs'.at? l = some (.file content) := by
  obtain ⟨hflaw, l, htarget, rfl⟩ := write_eq_ok.mp h
  obtain ⟨hlength, folder, above, name, hparts, hwalk, hfolder, hup, hlong, hl, rfl⟩ :=
    target_eq_ok htarget
  have hroot : folder ++ [name] ≠ [] := by simp
  have hne : folder ≠ folder ++ [name] := by simp
  have hsame := at?_put_same fs (.file content) hroot
  have hstart : (fs.put (folder ++ [name]) (.file content)).start p = fs.start p := rfl
  refine ⟨hflaw, folder ++ [name], ?_, hsame⟩
  rw [locate, if_neg (by omega), walk_eq_ok, hstart, hparts,
    explore_put _ hl hfolder (walk_eq_ok.mp hwalk), explore, at?_put_of_ne fs _ hne, hfolder]
  dsimp only
  rw [if_neg hup, if_neg (by omega), hsame, Option.isSome_some, if_pos rfl]
  rfl

/-- A file that was written is there. -/
theorem exists?_of_write (h : fs.write p content = .ok fs') : fs'.exists? p = .ok true := by
  obtain ⟨hflaw, l, hlocate, hat⟩ := locate_of_write h
  rw [exists?, look, hflaw]
  dsimp only
  rw [hlocate]
  dsimp only
  rw [hat]
  rfl

/-- A file that was written holds what was written. -/
theorem read_of_write (h : fs.write p content = .ok fs') : fs'.read p = .ok content := by
  obtain ⟨hflaw, l, hlocate, hat⟩ := locate_of_write h
  rw [read, hflaw]
  dsimp only
  rw [hlocate]
  dsimp only [bind, Except.bind]
  rw [hat]
  rfl

/-- A text that was written is there in octets. -/
theorem writeText_eq_ok {ps : List (Except Fault (List Char))}
    (h : fs.writeText p ps = (fs', .ok ())) :
    ∃ cs, Prints ps cs ∧ fs.write p (Utf8.encode cs) = .ok fs' := by
  unfold writeText at h
  dsimp only at h
  split at h
  · cases h
  · obtain ⟨rfl, houtcome⟩ := Prod.mk.inj h
    obtain ⟨cs, hcs, hoctets⟩ := encodePieces_eq_ok.mp (Prod.ext rfl houtcome)
    exact ⟨cs, hcs, by rwa [← hoctets]⟩

end FileSystem

end EntityMapping
