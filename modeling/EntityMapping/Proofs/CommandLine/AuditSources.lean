import EntityMapping.Proofs.CommandLine.Endings

/-!
# Lists of audit fields that are forgiven

A list of audit fields that cannot be loaded counts as absent if its failure is one of a resource.
Other failures get past that, and they are all ones that are not reported: an address whose host is
malformed is refused before anything is asked, an error answer without a status has no code to name,
and a path that is too long cannot even be looked up.  `exists_auditLines_iff` says that these are
all; for one address alone the first two are.

## Main definitions

* `Address.HostFlaw` — what is wrong with the host of an address.
* `OnlyResource` — an outcome fails as a resource or not at all.
* `Unanswered`, `Unforgiven` — what keeps the lines at an address, or the list of audit fields, from
  being loaded or forgiven.

## Main results

* `exists_auditLines_iff` — when there is a list of audit fields or none, and no failure.
-/

namespace EntityMapping

open Text

/-! ### Hosts -/

namespace Address

variable {host : List Char}

/-- The host that an address names, with all that stands with it before the path. -/
def hostOf (s : List Char) : List Char :=
  match (spanScheme (bare s)).2 with
  | '/' :: '/' :: r => r.takeWhile fun c => !endsHost c
  | _ => []

/-- What is wrong with a host: it has half a pair of square brackets, something else than a literal
in them, or a character with a separator in its compatibility form. -/
inductive HostFlaw (host : List Char) : Prop
  | half (h : ¬('[' ∈ host ↔ ']' ∈ host))
  | brackets (hopen : '[' ∈ host) (h : HostLiteral.bracketsFit host = false)
  | form {c : Char} (hc : c ∈ host) (h : inRuns separatorForms c = true)

theorem hostFits_eq_false_iff : hostFits host = false ↔ HostFlaw host := by
  have hfits : hostFits host = true ↔ ('[' ∈ host ↔ ']' ∈ host)
      ∧ ('[' ∉ host ∨ HostLiteral.bracketsFit host = true)
      ∧ ∀ c ∈ host, inRuns separatorForms c = false := by
    simp [hostFits, and_assoc]
  rw [← Bool.not_eq_true, hfits]
  constructor
  · intro h
    by_contra hno
    refine h ⟨?_, ?_, fun c hc => ?_⟩
    · exact not_not.mp fun hhalf => hno (.half hhalf)
    · by_cases hopen : '[' ∈ host
      · exact Or.inr (eq_true_of_ne_false fun hfit => hno (.brackets hopen hfit))
      · exact Or.inl hopen
    · exact eq_false_of_ne_true fun hform => hno (.form hc hform)
  · rintro (h | ⟨hopen, h⟩ | ⟨hc, h⟩) ⟨hpair, hliteral, hforms⟩
    · exact h hpair
    · rcases hliteral with hliteral | hliteral
      · exact hliteral hopen
      · exact nomatch hliteral.symm.trans h
    · exact nomatch (hforms _ hc).symm.trans h

/-- An address is refused just if its host has a flaw. -/
theorem isComplete_eq_error {s : String} :
    (∃ e, isComplete s = .error e) ↔ HostFlaw (hostOf s.toList) := by
  have hparse : parse s.toList = if hostFits (hostOf s.toList)
      then .ok ⟨(spanScheme (bare s.toList)).1, hostOf s.toList⟩
      else .error (.badHost (String.ofList (hostOf s.toList))) := rfl
  rw [← hostFits_eq_false_iff, isComplete, hparse]
  cases hostFits (hostOf s.toList) <;> simp [Except.map]

end Address

namespace CommandLine

section Outcomes

variable {α β : Type} {x : Except Failure α}

/-- An outcome fails as a resource or not at all. -/
def OnlyResource (x : Except Failure α) : Prop := ∀ e, x = .error e → ∃ c, e = .resource c

/-- An outcome fails as a resource, or in a way that is not reported, or not at all. -/
def ResourceOrEscapes (x : Except Failure α) : Prop :=
  ∀ e, x = .error e → (∃ c, e = .resource c) ∨ e.isReported = false

theorem ResourceOrEscapes.onlyResource_iff (h : ResourceOrEscapes x) :
    OnlyResource x ↔ ¬Escapes x := by
  constructor
  · rintro honly ⟨e, he, hescapes⟩
    obtain ⟨c, rfl⟩ := honly e he
    cases hescapes
  · intro hno e he
    exact (h e he).resolve_right fun hescapes => hno ⟨e, he, hescapes⟩

theorem resourceOrEscapes_ok (a : α) : ResourceOrEscapes (.ok a) := nofun

theorem resourceOrEscapes_resource (c : ResourceError) :
    ResourceOrEscapes (.error (.resource c) : Except Failure α) := by
  rintro _ ⟨⟩
  exact Or.inl ⟨c, rfl⟩

theorem resourceOrEscapes_of_not_isReported {e : Failure} (h : e.isReported = false) :
    ResourceOrEscapes (.error e : Except Failure α) := by
  rintro _ ⟨⟩
  exact Or.inr h

theorem ResourceOrEscapes.map (h : ResourceOrEscapes x) (f : α → β) :
    ResourceOrEscapes (x.map f) := by
  cases x with
  | ok a => exact resourceOrEscapes_ok (f a)
  | error e =>
    rintro _ ⟨⟩
    exact h e rfl

end Outcomes

variable {ask : String → Reply} {r : GenerateRequest} {fs : FileSystem} {s : Settings}

/-! ### Each source -/

theorem resourceOrEscapes_loadFileLines (fs : FileSystem) (p : Path) :
    ResourceOrEscapes (loadFileLines fs p).1 := by
  unfold loadFileLines
  cases hfile : fs.isFile p with
  | error e =>
    obtain ⟨-, rfl⟩ := FileSystem.isFile_eq_error.mp hfile
    exact resourceOrEscapes_of_not_isReported rfl
  | ok there =>
    cases there with
    | false => exact resourceOrEscapes_ok none
    | true =>
      dsimp only
      split
      · exact resourceOrEscapes_resource _
      · split
        · exact resourceOrEscapes_resource _
        · exact resourceOrEscapes_ok _

theorem resourceOrEscapes_lines (reply : Reply) (address : String) :
    ResourceOrEscapes (reply.lines address).1 := by
  cases reply with
  | answer status text =>
    unfold Reply.lines
    dsimp only
    split
    · exact resourceOrEscapes_resource _
    · exact resourceOrEscapes_ok _
  | noStatus => exact resourceOrEscapes_of_not_isReported rfl
  | timedOut => exact resourceOrEscapes_resource _
  | notConnected reason => exact resourceOrEscapes_resource _
  | failed reason => exact resourceOrEscapes_resource _

theorem resourceOrEscapes_loadAddressLines (ask : String → Reply) (v : Value) :
    ResourceOrEscapes (loadAddressLines ask v).1 := by
  unfold loadAddressLines
  cases v with
  | text address =>
    dsimp only
    split
    · exact resourceOrEscapes_of_not_isReported rfl
    · exact resourceOrEscapes_resource _
    · exact resourceOrEscapes_lines (ask address) address
  | _ => exact resourceOrEscapes_of_not_isReported rfl

theorem resourceOrEscapes_loadLines (fs : FileSystem) (ask : String → Reply)
    (source : LineSource) : ResourceOrEscapes (loadLines fs ask source).1 := by
  cases source with
  | absent => exact resourceOrEscapes_ok none
  | both => exact resourceOrEscapes_resource _
  | address v => exact (resourceOrEscapes_loadAddressLines ask v).map some
  | file v =>
    unfold loadLines
    dsimp only
    split
    · exact resourceOrEscapes_loadFileLines fs _
    · exact resourceOrEscapes_of_not_isReported rfl

theorem resourceOrEscapes_findFile (fs : FileSystem) (folder : Path) (wanted : Value) :
    ResourceOrEscapes (fs.findFile folder wanted) := by
  by_cases htext : wanted.IsText
  · obtain ⟨text, rfl⟩ := htext
    intro e he
    obtain ⟨p, rfl⟩ := FileSystem.findFile_eq_error he
    exact Or.inr rfl
  · unfold FileSystem.findFile
    cases hfolder : fs.isFolder folder with
    | error e =>
      obtain ⟨-, rfl⟩ := FileSystem.isFolder_eq_error.mp hfolder
      exact resourceOrEscapes_of_not_isReported rfl
    | ok there =>
      cases there with
      | false => exact resourceOrEscapes_ok none
      | true =>
        cases wanted with
        | text text => exact absurd ⟨text, rfl⟩ htext
        | _ => exact resourceOrEscapes_of_not_isReported rfl

theorem resourceOrEscapes_auditSource (r : GenerateRequest) (fs : FileSystem)
    (ask : String → Reply) (s : Settings) : ResourceOrEscapes (r.auditSource fs ask s).1 := by
  unfold GenerateRequest.auditSource
  split_ifs
  · exact resourceOrEscapes_loadLines fs ask _
  · exact resourceOrEscapes_loadLines fs ask _
  · have hfind := resourceOrEscapes_findFile fs (Path.ofText r.manifest).parent s.auditFieldsFile
    dsimp only
    cases hfound : fs.findFile (Path.ofText r.manifest).parent s.auditFieldsFile with
    | error e =>
      rw [hfound] at hfind
      rintro _ ⟨⟩
      exact hfind e rfl
    | ok found =>
      cases found with
      | none => exact resourceOrEscapes_ok none
      | some p => exact resourceOrEscapes_loadFileLines fs p

/-- There is a list of audit fields or none just if no failure gets past what is forgiven. -/
theorem exists_auditLines_iff_not_escapes :
    (∃ lines, (r.auditLines fs ask s).1 = .ok lines) ↔ ¬Escapes (r.auditLines fs ask s).1 := by
  constructor
  · rintro ⟨lines, hlines⟩
    rw [hlines]
    exact not_escapes_ok lines
  · intro hno
    cases hlines : (r.auditLines fs ask s).1 with
    | ok lines => exact ⟨lines, rfl⟩
    | error e =>
      -- The failure was not forgiven, so it is not one of a resource, and all others escape.
      refine absurd ⟨e, hlines, ?_⟩ hno
      unfold GenerateRequest.auditLines at hlines
      split at hlines
      · cases hlines
      · rename_i hother
        refine (resourceOrEscapes_auditSource r fs ask s e hlines).resolve_left ?_
        rintro ⟨c, rfl⟩
        exact hother c _ (Prod.ext hlines rfl)

/-! ### What is not forgiven -/

/-- What keeps the lines at an address from being loaded other than as a resource fails: its host
has a flaw, or the answer is an error without a status. -/
inductive Unanswered (ask : String → Reply) (address : String) : Prop
  | host (h : Address.HostFlaw (Address.hostOf address.toList))
  | noStatus (hcomplete : Address.isComplete address = .ok true) (h : ask address = .noStatus)

theorem addressHazard_iff {address : String} :
    AddressHazard ask (.text address) ↔ Unanswered ask address := by
  constructor
  · rintro (h | h | ⟨hcomplete, h⟩)
    · exact absurd ⟨address, rfl⟩ h
    · exact .host (Address.isComplete_eq_error.mp ⟨_, h⟩)
    · exact .noStatus hcomplete h
  · rintro (h | ⟨hcomplete, h⟩)
    · obtain ⟨e, he⟩ := Address.isComplete_eq_error.mpr h
      exact .host he
    · exact .noStatus hcomplete h

/-- What keeps the list of audit fields from being loaded or forgiven, where an address and a path
may be given, and a file next to the manifest is wanted: something at the address that is given, or
a path that is too long, which may be the one that is given, that of the folder of the manifest or
that of a name which the search there comes to. -/
inductive Unforgiven (ask : String → Reply) (fs : FileSystem) (manifest : Path) (wanted : String) :
    Option String → Option String → Prop
  | address {url path} (hurl : url ≠ "") (h : Unanswered ask url) :
    Unforgiven ask fs manifest wanted (some url) path
  | file {url path} (hurl : url.getD "" = "") (hpath : path ≠ "")
    (h : fs.TooLong (.ofText path)) : Unforgiven ask fs manifest wanted url (some path)
  | folder {url path} (hurl : url.getD "" = "") (hpath : path.getD "" = "")
    (h : fs.TooLong manifest.parent) : Unforgiven ask fs manifest wanted url path
  | neighbour {url path name} (hurl : url.getD "" = "") (hpath : path.getD "" = "")
    (hcomes : fs.ComesTo manifest.parent wanted name)
    (h : fs.TooLong (manifest.parent.child name)) : Unforgiven ask fs manifest wanted url path

theorem truthy_nameValue {o : Option String} : (nameValue o).truthy = true ↔ o.getD "" ≠ "" := by
  cases o <;> simp [nameValue, Value.truthy]

/-- Nothing else keeps the list from being loaded, as long as texts name the sources. -/
theorem auditHazard_iff {url path : Option String} {wanted : String}
    (hurl : r.auditFieldsUrl = nameValue url) (hpath : r.auditFields = nameValue path)
    (hwanted : s.auditFieldsFile = .text wanted) :
    AuditHazard ask r fs s ↔ Unforgiven ask fs r.manifestPath wanted url path := by
  have htrue {t : String} : (nameValue (some t)).truthy = true ↔ t ≠ "" := truthy_nameValue
  have hfalse {o : Option String} : (nameValue o).truthy = false ↔ o.getD "" = "" := by
    rw [← Bool.not_eq_true, truthy_nameValue, not_not]
  constructor
  · rintro (⟨hasked, h⟩ | ⟨hsilent, hnamed, h⟩ | ⟨hsilent, hunnamed, h⟩)
    · rw [hurl] at hasked h
      cases url with
      | none => cases hasked
      | some url => exact .address (htrue.mp hasked) (addressHazard_iff.mp h)
    · rw [hurl, hfalse] at hsilent
      rw [hpath] at hnamed h
      cases path with
      | none => cases hnamed
      | some path =>
        rcases h with h | h
        · exact absurd ⟨path, rfl⟩ h
        · exact .file hsilent (htrue.mp hnamed) h
    · rw [hurl, hfalse] at hsilent
      rw [hpath, hfalse] at hunnamed
      rw [hwanted] at h
      rcases h with h | ⟨-, h⟩ | ⟨⟨⟩, hcomes, h⟩
      · exact .folder hsilent hunnamed h
      · exact absurd ⟨wanted, rfl⟩ h
      · exact .neighbour hsilent hunnamed hcomes h
  · intro h
    cases h with
    | address hasked h =>
      exact .address (hurl ▸ htrue.mpr hasked) (hurl ▸ addressHazard_iff.mpr h)
    | file hsilent hnamed h =>
      exact .file (hurl ▸ hfalse.mpr hsilent) (hpath ▸ htrue.mpr hnamed) (hpath ▸ .tooLong h)
    | folder hsilent hunnamed h =>
      exact .neighbour (hurl ▸ hfalse.mpr hsilent) (hpath ▸ hfalse.mpr hunnamed) (.folder h)
    | neighbour hsilent hunnamed hcomes h =>
      exact .neighbour (hurl ▸ hfalse.mpr hsilent) (hpath ▸ hfalse.mpr hunnamed)
        (.entry hwanted hcomes h)

/-- When the list of audit fields is loaded or counts as absent.  Texts name the sources, and any
files and any replies are possible: there is a list or none just if nothing is there that is not
forgiven.  An address by itself fails only as a resource just if it is not one that cannot be
asked or gives no status. -/
theorem exists_auditLines_iff {url path : Option String} {wanted : String}
    (hurl : r.auditFieldsUrl = nameValue url) (hpath : r.auditFields = nameValue path)
    (hwanted : s.auditFieldsFile = .text wanted) :
    ((∃ lines, (r.auditLines fs ask s).1 = .ok lines)
      ↔ ¬Unforgiven ask fs r.manifestPath wanted url path)
    ∧ ∀ address,
      OnlyResource (loadAddressLines ask (.text address)).1 ↔ ¬Unanswered ask address := by
  constructor
  · rw [exists_auditLines_iff_not_escapes, escapes_auditLines, auditHazard_iff hurl hpath hwanted]
  · intro address
    rw [(resourceOrEscapes_loadAddressLines ask (.text address)).onlyResource_iff,
      escapes_loadAddressLines, addressHazard_iff]

namespace Sample

/-- A command with an address of a list of audit fields. -/
def addressRequest (address : String) : GenerateRequest :=
  { manifest := "m.json", auditFieldsUrl := .text address }

end Sample

open Sample

/-- Without a network, a list at an address with a plain host counts as absent. -/
theorem exists_auditLines_noNetwork :
    (∃ lines, ((addressRequest "http://audit.example/f").auditLines (FileSystem.empty ["work"])
        noNetwork {}).1 = .ok lines)
      ∧ OnlyResource (loadAddressLines noNetwork (.text "http://audit.example/f")).1 := by
  have hcomplete : Address.isComplete "http://audit.example/f" = .ok true := rfl
  have hanswered : ¬Unanswered noNetwork "http://audit.example/f" := by
    rintro (h | ⟨-, h⟩)
    · obtain ⟨e, he⟩ := Address.isComplete_eq_error.mpr h
      exact nomatch hcomplete.symm.trans he
    · cases h
  obtain ⟨hlist, haddress⟩ := @exists_auditLines_iff noNetwork
    (addressRequest "http://audit.example/f") (FileSystem.empty ["work"]) {}
    (some "http://audit.example/f") none "AuditFields.txt" rfl rfl rfl
  refine ⟨hlist.mpr ?_, (haddress _).mpr hanswered⟩
  intro hunforgiven
  cases hunforgiven with
  | address _ h => exact hanswered h
  | folder hsilent => exact absurd hsilent (by decide)
  | neighbour hsilent => exact absurd hsilent (by decide)

/-- A host with half a pair of brackets is a failure that is not one of a resource, so there is
neither a list nor none. -/
theorem auditLines_bracket :
    (addressRequest "http://[").auditFieldsUrl = .text "http://["
      ∧ ({} : Settings).auditFieldsFile = .text "AuditFields.txt"
      ∧ (¬∃ lines, ((addressRequest "http://[").auditLines (FileSystem.empty ["work"])
        noNetwork {}).1 = .ok lines)
      ∧ ¬OnlyResource (loadAddressLines noNetwork (.text "http://[")).1 := by
  have hlist : ((addressRequest "http://[").auditLines (FileSystem.empty ["work"]) noNetwork {}).1
      = .error (.fault (.badHost "[")) := rfl
  refine ⟨rfl, rfl, ?_, fun honly => ?_⟩
  · rintro ⟨lines, hlines⟩
    exact nomatch hlist.symm.trans hlines
  · obtain ⟨c, hc⟩ := honly (.fault (.badHost "[")) rfl
    cases hc

end CommandLine

end EntityMapping
