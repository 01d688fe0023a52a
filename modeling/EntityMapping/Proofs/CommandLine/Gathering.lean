import EntityMapping.CommandLine.Generate
import EntityMapping.Proofs.CommandLine.Steps
import EntityMapping.Proofs.Registry.Ownership

/-!
# What a command gathers

Before a command writes, it has prepared a generator, loaded candidates, found the list of audit
fields or not, and generated (`yields_gather`).  Only notes change files up to there, so the files
that each of these steps sees are those before with the notes of the steps in between.

## Main definitions

* `Prepares` — the settings for the target, and a generator made from them.
* `Loads` — the candidates of the manifest.
* `Generates` — what generation gave, and the files then.
* `GenerateRequest.filesFound`, `filesRead`, `filesLoaded`, `filesListed` — the files on the way.
-/

namespace EntityMapping.CommandLine

namespace GenerateRequest

variable (ask : String → Reply) (r : GenerateRequest) (o : Outlet) (fs : FileSystem)
  (s : Settings) (builder manifest : Value)

/-- The path of the manifest. -/
def manifestPath : Path := .ofText r.manifest

/-- The files after the manifest was looked for. -/
def filesFound : FileSystem := o.takeAll fs (findDocument fs r.manifestPath).2

/-- The files after the manifest was read. -/
def filesRead : FileSystem :=
  o.takeAll (r.filesFound o fs) (parseDocument (r.filesFound o fs) r.manifestPath).2

/-- The files after the candidates were loaded. -/
def filesLoaded : FileSystem :=
  o.takeAll (r.filesRead o fs) (Manifest.loadCandidates manifest builder).2

/-- The files after the list of audit fields was loaded. -/
def filesListed : FileSystem :=
  o.takeAll (r.filesLoaded o fs builder manifest)
    (r.auditLines (r.filesLoaded o fs builder manifest) ask s).2

end GenerateRequest

/-- A command has settings for its target that pass the check, and a generator made from them. -/
structure Prepares (r : GenerateRequest) (fs : FileSystem) (target : String) (s : Settings)
    (g : Generator) : Prop where
  resolved : r.targetName = .ok target
  configured : r.settings fs target = .ok s
  checked : ∃ warnings, s.check = .ok warnings
  created : Registry.bundled.createGenerator fs target (.settings s) = .ok g

/-- A command has the candidates of its manifest. -/
structure Loads (r : GenerateRequest) (o : Outlet) (fs : FileSystem) (s : Settings)
    (builder manifest : Value) (cs : List Candidate) : Prop where
  named : s.customAt "builder_type" Manifest.defaultBuilderType = .ok builder
  found : (findDocument fs r.manifestPath).1 = .ok ()
  read : (parseDocument (r.filesFound o fs) r.manifestPath).1 = .ok manifest
  loaded : (Manifest.loadCandidates manifest builder).1 = .ok cs

/-- A command has generated artifacts, and these are the files then. -/
inductive Generates (ask : String → Reply) (r : GenerateRequest) (o : Outlet) (fs : FileSystem) :
    Generated → FileSystem → Prop
  | intro {target s gen builder manifest cs lines artifacts warnings facts}
    (prepared : Prepares r fs target s gen) (loaded : Loads r o fs s builder manifest cs)
    (listed : (r.auditLines (r.filesLoaded o fs builder manifest) ask s).1 = .ok lines)
    (generated : (generate gen cs (linesValue lines)).1 = .success artifacts warnings facts) :
    Generates ask r o fs { settings := s, artifacts := artifacts.map (·.2), warnings, facts }
      (o.takeAll (r.filesListed ask o fs s builder manifest)
        (generate gen cs (linesValue lines)).2)

variable {ask : String → Reply} {r : GenerateRequest} {o : Outlet} {fs fs' : FileSystem}
  {t t' : Trace} {g : Generated}

/-- A generator has the settings that it was made from, and their suffix for files. -/
theorem create_eq_ok {s : Settings} {target : Target} {gen : Generator}
    (h : Generator.create fs target s = .ok gen) :
    gen.settings = s ∧ s.customAt "file_suffix" (.text ".g.cs") = .ok gen.fileExtension := by
  unfold Generator.create at h
  cases hrefusal : target.refusal with
  | some reason =>
    rw [hrefusal] at h
    cases h
  | none =>
    simp only [hrefusal, bind_eq_ok, liftM_fault_eq_ok, pure_eq_ok] at h
    obtain ⟨shelf, -, extension, hextension, rfl⟩ := h
    exact ⟨rfl, hextension⟩

theorem createGenerator_eq_ok {registry : Registry} {name : String} {s : Settings}
    {gen : Generator}
    (h : registry.createGenerator fs name (.settings s) = .ok gen) :
    ∃ key t, registry.find name = .ok (key, t) ∧ Generator.create fs t s = .ok gen := by
  obtain ⟨⟨key, t⟩, hfind, -⟩ := bind_eq_ok.mp h
  have hfind : registry.find name = .ok (key, t) := mapError_eq_ok.mp hfind
  rw [Registry.createGenerator_of_find hfind] at h
  obtain ⟨_, ⟨⟩, hcreate⟩ := bind_eq_ok.mp h
  exact ⟨key, t, hfind, mapError_eq_ok.mp hcreate⟩

/-- A command gathers what it generates; the trace that it leaves has the files then, and the same
outlet. -/
theorem generates_of_yields (h : (gather ask r).Yields t g t') :
    Generates ask r t.outlet t.files g t'.files ∧ t'.outlet = t.outlet := by
  simp only [gather, Step.yields_bind, Step.yields_ofExcept, Step.yields_reading,
    Step.yields_noted, Step.yields_noting, Step.yields_forIn_print, liftM_fault_eq_ok, and_assoc,
    exists_and_left, exists_eq_left', exists_const] at h
  obtain ⟨target, htarget, s, hs, warnings, hwarnings, gen, hgen, builder, hbuilder, _, hfound,
    manifest, hmanifest, cs, hcs, lines, hlines, h⟩ := h
  cases hresult : (generate gen cs (linesValue lines)).1 with
  | failed cause =>
    rw [hresult] at h
    exact absurd h Step.not_yields_throw
  | success artifacts warnings' facts =>
    rw [hresult] at h
    obtain ⟨rfl, rfl⟩ := Step.yields_pure.mp h
    exact ⟨.intro ⟨htarget, hs, ⟨warnings, hwarnings⟩, hgen⟩ ⟨hbuilder, hfound, hmanifest, hcs⟩
      hlines hresult, rfl⟩

/-- What is generated is gathered. -/
theorem Generates.exists_yields (h : Generates ask r t.outlet t.files g fs') :
    ∃ t', (gather ask r).Yields t g t' ∧ t'.files = fs' ∧ t'.outlet = t.outlet := by
  obtain @⟨target, s, gen, builder, manifest, cs, lines, artifacts, warnings', facts,
    ⟨htarget, hs, ⟨warnings, hwarnings⟩, hgen⟩, ⟨hbuilder, hfound, hmanifest, hcs⟩, hlines,
    hresult⟩ := h
  let searched := (t.print (warnings.map fun w => .line ("[yellow]⚠️ " ++ w ++ "[/yellow]"))).take
    (findDocument t.files r.manifestPath).2
  let loaded := (searched.take (parseDocument searched.files r.manifestPath).2).take
    (Manifest.loadCandidates manifest builder).2
  let listed := loaded.take (r.auditLines loaded.files ask s).2
  refine ⟨listed.take (generate gen cs (linesValue lines)).2, ?_, rfl, rfl⟩
  simp only [gather, Step.yields_bind, Step.yields_ofExcept, Step.yields_reading,
    Step.yields_noted, Step.yields_noting, Step.yields_forIn_print, liftM_fault_eq_ok, and_assoc,
    exists_and_left, exists_eq_left', exists_const]
  refine ⟨target, htarget, s, hs, warnings, hwarnings, gen, hgen, builder, hbuilder, (), hfound,
    manifest, hmanifest, cs, hcs, lines, hlines, ?_⟩
  rw [hresult]
  exact Step.yields_pure.mpr ⟨rfl, rfl⟩

end EntityMapping.CommandLine
