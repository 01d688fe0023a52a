import EntityMapping.Proofs.Directives.Firsts
import EntityMapping.Proofs.Manifest.Spelling
import EntityMapping.Proofs.Registry.Ownership

/-!
# Generation without the names of annotations

Directives are made of the kinds and the arguments of annotations, and nothing else of a generation
looks at annotations.  So candidates without the names of their annotations give what the candidates
give (`generate_unnamed`).  Attributes of a manifest that are spelled in another way change no more
than those names, which leaves the result of a generation as it is
(`Manifest.loadCandidates_respelled`).

## Main definitions

* `Property.unnamed`, `EntityType.unnamed`, `Candidate.unnamed` — without the names of annotations.
-/

namespace EntityMapping

/-- A property without the names of its annotations. -/
def Property.unnamed (p : Property) : Property := p.mapAnnotations Annotation.unnamed

/-- An entity type without the names of annotations. -/
def EntityType.unnamed (e : EntityType) : EntityType := e.mapAnnotations Annotation.unnamed

/-- A candidate without the names of annotations. -/
def Candidate.unnamed (c : Candidate) : Candidate := c.mapAnnotations Annotation.unnamed

/-! ### Directives -/

theorem Property.findAnnotation_unnamed (p : Property) (kind : AnnotationKind) :
    p.unnamed.findAnnotation kind = (p.findAnnotation kind).map Annotation.unnamed := by
  rw [ findAnnotation, unnamed, mapAnnotations, List.find?_map]
  rfl

theorem Property.agreesOn_unnamed (p : Property) (kind : AnnotationKind) :
    p.unnamed.AgreesOn p kind := by
  rw [agreesOn_iff, findAnnotation_unnamed]
  cases p.findAnnotation kind with
  | none => exact .none
  | some a => exact .some ⟨rfl, fun _ => rfl⟩

/-- The directives of a property do not depend on the names of its annotations. -/
theorem resolveDirectives_unnamed (p : Property) (length : Value) :
    resolveDirectives p.unnamed length = resolveDirectives p length :=
  resolveDirectives_congr (p := p.unnamed) (q := p) rfl rfl (fun kind _ => p.agreesOn_unnamed kind)
    length

/-! ### Artifacts -/

namespace Generator

theorem propertyDatum_unnamed (p : Property) (length : Value) :
    propertyDatum (resolveProperty p.unnamed length)
      = propertyDatum (resolveProperty p length) := by
  simp only [propertyDatum, resolveProperty, resolveDirectives_unnamed]
  rfl

theorem entityArtifact_unnamed (g : Generator) (entity : EntityType) (space : Value)
    (eligible : List Property) (baseSpace : Value) :
    g.entityArtifact entity.unnamed space (eligible.map Property.unnamed) baseSpace
      = g.entityArtifact entity space eligible baseSpace := by
  have hdata : ((eligible.map Property.unnamed).map
        (resolveProperty · g.settings.defaultStringLength)).mapM propertyDatum
      = (eligible.map (resolveProperty · g.settings.defaultStringLength)).mapM propertyDatum := by
    rw [List.map_map, List.mapM_map, List.mapM_map]
    refine congrArg (fun f => eligible.mapM f) (funext fun p => ?_)
    exact propertyDatum_unnamed p _
  simp only [entityArtifact, entityText, hdata]
  rfl

end Generator

/-! ### Runs -/

/-- Sorting properties does not depend on the names of annotations. -/
theorem classify_unnamed (reserved : List Key) (ps : List Property) :
    classify reserved (ps.map Property.unnamed)
      = { audit := (classify reserved ps).audit.map Property.unnamed
          eligible := (classify reserved ps).eligible.map Property.unnamed
          excluded := (classify reserved ps).excluded.map Property.unnamed } := by
  have hfilter (s : Share) : (ps.map Property.unnamed).filter (share reserved · = s)
      = (ps.filter (share reserved · = s)).map Property.unnamed := List.filter_map
  simp only [classify, hfilter]

theorem classifyNotes_unnamed (reserved : List Key) (ps : List Property) :
    classifyNotes reserved (ps.map Property.unnamed) = classifyNotes reserved ps := by
  rw [classifyNotes, List.filter_map, List.map_map]
  rfl

namespace Run

theorem configuredNote_unnamed (reserved : List Key) (entity : EntityType) :
    configuredNote entity.unnamed (classify reserved entity.unnamed.properties)
      = configuredNote entity (classify reserved entity.properties) := by
  have hproperties : entity.unnamed.properties = entity.properties.map Property.unnamed := rfl
  rw [hproperties, classify_unnamed]
  simp only [configuredNote, List.length_map]
  rfl

theorem configure_unnamed (g : Generator) (entity : EntityType) (space : Value) (st : Run) :
    configure g entity.unnamed space st = configure g entity space st := by
  have hproperties : entity.unnamed.properties = entity.properties.map Property.unnamed := rfl
  unfold configure
  cases reservedNames g.settings.auditFieldNames with
  | error e => rfl
  | ok reserved =>
    dsimp only
    rw [configuredNote_unnamed, hproperties, classifyNotes_unnamed, classify_unnamed]
    dsimp only
    rw [Generator.entityArtifact_unnamed, List.map_map]
    rfl

/-- A step does not depend on the names of annotations. -/
theorem process_unnamed (g : Generator) (lines : Value) (c : Candidate) (st : Run) :
    process g lines c.unnamed st = process g lines c st := by
  obtain ⟨name, space, target, marked⟩ := c
  cases marked with
  | false => rfl
  | true =>
    cases target with
    | none => rfl
    | some entity =>
      have hverdict (e : EntityType) : Candidate.verdict ⟨name, space, some e, true⟩ st.seen
          = if e.name ∈ st.seen then .skip ("entity " ++ e.name ++ " already configured")
            else .accept e := rfl
      have hunnamed : Candidate.unnamed ⟨name, space, some entity, true⟩
          = ⟨name, space, some entity.unnamed, true⟩ := rfl
      have hname : entity.unnamed.name = entity.name := rfl
      rw [hunnamed, process, process, hverdict, hverdict, hname]
      by_cases hseen : entity.name ∈ st.seen
      · rw [if_pos hseen, if_pos hseen]
        rfl
      · rw [if_neg hseen, if_neg hseen]
        simp only [configure_unnamed]
        rfl

theorem processAll_unnamed (g : Generator) (lines : Value) (cs : List Candidate) (st : Run) :
    processAll g lines (cs.map Candidate.unnamed) st = processAll g lines cs st := by
  induction cs generalizing st with
  | nil => rfl
  | cons c r ih =>
    rw [List.map_cons, processAll, processAll, process_unnamed]
    split
    · rfl
    · exact ih _

theorem run_unnamed (g : Generator) (lines : Value) (cs : List Candidate) (st : Run) :
    run g lines (cs.map Candidate.unnamed) st = run g lines cs st := by
  rw [run, run, processAll_unnamed]

end Run

/-- A generation does not depend on the names of annotations. -/
theorem generate_unnamed (g : Generator) (cs : List Candidate) (lines : Value) :
    generate g (cs.map Candidate.unnamed) lines = generate g cs lines := by
  rw [generate, generate, Run.run_unnamed, List.length_map]

/-! ### Manifests -/

namespace Manifest

/-- Attributes of a manifest that loads may be spelled in any way: it loads with the same candidates
but for the names of their annotations, so that the markers and the kinds and arguments of
annotations are the same, and every generation from it has the same result. -/
theorem loadCandidates_respelled {m m₁ m' : Value} (htypes : RespelledTypes m m₁)
    (hdeclarations : RespelledDeclarations m₁ m') :
    (∀ builder cs, (loadCandidates m builder).1 = .ok cs →
      ∃ cs', (loadCandidates m' builder).1 = .ok cs'
        ∧ cs'.map Candidate.hasMarker = cs.map Candidate.hasMarker
        ∧ cs'.map Candidate.unnamed = cs.map Candidate.unnamed)
      ∧ ∀ (r : Registry) fs target source lines result,
        (r.generateManifest fs target source m lines).1 = .ok result →
          (r.generateManifest fs target source m' lines).1 = .ok result := by
  have hload (builder : Value) (cs : List Candidate) (h : (loadCandidates m builder).1 = .ok cs) :
      ∃ cs', (loadCandidates m' builder).1 = .ok cs'
        ∧ cs'.map Candidate.unnamed = cs.map Candidate.unnamed := by
    obtain ⟨cs₁, h₁, heq₁⟩ :=
      (agree_loadCandidates (manifestAlike_of_respelledTypes htypes) builder).exists_ok h
    obtain ⟨cs', h', heq'⟩ := (agree_loadCandidates
      (manifestAlike_of_respelledDeclarations hdeclarations) builder).exists_ok h₁
    exact ⟨cs', h', heq'.symm.trans heq₁.symm⟩
  constructor
  · intro builder cs h
    obtain ⟨cs', h', heq⟩ := hload builder cs h
    have hmarker (l : List Candidate) :
        (l.map Candidate.unnamed).map Candidate.hasMarker = l.map Candidate.hasMarker := by
      rw [List.map_map]
      rfl
    exact ⟨cs', h', by rw [← hmarker, heq, hmarker], heq⟩
  · intro r fs target source lines result h
    obtain ⟨g, builder, cs, hg, hbuilder, hcs, hresult⟩ := Registry.generateManifest_eq_ok.mp h
    obtain ⟨cs', hcs', heq⟩ := hload builder cs hcs
    refine Registry.generateManifest_eq_ok.mpr ⟨g, builder, cs', hg, hbuilder, hcs', ?_⟩
    rw [← generate_unnamed, heq, generate_unnamed, hresult]

namespace Sample

/-- A manifest with one declaration for one type, whose property carries an attribute. -/
def spelled (required marker : String) : Value := .object [
  (.text "types", .list [.object [
    (.text "name", .text "Order"),
    (.text "properties", .list [.object [
      (.text "name", .text "Title"), (.text "type", .text "string"),
      (.text "attributes", .list [.text required])]])]]),
  (.text "declarations", .list [.object [
    (.text "name", .text "OrderMap"),
    (.text "attributes", .list [.object [(.text "name", .text marker)]]),
    (.text "methods", .list [.object [
      (.text "name", .text "Configure"),
      (.text "parameters", .list [.object [
        (.text "type", .text "EntityTypeBuilder<Order>")]])]])]])]

/-- Whether the properties of the entity of a candidate are required, and whether the candidate
carries the marker. -/
def summary (c : Candidate) : Option (List Bool) × Bool :=
  (c.target.map fun e => e.properties.map fun p => p.hasAnnotation .required, c.hasMarker)

theorem summary_unnamed (c : Candidate) : summary c.unnamed = summary c := by
  cases c with
  | mk name space target hasMarker =>
    cases target with
    | none => rfl
    | some entity =>
      have hproperties :
          (entity.properties.map Property.unnamed).map (fun p => p.hasAnnotation .required)
            = entity.properties.map fun p => p.hasAnnotation .required := by
        rw [List.map_map]
        exact List.map_congr_left fun p _ => (p.agreesOn_unnamed .required).hasAnnotation_eq
      exact congrArg (fun bs => (some bs, hasMarker)) hproperties

end Sample

open Sample in
/-- Both attributes may be spelled in full. -/
theorem loadCandidates_respelled_sample :
    ∃ cs, (loadCandidates
        (spelled "System.RequiredAttribute" "Gen.GenerateConfigurationAttribute")
        defaultBuilderType).1 = .ok cs
      ∧ cs.map summary = [(some [true], true)] := by
  have hrequired : IsPlainName "Required" := ⟨by decide, by decide, by decide, by decide⟩
  have hmarker : IsPlainName "GenerateConfiguration" :=
    ⟨by decide, by decide, by decide, by decide⟩
  have htypes : RespelledTypes (spelled "Required" "GenerateConfiguration")
      (spelled "System.RequiredAttribute" "GenerateConfiguration") :=
    .items rfl (.cons (.items rfl (.cons (.items rfl (.cons
      (.text hrequired (.ended (.inr ⟨"System", rfl⟩))) .nil)) .nil)) .nil)
  have hdeclarations : RespelledDeclarations
      (spelled "System.RequiredAttribute" "GenerateConfiguration")
      (spelled "System.RequiredAttribute" "Gen.GenerateConfigurationAttribute") :=
    .items rfl (.cons (.items rfl (.cons
      (.object rfl hmarker (.ended (.inr ⟨"Gen", rfl⟩))) .nil)) .nil)
  have hload : (loadCandidates (spelled "Required" "GenerateConfiguration")
      defaultBuilderType).1.toOption.map (·.map summary) = some [(some [true], true)] := by
    decide +kernel
  have hsummary (l : List Candidate) : (l.map Candidate.unnamed).map summary = l.map summary := by
    rw [List.map_map]
    exact List.map_congr_left fun c _ => summary_unnamed c
  cases hcs : (loadCandidates (spelled "Required" "GenerateConfiguration")
      defaultBuilderType).1 with
  | error e =>
    rw [hcs] at hload
    cases hload
  | ok cs =>
    rw [hcs] at hload
    obtain ⟨cs', hcs', -, hunnamed⟩ := (loadCandidates_respelled htypes hdeclarations).1 _ cs hcs
    exact ⟨cs', hcs', by rw [← hsummary, hunnamed, hsummary]; exact Option.some.inj hload⟩

end Manifest

end EntityMapping
