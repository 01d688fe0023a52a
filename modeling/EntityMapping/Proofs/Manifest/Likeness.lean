import EntityMapping.Proofs.Agreement
import EntityMapping.Proofs.Manifest.Remembering

/-!
# Manifests that say the same

Of an entry of a manifest only some things reach the candidates.  Entries that are alike in those
things give the same, or both fail: `agree_loadCandidates`.  What annotations are compared by is
left open, so that manifests may be alike but for something that their annotations say.

## Main definitions

* `Candidate.mapAnnotations` — a candidate with something made of its annotations.
* `ListAlike` — under a key there are lists of items that are related.
* `ObjectAlike` — two values are objects with fields that are related, or are one value.
* `AttributeAlike`, `PropertyAlike`, `TypeAlike`, `ParameterAlike`, `MethodAlike`,
  `DeclarationAlike`, `ManifestAlike` — entries that are alike in what is read of them.
-/

namespace EntityMapping

/-- A property with something made of its annotations. -/
def Property.mapAnnotations (π : Annotation → Annotation) (p : Property) : Property :=
  { p with annotations := p.annotations.map π }

/-- An entity type with something made of the annotations of its properties. -/
def EntityType.mapAnnotations (π : Annotation → Annotation) (e : EntityType) : EntityType :=
  { e with properties := e.properties.map (·.mapAnnotations π) }

/-- A candidate with something made of the annotations of its entity. -/
def Candidate.mapAnnotations (π : Annotation → Annotation) (c : Candidate) : Candidate :=
  { c with target := c.target.map (·.mapAnnotations π) }

/-- Where nothing is made of annotations, a property stays as it is. -/
theorem Property.mapAnnotations_id (p : Property) : p.mapAnnotations id = p := by
  rw [mapAnnotations, List.map_id]

theorem EntityType.mapAnnotations_id (e : EntityType) : e.mapAnnotations id = e := by
  rw [mapAnnotations, List.map_congr_left fun p _ => p.mapAnnotations_id, List.map_id']

theorem Candidate.mapAnnotations_id (c : Candidate) : c.mapAnnotations id = c := by
  rw [mapAnnotations, Option.map_congr fun e _ => e.mapAnnotations_id, Option.map_id']

namespace Manifest

/-! ### Entries that are alike -/

/-- Under a key there are lists whose items are related, or there is no list in either place. -/
def ListAlike (R : Value → Value → Prop) (key : String) (fs fs' : Fields) : Prop :=
  Agree (List.Forall₂ R) (listAt fs key) (listAt fs' key)

/-- Two values are objects whose fields are related, or they are one value and no object. -/
inductive ObjectAlike (R : Fields → Fields → Prop) : Value → Value → Prop
  | object {fs fs' : Fields} (h : R fs fs') : ObjectAlike R (.object fs) (.object fs')
  | other {v : Value} (h : ∀ fs, v ≠ .object fs) : ObjectAlike R v v

/-- Attributes with one short name whose annotations are the same as far as they are compared. -/
structure AttributeAlike (π : Annotation → Annotation) (v v' : Value) : Prop where
  short : shortName (attributeName v) = shortName (attributeName v')
  annotation : Agree (fun a b => π a = π b) ( parseAnnotation v) ( parseAnnotation v')

/-- Properties that are alike. -/
structure PropertyAlike (π : Annotation → Annotation) (fs fs' : Fields) : Prop where
  name : Fields.at? fs "name" = Fields.at? fs' "name"
  type : textAt fs "type" "" = textAt fs' "type" ""
  accessibility : textAt fs "accessibility" "public" = textAt fs' "accessibility" "public"
  static : ((Fields.at? fs "static").getD (.bool false)).truthy
    = ((Fields.at? fs' "static").getD (.bool false)).truthy
  attributes : ListAlike (AttributeAlike π) "attributes" fs fs'

/-- Types that are alike. -/
structure TypeAlike (π : Annotation → Annotation) (fs fs' : Fields) : Prop where
  name : Fields.at? fs "name" = Fields.at? fs' "name"
  space : textAt fs "namespace" "" = textAt fs' "namespace" ""
  kind : isEnumEntry fs = isEnumEntry fs'
  properties : ListAlike (ObjectAlike (PropertyAlike π)) "properties" fs fs'

/-- Parameters that are alike: their types have the same first argument. -/
def ParameterAlike (fs fs' : Fields) : Prop :=
  ∀ builder, builderTypeArgument (textAt fs "type" "") builder
    = builderTypeArgument (textAt fs' "type" "") builder

/-- Methods that are alike. -/
structure MethodAlike (fs fs' : Fields) : Prop where
  name : Fields.at? fs "name" = Fields.at? fs' "name"
  parameters : ListAlike (ObjectAlike ParameterAlike) "parameters" fs fs'

/-- Declarations that are alike. -/
structure DeclarationAlike (π : Annotation → Annotation) (fs fs' : Fields) : Prop where
  name : Fields.at? fs "name" = Fields.at? fs' "name"
  space : textAt fs "namespace" "" = textAt fs' "namespace" ""
  methods : ListAlike (ObjectAlike MethodAlike) "methods" fs fs'
  attributes : ListAlike (AttributeAlike π) "attributes" fs fs'

/-- Manifests that are alike: their types and their declarations are. -/
def ManifestAlike (π : Annotation → Annotation) (m m' : Value) : Prop :=
  Agree (fun s s' => List.Forall₂ (ObjectAlike (TypeAlike π)) s.1 s'.1
    ∧ List.Forall₂ (ObjectAlike (DeclarationAlike π)) s.2 s'.2) (sections m) (sections m')

theorem ObjectAlike.refl {R : Fields → Fields → Prop} (hR : ∀ fs, R fs fs) (v : Value) :
    ObjectAlike R v v := by
  cases v with
  | object fs => exact .object (hR fs)
  | _ => exact .other fun _ => nofun

theorem ListAlike.refl {R : Value → Value → Prop} (hR : ∀ v, R v v) (key : String) (fs : Fields) :
    ListAlike R key fs fs :=
  Agree.refl _ (fun _ => List.forall₂_same.mpr fun v _ => hR v) _

theorem AttributeAlike.refl (π : Annotation → Annotation) (v : Value) : AttributeAlike π v v where
  short := rfl
  annotation := Agree.refl (fun a b => π a = π b) (fun _ => rfl) _

theorem PropertyAlike.refl (π : Annotation → Annotation) (fs : Fields) : PropertyAlike π fs fs where
  name := rfl
  type := rfl
  accessibility := rfl
  static := rfl
  attributes := ListAlike.refl (AttributeAlike.refl π) _ _

theorem TypeAlike.refl (π : Annotation → Annotation) (fs : Fields) : TypeAlike π fs fs where
  name := rfl
  space := rfl
  kind := rfl
  properties := ListAlike.refl (ObjectAlike.refl (PropertyAlike.refl π)) _ _

theorem ParameterAlike.refl (fs : Fields) : ParameterAlike fs fs := fun _ => rfl

theorem MethodAlike.refl (fs : Fields) : MethodAlike fs fs where
  name := rfl
  parameters := ListAlike.refl (ObjectAlike.refl ParameterAlike.refl) _ _

theorem DeclarationAlike.refl (π : Annotation → Annotation) (fs : Fields) :
    DeclarationAlike π fs fs where
  name := rfl
  space := rfl
  methods := ListAlike.refl (ObjectAlike.refl MethodAlike.refl) _ _
  attributes := ListAlike.refl (AttributeAlike.refl π) _ _

/-! ### Types -/

variable {π : Annotation → Annotation} {v v' builder : Value} {fs fs' : Fields} {x x' : Index}

theorem agree_parseProperty (h : ObjectAlike (PropertyAlike π) v v') (enumNames : List String) :
    Agree (fun p q => p.mapAnnotations π = q.mapAnnotations π) (parseProperty v enumNames)
      (parseProperty v' enumNames) := by
  cases h with
  | other _ =>
    exact Agree.refl (fun p q : Property => p.mapAnnotations π = q.mapAnnotations π)
      (fun _ => rfl) _
  | object h =>
    simp only [parseProperty, h.name, h.type, h.accessibility, h.static]
    cases Fields.at? _ "name" with
    | none => exact .error _ _
    | some name =>
      refine h.attributes.bind fun as bs hattributes => ?_
      refine (Agree.mapM hattributes fun _ _ h => h.annotation).bind fun as bs hannotations => ?_
      have hmap : as.map π = bs.map π := by
        rw [← List.forall₂_eq_eq_eq, List.forall₂_map_left_iff, List.forall₂_map_right_iff]
        exact hannotations
      exact .ok (by simp only [Property.mapAnnotations, hmap])

theorem agree_entityOf (h : TypeAlike π fs fs') (hx : x.enumNames = x'.enumNames) :
    Agree (fun e e' => e.mapAnnotations π = e'.mapAnnotations π) (x.entityOf fs)
      (x'.entityOf fs') := by
  unfold Index.entityOf
  refine h.properties.bind fun vs ws hproperties => ?_
  rw [hx]
  refine (Agree.mapM hproperties fun _ _ h => agree_parseProperty h _).bind fun ps qs hmap => ?_
  have hmap' : ps.map (·.mapAnnotations π) = qs.map (·.mapAnnotations π) := by
    rw [← List.forall₂_eq_eq_eq, List.forall₂_map_left_iff, List.forall₂_map_right_iff]
    exact hmap
  have hname : textAt fs "name" "" = textAt fs' "name" "" := by rw [textAt, textAt, h.name]
  exact .ok (by simp only [EntityType.mapAnnotations, hmap', hname, h.space])

/-- Type entries that are alike. -/
def EntryAlike (π : Annotation → Annotation) (e e' : TypeEntry) : Prop :=
  TypeAlike π e.fields e'.fields

/-- Two indices that were not used have the same names for types that are alike. -/
structure IndexAlike (π : Annotation → Annotation) (x x' : Index) : Prop where
  entries : List.Forall₂ (fun p q => p.1 = q.1 ∧ EntryAlike π p.2 q.2) x.entries x'.entries
  enumNames : x.enumNames = x'.enumNames
  made : x.made = []
  made' : x'.made = []

/-- Of related association lists, none has something under a key, or both have. -/
theorem get?_cases {α β : Type} {R : α → β → Prop} {l : List (String × α)} {m : List (String × β)}
    (h : List.Forall₂ (fun p q => p.1 = q.1 ∧ R p.2 q.2) l m) (k : String) :
    (Assoc.get? k l = none ∧ Assoc.get? k m = none)
      ∨ ∃ a b, Assoc.get? k l = some a ∧ Assoc.get? k m = some b ∧ R a b := by
  induction h with
  | nil => exact .inl ⟨rfl, rfl⟩
  | @cons p q _ _ hpq _ ih =>
    rw [Assoc.get?_cons, Assoc.get?_cons, hpq.1]
    split
    · exact .inr ⟨_, _, rfl, rfl, hpq.2⟩
    · exact ih

theorem IndexAlike.addNames (hx : IndexAlike π x x') (e e' : TypeEntry) (h : EntryAlike π e e')
    (names : List String) : IndexAlike π (x.addNames e names) (x'.addNames e' names) where
  entries := by
    have hentries := hx.entries
    unfold Index.addNames
    dsimp only
    generalize x.entries = es at hentries
    generalize x'.entries = es' at hentries
    induction names generalizing es es' with
    | nil => exact hentries
    | cons n r ih =>
      rw [List.foldl_cons, List.foldl_cons]
      refine ih _ _ ?_
      have hhas : Assoc.has n es = Assoc.has n es' := by
        rw [Assoc.has, Assoc.has]
        rcases get?_cases hentries n with ⟨h, h'⟩ | ⟨a, b, h, h', -⟩
        · rw [h, h']
        · rw [h, h']
          rfl
      rw [hhas]
      split
      · exact hentries
      · exact List.rel_append hentries (.cons ⟨rfl, h⟩ .nil)
  enumNames := by simp only [Index.addNames, hx.enumNames, h.kind]
  made := hx.made
  made' := hx.made'

theorem agree_add (hx : IndexAlike π x x') (h : ObjectAlike (TypeAlike π) v v') (place : Nat) :
    Agree (IndexAlike π) (x.add (v, place)) (x'.add (v', place)) := by
  cases h with
  | other hother =>
    cases v with
    | object fs => exact absurd rfl (hother fs)
    | _ => exact .error _ _
  | object h =>
    simp only [Index.add, entryNames, h.name, h.space]
    cases Fields.at? _ "name" with
    | none => exact .error _ _
    | some name => exact .ok (hx.addNames ⟨place, _⟩ ⟨place, _⟩ h _)

theorem agree_ofEntries {types types' : List Value}
    (h : List.Forall₂ (ObjectAlike (TypeAlike π)) types types') :
    Agree (IndexAlike π) (Index.ofEntries types) (Index.ofEntries types') := by
  have hfold {k : Nat} {x x' : Index} (hx : IndexAlike π x x') :
      Agree (IndexAlike π) ((types.zipIdx k).foldlM Index.add x)
        ((types'.zipIdx k).foldlM Index.add x') := by
    induction h generalizing k x x' with
    | nil => exact .ok hx
    | cons hv _ ih =>
      rw [List.zipIdx_cons, List.zipIdx_cons, List.foldlM_cons, List.foldlM_cons]
      exact (agree_add hx hv k).bind fun _ _ hy => ih hy
  exact hfold ⟨.nil, rfl, rfl, rfl⟩

/-! ### Declarations -/

section Uses

variable {α β γ δ : Type} {R : α → β → Prop} {S : γ → δ → Prop}

/-- What does not use an index goes before a use of it. -/
theorem agree_run_liftM_bind {o : Except ManifestError α} {o' : Except ManifestError β}
    {f : α → Lookup γ} {g : β → Lookup δ} (h : Agree R o o')
    (hfg : ∀ a b, R a b → Agree S ((f a).run x).1 ((g b).run x').1) :
    Agree S ((liftM o >>= f : Lookup γ).run x).1 ((liftM o' >>= g : Lookup δ).run x').1 := by
  cases h with
  | ok h => exact hfg _ _ h
  | error e e' => exact .error _ _

/-- What does not depend on an index goes after a use of it. -/
theorem agree_run_bind {m : Lookup α} {m' : Lookup β} {f : α → Lookup γ} {g : β → Lookup δ}
    (h : Agree R (m.run x).1 (m'.run x').1)
    (hfg : ∀ a b, R a b → ∀ y y', Agree S ((f a).run y).1 ((g b).run y').1) :
    Agree S ((m >>= f).run x).1 ((m' >>= g).run x').1 := by
  rw [run_bind, run_bind]
  generalize m.run x = p at h
  generalize m'.run x' = p' at h
  obtain ⟨o, y⟩ := p
  obtain ⟨o', y'⟩ := p'
  cases h with
  | ok h => exact hfg _ _ h y y'
  | error e e' => exact .error e e'

end Uses

/-- Targets are the same as far as annotations are compared. -/
def TargetAlike (π : Annotation → Annotation) (t t' : Option EntityType) : Prop :=
  t.map (·.mapAnnotations π) = t'.map (·.mapAnnotations π)

theorem agree_entityAt {e e' : TypeEntry} (hx : IndexAlike π x x') (h : EntryAlike π e e') :
    Agree (fun e e' => e.mapAnnotations π = e'.mapAnnotations π) ((Index.entityAt e).run x).1
      ((Index.entityAt e').run x').1 := by
  rw [run_entityAt, run_entityAt, hx.made, hx.made', Assoc.get?_empty, Assoc.get?_empty]
  dsimp only
  have hentity := agree_entityOf h hx.enumNames
  generalize x.entityOf e.fields = o at hentity
  generalize x'.entityOf e'.fields = o' at hentity
  cases hentity with
  | ok h => exact .ok h
  | error e e' => exact .error _ _

theorem agree_resolve (hx : IndexAlike π x x') (reference : String) :
    Agree (TargetAlike π) ((Index.resolve reference).run x).1
      ((Index.resolve reference).run x').1 := by
  rw [Index.run_resolve, Index.run_resolve, Index.denoted?, Index.denoted?]
  rcases get?_cases hx.entries (Text.trimmed reference) with ⟨h, h'⟩ | ⟨e, e', h, h', halike⟩
  · rw [h, h']
    exact .ok rfl
  · rw [h, h']
    dsimp only
    rw [halike.kind]
    split
    · exact .ok rfl
    · exact agree_run_bind (agree_entityAt hx halike) fun _ _ he _ _ => .ok (congrArg some he)

theorem agree_resolveParameters (hx : IndexAlike π x x') {parameters parameters' : List Value}
    (h : List.Forall₂ (ObjectAlike ParameterAlike) parameters parameters') :
    Agree (TargetAlike π) ((resolveParameters builder parameters).run x).1
      ((resolveParameters builder parameters').run x').1 := by
  induction h with
  | nil => exact .ok rfl
  | @cons v v' _ _ hv _ ih =>
    cases hv with
    | other hother =>
      cases v with
      | object fs => exact absurd rfl (hother fs)
      | _ => exact .error _ _
    | object hv =>
      rw [resolveParameters, resolveParameters, hv builder]
      split
      · exact .error _ _
      · exact ih
      · exact agree_resolve hx _

theorem configureFields?_cases (h : ObjectAlike MethodAlike v v') :
    (configureFields? v = none ∧ configureFields? v' = none)
      ∨ ∃ f f', configureFields? v = some f ∧ configureFields? v' = some f' ∧ MethodAlike f f' := by
  cases h with
  | other hother =>
    cases v with
    | object fs => exact absurd rfl (hother fs)
    | _ => exact .inl ⟨rfl, rfl⟩
  | object h =>
    simp only [configureFields?, h.name]
    split
    · split
      · exact .inr ⟨_, _, rfl, rfl, h⟩
      · exact .inl ⟨rfl, rfl⟩
    · exact .inl ⟨rfl, rfl⟩

theorem findSome?_configureFields?_cases {methods methods' : List Value}
    (h : List.Forall₂ (ObjectAlike MethodAlike) methods methods') :
    (methods.findSome? configureFields? = none ∧ methods'.findSome? configureFields? = none)
      ∨ ∃ f f', methods.findSome? configureFields? = some f
        ∧ methods'.findSome? configureFields? = some f' ∧ MethodAlike f f' := by
  induction h with
  | nil => exact .inl ⟨rfl, rfl⟩
  | cons hv _ ih =>
    rw [List.findSome?_cons, List.findSome?_cons]
    rcases configureFields?_cases hv with ⟨h, h'⟩ | ⟨f, f', h, h', halike⟩
    · rw [h, h']
      exact ih
    · rw [h, h']
      exact .inr ⟨f, f', rfl, rfl, halike⟩

theorem agree_resolveTarget (hx : IndexAlike π x x') (h : DeclarationAlike π fs fs') :
    Agree (TargetAlike π) ((resolveTarget builder fs).run x).1
      ((resolveTarget builder fs').run x').1 := by
  refine agree_run_liftM_bind h.methods fun methods methods' hmethods => ?_
  rcases findSome?_configureFields?_cases hmethods with ⟨h, h'⟩ | ⟨f, f', h, h', hconfigure⟩
  · rw [h, h']
    exact .ok rfl
  · rw [h, h']
    exact agree_run_liftM_bind hconfigure.parameters fun _ _ hparameters =>
      agree_resolveParameters hx hparameters

theorem hasMarker_eq {attributes attributes' : List Value}
    (h : List.Forall₂ (AttributeAlike π) attributes attributes') (marker : String) :
    hasMarker attributes marker = hasMarker attributes' marker := by
  unfold hasMarker
  induction h with
  | nil => rfl
  | cons hv _ ih => rw [List.any_cons, List.any_cons, ih, hv.short]

theorem agree_parseDeclaration (hx : IndexAlike π x x')
    (h : ObjectAlike (DeclarationAlike π) v v') :
    Agree (fun c c' => c.mapAnnotations π = c'.mapAnnotations π)
      ((parseDeclaration builder v).run x).1 ((parseDeclaration builder v').run x').1 := by
  cases h with
  | other hother =>
    cases v with
    | object fs => exact absurd rfl (hother fs)
    | _ => exact .error _ _
  | object h =>
    unfold parseDeclaration
    dsimp only
    rw [h.name]
    split
    · exact .error _ _
    · refine agree_run_bind (agree_resolveTarget hx h) fun t t' htarget y y' => ?_
      refine agree_run_liftM_bind h.attributes fun as bs hattributes => .ok ?_
      have htarget' : t.map (·.mapAnnotations π) = t'.map (·.mapAnnotations π) := htarget
      simp only [Candidate.mapAnnotations, htarget', hasMarker_eq hattributes, h.space]

theorem agree_parseDeclarations {types types' entries entries' : List Value}
    (hofEntries : Index.ofEntries types = .ok x) (hofEntries' : Index.ofEntries types' = .ok x')
    (hx : IndexAlike π x x')
    (h : List.Forall₂ (ObjectAlike (DeclarationAlike π)) entries entries') :
    Agree (fun cs cs' => cs.map (·.mapAnnotations π) = cs'.map (·.mapAnnotations π))
      (parseDeclarations builder x entries).1 (parseDeclarations builder x' entries').1 := by
  induction h with
  | nil => exact .ok rfl
  | cons hv _ ih =>
    rw [parseDeclarations_cons hofEntries, parseDeclarations_cons hofEntries']
    refine (agree_parseDeclaration hx hv).bind fun c c' hc => ?_
    refine ih.map fun cs cs' hcs => ?_
    rw [List.map_cons, List.map_cons, hc, hcs]

/-- Manifests that are alike give the same candidates, as far as annotations are compared, or both
give none. -/
theorem agree_loadCandidates {m m' : Value} (h : ManifestAlike π m m') (builder : Value) :
    Agree (fun cs cs' => cs.map (·.mapAnnotations π) = cs'.map (·.mapAnnotations π))
      (loadCandidates m builder).1 (loadCandidates m' builder).1 := by
  unfold ManifestAlike at h
  cases hsections : sections m with
  | error e =>
    cases hsections' : sections m' with
    | error e' =>
      rw [loadCandidates, loadCandidates, hsections, hsections']
      exact .error _ _
    | ok s' => rw [hsections, hsections'] at h; cases h
  | ok s =>
    rw [hsections] at h
    obtain ⟨s', hsections', htypes, hdeclarations⟩ := h.exists_ok rfl
    have hindex := agree_ofEntries htypes
    cases hx : Index.ofEntries s.1 with
    | error e =>
      cases hx' : Index.ofEntries s'.1 with
      | error e' =>
        simp only [loadCandidates, hsections, hsections', hx, hx']
        exact .error _ _
      | ok x' => rw [hx, hx'] at hindex; cases hindex
    | ok x =>
      rw [hx] at hindex
      obtain ⟨x', hx', hxx'⟩ := hindex.exists_ok rfl
      rw [loadCandidates_of_sections hsections hx, loadCandidates_of_sections hsections' hx']
      exact agree_parseDeclarations hx hx' hxx' hdeclarations

end Manifest

end EntityMapping
