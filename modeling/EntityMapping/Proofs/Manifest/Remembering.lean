import EntityMapping.Manifest.Candidates
import EntityMapping.Proofs.Manifest.Names
import EntityMapping.Proofs.Value.Fields

/-!
# What an index remembers

An index remembers the entity types that it has made, so what it was asked before could show in what
it answers.  It does not: what is remembered for a place is what reading the type entry there gives
(`Index.Faithful`), and a use that fails remembers nothing new.  A use of an index is transparent if
on every index that was used before it has the outcome that it has on the fresh one.  Transparent
uses can be chained (`Transparent.bind`), so resolving a reference and reading a declaration are
transparent (`transparent_resolve`, `transparent_parseDeclaration`).

Hence declarations are loaded independently of each other, and so are references resolved:
`loadCandidates_append`.

## Main definitions

* `Index.Faithful` — an index has the types of a fresh one and remembers what reading them gives.
* `Transparent` — a use of an index does not show what the index remembers.
* `Index.resolveAll` — references are resolved in order on one index.
* `withDeclarations` — a manifest with other declarations.
-/

namespace EntityMapping.Manifest

open Text

variable {types : List Value} {fresh x : Index} {α β : Type}

/-! ### Faithful indices -/

namespace Index

/-- An index has the types of a fresh one, and what it remembers for a place is what reading the
type entry there gives. -/
structure Faithful (types : List Value) (fresh x : Index) : Prop where
  /-- The type entries are those of the fresh index. -/
  entries : x.entries = fresh.entries
  /-- The names of enumerations are those of the fresh index. -/
  enumNames : x.enumNames = fresh.enumNames
  /-- What is remembered is what reading gives. -/
  made : ∀ place fields entity, types[place]? = some (.object fields) →
    Assoc.get? place x.made = some entity → fresh.entityOf fields = .ok entity

theorem made_of_foldlM {l : List (Value × Nat)} {x y : Index} (h : l.foldlM add x = .ok y) :
    y.made = x.made := by
  induction l generalizing x with
  | nil =>
    obtain rfl := pure_eq_ok.mp h
    rfl
  | cons entry r ih =>
    rw [List.foldlM_cons] at h
    obtain ⟨z, hz, hr⟩ := bind_eq_ok.mp h
    obtain ⟨fields, names, -, rfl⟩ := exists_of_add hz
    rw [ih hr]
    rfl

/-- An index that was not used remembers nothing. -/
theorem faithful_of_ofEntries (h : ofEntries types = .ok fresh) : Faithful types fresh fresh where
  entries := rfl
  enumNames := rfl
  made := by
    intro place fields entity _ hmade
    rw [made_of_foldlM h] at hmade
    cases hmade

namespace Faithful

theorem entityOf_eq (hx : Faithful types fresh x) (fields : Fields) :
    x.entityOf fields = fresh.entityOf fields := by
  rw [entityOf, entityOf, hx.enumNames]

theorem denoted?_eq (hx : Faithful types fresh x) (reference : String) :
    x.denoted? reference = fresh.denoted? reference := by
  rw [denoted?, denoted?, hx.entries]

theorem remember (hx : Faithful types fresh x) {entry : TypeEntry} {entity : EntityType}
    (hplace : types[entry.place]? = some (.object entry.fields))
    (hentity : fresh.entityOf entry.fields = .ok entity) :
    Faithful types fresh (x.remember entry.place entity) where
  entries := hx.entries
  enumNames := hx.enumNames
  made := by
    intro place fields found hfields hmade
    rw [Index.remember] at hmade
    by_cases hp : place = entry.place
    · subst hp
      rw [Assoc.get?_set_same] at hmade
      rw [hplace] at hfields
      obtain rfl := Value.object.inj (Option.some.inj hfields)
      rw [hentity, Option.some.inj hmade]
    · rw [Assoc.get?_set_of_ne _ _ hp] at hmade
      exact hx.made place fields found hfields hmade

end Faithful

end Index

open Index

/-! ### Transparent uses -/

/-- A use of an index has one outcome, whatever the index remembers. -/
def Transparent (types : List Value) (fresh : Index) (m : Lookup α) : Prop :=
  ∃ outcome, ∀ x, Faithful types fresh x → ∃ y, m.run x = (outcome, y) ∧ Faithful types fresh y

theorem transparent_of_run {m : Lookup α} {outcome : Except Failure α}
    (h : ∀ x, m.run x = (outcome, x)) : Transparent types fresh m :=
  ⟨outcome, fun x hx => ⟨x, h x, hx⟩⟩

theorem Transparent.bind {m : Lookup α} {f : α → Lookup β} (hm : Transparent types fresh m)
    (hf : ∀ a, Transparent types fresh (f a)) : Transparent types fresh (m >>= f) := by
  obtain ⟨outcome, hm⟩ := hm
  cases outcome with
  | error e =>
    refine ⟨.error e, fun x hx => ?_⟩
    obtain ⟨y, hy, hfaithful⟩ := hm x hx
    exact ⟨y, run_bind_of_error hy, hfaithful⟩
  | ok a =>
    obtain ⟨outcome, hfa⟩ := hf a
    refine ⟨outcome, fun x hx => ?_⟩
    obtain ⟨y, hy, hfaithful⟩ := hm x hx
    rw [run_bind_of_ok hy]
    exact hfa y hfaithful

/-- On an index that was used before, a transparent use has the outcome that it has on the fresh
one. -/
theorem Transparent.run_eq {m : Lookup α} (hm : Transparent types fresh m)
    (hfresh : Faithful types fresh fresh) (hx : Faithful types fresh x) :
    ∃ y, m.run x = ((m.run fresh).1, y) ∧ Faithful types fresh y := by
  obtain ⟨outcome, hm⟩ := hm
  obtain ⟨_, hrun, -⟩ := hm fresh hfresh
  rw [hrun]
  exact hm x hx

theorem run_entityAt (entry : TypeEntry) (x : Index) :
    (entityAt entry).run x = match Assoc.get? entry.place x.made with
      | some entity => (.ok entity, x)
      | none =>
        match x.entityOf entry.fields with
        | .ok entity => (.ok entity, x.remember entry.place entity)
        | .error e => (.error (.manifest e), x) := by
  have hget : (entityAt entry).run x
      = (match Assoc.get? entry.place x.made with
        | some entity => (pure entity : Lookup EntityType)
        | none => do
          let entity ← liftM (x.entityOf entry.fields)
          set (x.remember entry.place entity)
          return entity).run x := rfl
  rw [hget]
  split
  · rfl
  · rw [run_bind]
    cases x.entityOf entry.fields <;> rfl

/-- The entity type of an entry is what reading it gives, whether it is remembered or not. -/
theorem transparent_entityAt {entry : TypeEntry}
    (hplace : types[entry.place]? = some (.object entry.fields)) :
    Transparent types fresh (entityAt entry) := by
  refine ⟨(fresh.entityOf entry.fields).mapError .manifest, fun x hx => ?_⟩
  rw [run_entityAt]
  cases hmade : Assoc.get? entry.place x.made with
  | some entity => exact ⟨x, by rw [hx.made _ _ _ hplace hmade]; rfl, hx⟩
  | none =>
    dsimp only
    rw [hx.entityOf_eq]
    cases hentity : fresh.entityOf entry.fields with
    | error e => exact ⟨x, rfl, hx⟩
    | ok entity => exact ⟨_, rfl, hx.remember hplace hentity⟩

theorem getElem?_of_denoted? (h : ofEntries types = .ok fresh) {reference : String}
    {entry : TypeEntry} (hentry : fresh.denoted? reference = some entry) :
    types[entry.place]? = some (.object entry.fields) := by
  rw [denoted?_of_ofEntries h] at hentry
  exact getElem?_of_mem_claims (Assoc.mem_of_get?_eq_some hentry)

theorem transparent_resolve (h : ofEntries types = .ok fresh) (reference : String) :
    Transparent types fresh (resolve reference) := by
  cases hentry : fresh.denoted? reference with
  | none =>
    refine ⟨.ok none, fun x hx => ⟨x, ?_, hx⟩⟩
    rw [run_resolve, hx.denoted?_eq, hentry]
  | some entry =>
    cases hkind : isEnumEntry entry.fields with
    | true =>
      refine ⟨.ok none, fun x hx => ⟨x, ?_, hx⟩⟩
      rw [run_resolve, hx.denoted?_eq, hentry]
      exact if_pos hkind
    | false =>
      have hplace := getElem?_of_denoted? h hentry
      obtain ⟨outcome, hm⟩ := (transparent_entityAt hplace).bind fun entity =>
        transparent_of_run (run_pure (some entity))
      refine ⟨outcome, fun x hx => ?_⟩
      rw [run_resolve, hx.denoted?_eq, hentry]
      dsimp only
      rw [if_neg (Bool.eq_false_iff.mp hkind)]
      exact hm x hx

/-! ### Declarations -/

theorem transparent_liftM (outcome : Except ManifestError α) :
    Transparent types fresh (liftM outcome) :=
  transparent_of_run fun _ => rfl

theorem transparent_resolveParameters (h : ofEntries types = .ok fresh) (builder : Value)
    (parameters : List Value) : Transparent types fresh (resolveParameters builder parameters) := by
  induction parameters with
  | nil => exact transparent_of_run (run_pure none)
  | cons parameter r ih =>
    unfold resolveParameters
    split
    · exact transparent_of_run (run_pure none)
    · rename_i heq
      obtain ⟨rfl, rfl⟩ := List.cons.inj heq
      split
      · exact transparent_of_run (run_throw _)
      · exact ih
      · exact transparent_resolve h _
    · exact transparent_of_run (run_throw _)

theorem transparent_resolveTarget (h : ofEntries types = .ok fresh) (builder : Value)
    (declaration : Fields) : Transparent types fresh (resolveTarget builder declaration) := by
  refine (transparent_liftM _).bind fun methods => ?_
  split
  · exact transparent_of_run (run_pure none)
  · exact (transparent_liftM _).bind fun parameters => transparent_resolveParameters h _ parameters

theorem transparent_parseDeclaration (h : ofEntries types = .ok fresh) (builder entry : Value) :
    Transparent types fresh (parseDeclaration builder entry) := by
  unfold parseDeclaration
  split
  · split
    · exact transparent_of_run (run_throw _)
    · refine (transparent_resolveTarget h _ _).bind fun target => ?_
      exact (transparent_liftM _).bind fun attributes => transparent_of_run (run_pure _)
  · exact transparent_of_run (run_throw _)

/-- Declarations have the candidates and notes that they have with a fresh index. -/
theorem parseDeclarations_of_faithful (h : ofEntries types = .ok fresh) (builder : Value)
    (entries : List Value) (hx : Faithful types fresh x) :
    parseDeclarations builder x entries = parseDeclarations builder fresh entries := by
  have hfresh := faithful_of_ofEntries h
  induction entries generalizing x with
  | nil => rfl
  | cons entry r ih =>
    have hentry := transparent_parseDeclaration h builder entry
    obtain ⟨y, hy, hyfaithful⟩ := hentry.run_eq hfresh hx
    obtain ⟨z, hz, hzfaithful⟩ := hentry.run_eq hfresh hfresh
    rw [parseDeclarations, parseDeclarations, hy, hz]
    cases ((parseDeclaration builder entry).run fresh).1 with
    | error e => rfl
    | ok c =>
      dsimp only
      rw [ih hyfaithful, ih hzfaithful]

theorem parseDeclarations_cons (h : ofEntries types = .ok fresh) (builder entry : Value)
    (r : List Value) :
    (parseDeclarations builder fresh (entry :: r)).1
      = ((parseDeclaration builder entry).run fresh).1 >>= fun c =>
        (parseDeclarations builder fresh r).1.map (c :: ·) := by
  have hfresh := faithful_of_ofEntries h
  obtain ⟨y, hy, hyfaithful⟩ :=
    (transparent_parseDeclaration h builder entry).run_eq hfresh hfresh
  rw [parseDeclarations, hy]
  cases ((parseDeclaration builder entry).run fresh).1 with
  | error e => rfl
  | ok c =>
    dsimp only
    rw [parseDeclarations_of_faithful h builder r hyfaithful]
    rfl

theorem parseDeclarations_append (h : ofEntries types = .ok fresh) (builder : Value)
    (entries others : List Value) :
    (parseDeclarations builder fresh (entries ++ others)).1 = (do
      let cs ← (parseDeclarations builder fresh entries).1
      let ds ← (parseDeclarations builder fresh others).1
      return cs ++ ds) := by
  induction entries with
  | nil =>
    rw [List.nil_append]
    cases (parseDeclarations builder fresh others).1 <;> rfl
  | cons entry r ih =>
    rw [List.cons_append, parseDeclarations_cons h, parseDeclarations_cons h, ih]
    cases ((parseDeclaration builder entry).run fresh).1 with
    | error e => rfl
    | ok c =>
      cases (parseDeclarations builder fresh r).1 with
      | error e => rfl
      | ok cs => cases (parseDeclarations builder fresh others).1 <;> rfl

/-! ### The manifest -/

/-- The outcomes of references that are resolved in order on one index. -/
def Index.resolveAll : Index → List String → List (Except Failure (Option EntityType))
  | _, [] => []
  | x, reference :: r =>
    let (outcome, y) := (resolve reference).run x
    outcome :: resolveAll y r

theorem resolveAll_of_faithful (h : ofEntries types = .ok fresh) (references : List String)
    (hx : Faithful types fresh x) :
    x.resolveAll references
      = references.map fun reference => ((resolve reference).run fresh).1 := by
  induction references generalizing x with
  | nil => rfl
  | cons reference r ih =>
    obtain ⟨y, hy, hfaithful⟩ :=
      (transparent_resolve h reference).run_eq (faithful_of_ofEntries h) hx
    rw [resolveAll, hy, List.map_cons]
    exact congrArg _ (ih hfaithful)

/-- A manifest gives the candidates of its declaration entries, if its types have an index. -/
theorem loadCandidates_of_sections {manifest : Value} {types declarations : List Value}
    (hsections : sections manifest = .ok (types, declarations))
    (hx : Index.ofEntries types = .ok x) (builder : Value) :
    (loadCandidates manifest builder).1 = (parseDeclarations builder x declarations).1 := by
  rw [loadCandidates, hsections]
  dsimp only
  rw [hx]
  dsimp only
  split
  · rename_i heq
    rw [heq]
  · rfl

/-- A manifest with other declarations. -/
def withDeclarations (manifest : Fields) (declarations : List Value) : Value :=
  .object (Fields.set manifest (.text "declarations") (.list declarations))

/-- The types of a manifest do not depend on its declarations. -/
theorem sections_withDeclarations (manifest : Fields) :
    (∀ declarations, sections (withDeclarations manifest declarations) = .error .notLists)
      ∨ ∃ types, ∀ declarations,
        sections (withDeclarations manifest declarations) = .ok (types, declarations) := by
  have htypes (v : Value) :
      Fields.at? (Fields.set manifest (.text "declarations") v) "types"
        = Fields.at? manifest "types" := Fields.get?_set_of_ne _ (by decide)
  have hdeclarations (v : Value) :
      Fields.at? (Fields.set manifest (.text "declarations") v) "declarations" = some v := by
    rw [Fields.at?, Fields.get?_set, if_pos rfl]
  simp only [withDeclarations, sections, htypes, hdeclarations, Option.getD_some]
  cases (Fields.at? manifest "types").getD (.list []) with
  | list types => exact Or.inr ⟨types, fun _ => rfl⟩
  | _ => exact Or.inl fun _ => rfl

/-- The candidates of declarations together are those of the first ones and then those of the
others; if the first ones fail, they fail so together, and else as the others do.  References that
are resolved in order on one index have the outcomes that each has on a fresh one, whichever of them
failed. -/
theorem loadCandidates_append (manifest : Fields) (builder : Value) :
    (∀ declarations others,
      (loadCandidates (withDeclarations manifest (declarations ++ others)) builder).1 = (do
        let cs ← (loadCandidates (withDeclarations manifest declarations) builder).1
        let ds ← (loadCandidates (withDeclarations manifest others) builder).1
        return cs ++ ds))
      ∧ ∀ types references, (ofEntries types).map (·.resolveAll references)
        = (ofEntries types).map fun x =>
          references.map fun reference => ((resolve reference).run x).1 := by
  constructor
  · intro declarations others
    rcases sections_withDeclarations manifest with hnone | ⟨types, htypes⟩
    · simp only [loadCandidates, hnone]
      rfl
    · cases hx : ofEntries types with
      | error e =>
        simp only [loadCandidates, htypes, hx]
        rfl
      | ok x =>
        rw [loadCandidates_of_sections (htypes _) hx, loadCandidates_of_sections (htypes _) hx,
          loadCandidates_of_sections (htypes _) hx]
        exact parseDeclarations_append hx builder declarations others
  · intro types references
    cases hx : ofEntries types with
    | error e => rfl
    | ok x =>
      exact congrArg _ (resolveAll_of_faithful hx references (faithful_of_ofEntries hx))

end EntityMapping.Manifest
