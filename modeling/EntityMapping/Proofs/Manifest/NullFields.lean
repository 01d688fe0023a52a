import EntityMapping.Proofs.Manifest.Loading
import EntityMapping.Proofs.Manifest.Places

/-!
# Null fields in manifests

An optional field of an entry may be null.  Where a list, a kind, a truth value or arguments are
read, null is read as if there were no field.  Where a text is read, null is read as the text
`None`, which is another one than what counts if there is no field.  That makes no difference for
the type of a parameter, since neither of the two is a reference to a generic type; it does for all
other texts (`loadCandidates_cleared_iff`).

## Main definitions

* `Place.optionalKeys` — the keys of the optional fields of an entry.
* `Place.misreadKeys` — those of them under which null is not read as nothing.
* `Cleared` — an entry without a field that is null.
* `Filled` — an entry with the text `None` in place of null.
* `SameLoad` — two manifests give the same candidates, or both fail.
-/

namespace EntityMapping.Manifest

open Text

namespace Place

/-- The keys of the optional fields of an entry. -/
def optionalKeys : Place → List String
  | type => ["namespace", "kind", "properties"]
  | property => ["type", "accessibility", "static", "attributes"]
  | propertyAttribute | declarationAttribute => ["arguments", "named_arguments"]
  | declaration => ["namespace", "attributes", "methods"]
  | method => ["parameters"]
  | parameter => ["type"]

/-- The keys of the optional fields whose texts null is taken for one of. -/
def misreadKeys : Place → List String
  | type | declaration => ["namespace"]
  | property => ["type", "accessibility"]
  | _ => []

end Place

/-- The fields without those under a key. -/
def without (fs : Fields) (key : String) : Fields := fs.filter fun f => f.1 ≠ .text key

/-- An entry without a field that is null, or an entry as it is. -/
inductive Cleared (key : String) : Value → Value → Prop
  | same (v : Value) : Cleared key v v
  | null {fs : Fields} (h : Fields.at? fs key = some .null) :
      Cleared key (.object fs) (.object (without fs key))

/-- An entry with the text `None` in place of null, or an entry as it is. -/
inductive Filled (key : String) : Value → Value → Prop
  | same (v : Value) : Filled key v v
  | null {fs : Fields} (h : Fields.at? fs key = some .null) :
      Filled key (.object fs) (.object (Fields.set fs (.text key) (.text "None")))

/-- Two manifests give the same candidates, or both fail as manifests do. -/
def SameLoad (b : String) (m m' : Value) : Prop :=
  (∃ cs, (loadCandidates m (.text b)).1 = .ok cs ∧ (loadCandidates m' (.text b)).1 = .ok cs)
    ∨ (∃ e, (loadCandidates m (.text b)).1 = .error (.manifest e))
      ∧ ∃ e, (loadCandidates m' (.text b)).1 = .error (.manifest e)

variable {π : Annotation → Annotation} {key : String} {fs fs' : Fields} {v v' m m' : Value}
  {p : Place}

/-! ### Null and nothing -/

/-- Under one key there is null in one object and nothing in another one, which has the same
otherwise. -/
structure NullOrNothing (key : String) (fs fs' : Fields) : Prop where
  same : SameBut key fs fs'
  null : Fields.at? fs key = some .null
  nothing : Fields.at? fs' key = none

theorem nullOrNothing_without (h : Fields.at? fs key = some .null) :
    NullOrNothing key fs (without fs key) where
  same k hk := by
    have hkept : (Key.text k ≠ .text key) := fun he => hk (Key.text.inj he)
    rw [Fields.at?, Fields.at?, without, Fields.get?_filter fs (· ≠ .text key),
      if_pos (decide_eq_true hkept)]
  null := h
  nothing := by
    rw [Fields.at?, without, Fields.get?_filter fs (· ≠ .text key),
      if_neg (by rw [decide_eq_true_iff]; exact fun hne => hne rfl)]

namespace NullOrNothing

variable (h : NullOrNothing key fs fs')

include h

theorem listAlike {R : Value → Value → Prop} (hR : ∀ v, R v v) (k : String) :
    ListAlike R k fs fs' := by
  by_cases hk : k = key
  · subst hk
    unfold ListAlike listAt
    rw [h.null, h.nothing]
    exact .ok .nil
  · exact h.same.listAlike hR hk

theorem valueAt (k : String) (default : Value) :
    valueAt fs k default = Manifest.valueAt fs' k default := by
  by_cases hk : k = key
  · subst hk
    rw [Manifest.valueAt, Manifest.valueAt, h.null, h.nothing]
    rfl
  · exact h.same.valueAt hk default

theorem isEnumEntry : isEnumEntry fs = Manifest.isEnumEntry fs' := by
  by_cases hk : "kind" = key
  · subst hk
    rw [Manifest.isEnumEntry, Manifest.isEnumEntry, h.null, h.nothing]
  · exact h.same.isEnumEntry hk

theorem truthy (k : String) :
    ((Fields.at? fs k).getD (.bool false)).truthy
      = ((Fields.at? fs' k).getD (.bool false)).truthy := by
  by_cases hk : k = key
  · subst hk
    rw [h.null, h.nothing]
    rfl
  · rw [h.same k hk]

/-- Neither the text of null nor the empty one is a reference to a generic type. -/
theorem parameterAlike : ParameterAlike fs fs' := by
  intro builder
  by_cases hk : "type" = key
  · subst hk
    have hnull : textAt fs "type" "" = "None" := by
      rw [textAt, h.null]
      rfl
    have hnothing : textAt fs' "type" "" = "" := by
      rw [textAt, h.nothing]
      rfl
    rw [hnull, hnothing]
    cases builder <;> rfl
  · rw [h.same.textAt hk]

theorem attributeAlike (hname : "name" ≠ key) :
    AttributeAlike π (.object fs) (.object fs') where
  short := congrArg shortName (h.same.textAt hname "")
  annotation := by
    simp only [ parseAnnotation, attributeName, h.same.textAt hname, h.valueAt]
    exact Agree.refl (fun a b => π a = π b) (fun _ => rfl) _

theorem propertyAlike (hname : "name" ≠ key) (htype : "type" ≠ key)
    (haccessibility : "accessibility" ≠ key) : PropertyAlike π fs fs' where
  name := h.same _ hname
  type := h.same.textAt htype _
  accessibility := h.same.textAt haccessibility _
  static := h.truthy _
  attributes := h.listAlike (AttributeAlike.refl π) _

theorem typeAlike (hname : "name" ≠ key) (hspace : "namespace" ≠ key) : TypeAlike π fs fs' where
  name := h.same _ hname
  space := h.same.textAt hspace _
  kind := h.isEnumEntry
  properties := h.listAlike (ObjectAlike.refl (PropertyAlike.refl π)) _

theorem methodAlike (hname : "name" ≠ key) : MethodAlike fs fs' where
  name := h.same _ hname
  parameters := h.listAlike (ObjectAlike.refl ParameterAlike.refl) _

theorem declarationAlike (hname : "name" ≠ key) (hspace : "namespace" ≠ key) :
    DeclarationAlike π fs fs' where
  name := h.same _ hname
  space := h.same.textAt hspace _
  methods := h.listAlike (ObjectAlike.refl MethodAlike.refl) _
  attributes := h.listAlike (AttributeAlike.refl π) _

end NullOrNothing

/-! ### Null and its text -/

/-- Under one key there is null in one object and the text of null in another one, which has the
same otherwise. -/
structure NullOrText (key : String) (fs fs' : Fields) : Prop where
  same : SameBut key fs fs'
  null : Fields.at? fs key = some .null
  text : Fields.at? fs' key = some (.text "None")

theorem nullOrText_set (h : Fields.at? fs key = some .null) :
    NullOrText key fs (Fields.set fs (.text key) (.text "None")) where
  same := sameBut_set fs key _
  null := h
  text := at?_set_self fs key _

namespace NullOrText

theorem textAt (h : NullOrText key fs fs') (k default : String) :
    textAt fs k default = Manifest.textAt fs' k default := by
  by_cases hk : k = key
  · subst hk
    rw [Manifest.textAt, Manifest.textAt, h.null, h.text]
    rfl
  · exact h.same.textAt hk default

theorem propertyAlike (h : NullOrText key fs fs') (hkey : key ∈ Place.property.misreadKeys) :
    PropertyAlike π fs fs' := by
  have hother (k : String) (hk : k ∉ Place.property.misreadKeys) : k ≠ key :=
    fun he => hk (he ▸ hkey)
  exact {
    name := h.same _ (hother _ (by decide))
    type := h.textAt _ _
    accessibility := h.textAt _ _
    static := by rw [h.same "static" (hother _ (by decide))]
    attributes := h.same.listAlike (AttributeAlike.refl π) (hother _ (by decide)) }

theorem typeAlike (h : NullOrText "namespace" fs fs') : TypeAlike π fs fs' where
  name := h.same _ (by decide)
  space := h.textAt _ _
  kind := h.same.isEnumEntry (by decide)
  properties := h.same.listAlike (ObjectAlike.refl (PropertyAlike.refl π)) (by decide)

theorem declarationAlike (h : NullOrText "namespace" fs fs') : DeclarationAlike π fs fs' where
  name := h.same _ (by decide)
  space := h.textAt _ _
  methods := h.same.listAlike (ObjectAlike.refl MethodAlike.refl) (by decide)
  attributes := h.same.listAlike (AttributeAlike.refl π) (by decide)

end NullOrText

/-! ### Entries -/

/-- Where null is not misread, an entry without it is alike. -/
theorem alike_of_cleared (hkey : key ∈ p.optionalKeys) (hread : key ∉ p.misreadKeys)
    (h : Cleared key v v') : p.Alike π v v' := by
  cases h with
  | same => exact Place.Alike.refl π p v
  | null h =>
    replace h := nullOrNothing_without h
    have hname : "name" ≠ key := by
      rintro rfl
      cases p <;> exact absurd hkey (by decide)
    -- Texts of an entry are read under its name and the misread keys only, none of which is `key`.
    have hne (k : String) (hk : k ∈ p.misreadKeys) : k ≠ key := fun he => hread (he ▸ hk)
    cases p with
    | type => exact .object (h.typeAlike hname (hne _ (by decide)))
    | property => exact .object (h.propertyAlike hname (hne _ (by decide)) (hne _ (by decide)))
    | propertyAttribute | declarationAttribute => exact h.attributeAlike hname
    | declaration => exact .object (h.declarationAlike hname (hne _ (by decide)))
    | method => exact .object (h.methodAlike hname)
    | parameter => exact .object h.parameterAlike

/-- Where null is misread, an entry with the text `None` in its place is alike. -/
theorem alike_of_filled (hkey : key ∈ p.misreadKeys) (h : Filled key v v') : p.Alike π v v' := by
  cases h with
  | same => exact Place.Alike.refl π p v
  | null h =>
    replace h := nullOrText_set h
    cases p with
    | type =>
      obtain rfl := List.mem_singleton.mp hkey
      exact .object h.typeAlike
    | property => exact .object (h.propertyAlike hkey)
    | declaration =>
      obtain rfl := List.mem_singleton.mp hkey
      exact .object h.declarationAlike
    | _ => cases hkey

/-! ### Manifests -/

/-- Manifests that are alike load in one way. -/
theorem sameLoad_of_manifestAlike (h : ManifestAlike id m m') (b : String) : SameLoad b m m' := by
  have hagree := agree_loadCandidates h (.text b)
  have hfails {m : Value} {e : Failure} (h : (loadCandidates m (.text b)).1 = .error e) :
      ∃ e, (loadCandidates m (.text b)).1 = .error (.manifest e) := by
    rcases loadCandidates_eq_error h with ⟨e, rfl⟩ | ⟨-, hno⟩
    · exact ⟨e, h⟩
    · exact absurd rfl (hno b)
  cases hcs : (loadCandidates m (.text b)).1 with
  | ok cs =>
    obtain ⟨cs', hcs', hsame⟩ := hagree.exists_ok hcs
    simp only [Candidate.mapAnnotations_id, List.map_id'] at hsame
    exact .inl ⟨cs, hcs, hsame ▸ hcs'⟩
  | error e =>
    cases hcs' : (loadCandidates m' (.text b)).1 with
    | ok cs' =>
      rw [hcs, hcs'] at hagree
      cases hagree
    | error e' => exact .inr ⟨hfails hcs, hfails hcs'⟩

namespace Sample

/-- A manifest with a type of one property and a declaration for it, each with further fields. -/
def furnished (type property declaration : Fields) : Value := .object [
  (.text "types", .list [.object ([
    (.text "name", .text "User"),
    (.text "properties", .list [.object ((.text "name", .text "Email") :: property)])] ++ type)]),
  (.text "declarations", .list [.object ([
    (.text "name", .text "UserMap"),
    (.text "methods", .list [.object [
      (.text "name", .text "Configure"),
      (.text "parameters", .list [.object [
        (.text "type", .text "EntityTypeBuilder<User>")]])]])] ++ declaration)])]

/-- The texts of a candidate that null may be taken for: the namespaces, and the types of properties
with whether they are public. -/
def texts (c : Candidate) : List (Option String) × List (String × Bool) :=
  (c.namespaceName :: c.target.toList.map (·.namespaceName),
    c.target.toList.flatMap fun e => e.properties.map fun p => (p.typeName, p.isPublic))

/-- The texts of the candidates of a manifest. -/
def loaded (m : Value) : Option (List (List (Option String) × List (String × Bool))) :=
  (loadCandidates m defaultBuilderType).1.toOption.map (·.map texts)

theorem not_sameLoad (h : loaded m ≠ loaded m') : ¬SameLoad "EntityTypeBuilder" m m' := by
  unfold loaded at h
  rintro (⟨cs, hcs, hcs'⟩ | ⟨⟨e, he⟩, e', he'⟩)
  · exact h (by rw [defaultBuilderType, hcs, hcs'])
  · exact h (by rw [defaultBuilderType, he, he']; rfl)

/-- Every key that is misread can be seen to be. -/
theorem exists_not_sameLoad (hkey : key ∈ p.misreadKeys) :
    ∃ m m', Along p.way (Cleared key) m m' ∧ ¬SameLoad "EntityTypeBuilder" m m' := by
  cases p with
  | type =>
    obtain rfl := List.mem_singleton.mp hkey
    exact ⟨furnished [(.text "namespace", .null)] [] [], furnished [] [] [],
      .items rfl (.cons (.null rfl) .nil), not_sameLoad (by decide +kernel)⟩
  | property =>
    rcases List.mem_pair.mp hkey with rfl | rfl
    · exact ⟨furnished [] [(.text "type", .null)] [], furnished [] [] [],
        .items rfl (.cons (.items rfl (.cons (.null rfl) .nil)) .nil),
        not_sameLoad (by decide +kernel)⟩
    · exact ⟨furnished [] [(.text "accessibility", .null)] [], furnished [] [] [],
        .items rfl (.cons (.items rfl (.cons (.null rfl) .nil)) .nil),
        not_sameLoad (by decide +kernel)⟩
  | declaration =>
    obtain rfl := List.mem_singleton.mp hkey
    exact ⟨furnished [] [] [(.text "namespace", .null)], furnished [] [] [],
      .items rfl (.cons (.null rfl) .nil), not_sameLoad (by decide +kernel)⟩
  | _ => cases hkey

end Sample

/-- Removing an optional field that is null leaves what every manifest gives as it is, just if null
is not misread under its key; where it is, null gives what the text `None` gives. -/
theorem loadCandidates_cleared_iff (p : Place) {key : String} (hkey : key ∈ p.optionalKeys) :
    ((∀ m m' b, Along p.way (Cleared key) m m' → SameLoad b m m') ↔ key ∉ p.misreadKeys)
      ∧ (key ∈ p.misreadKeys → ∀ m m' b, Along p.way (Filled key) m m' → SameLoad b m m') := by
  refine ⟨⟨fun hall hmisread => ?_, fun hread m m' b h => ?_⟩, fun hmisread m m' b h => ?_⟩
  · obtain ⟨m, m', h, hne⟩ := Sample.exists_not_sameLoad hmisread
    exact hne (hall m m' _ h)
  · exact sameLoad_of_manifestAlike
      (manifestAlike_of_along p (fun _ _ => alike_of_cleared hkey hread) h) b
  · exact sameLoad_of_manifestAlike
      (manifestAlike_of_along p (fun _ _ => alike_of_filled hmisread) h) b

open Sample in
/-- A kind that is null may be removed; a namespace that is null may not. -/
theorem loadCandidates_cleared_iff_type :
    SameLoad "EntityTypeBuilder" (furnished [(.text "kind", .null)] [] []) (furnished [] [] [])
      ∧ SameLoad "EntityTypeBuilder" (furnished [(.text "namespace", .null)] [] [])
        (furnished [(.text "namespace", .text "None")] [] []) := by
  have hkind := (loadCandidates_cleared_iff .type (by decide : "kind" ∈ Place.type.optionalKeys)).1
  have hspace :=
    (loadCandidates_cleared_iff .type (by decide : "namespace" ∈ Place.type.optionalKeys)).2
  exact ⟨hkind.mpr (by decide) _ _ _ (.items rfl (.cons (.null rfl) .nil)),
    hspace (by decide) _ _ _ (.items rfl (.cons (.null rfl) .nil))⟩

open Sample in
/-- A type whose namespace is null has the namespace `None`, and without the field it has none. -/
theorem loadCandidates_nullNamespace :
    Along Place.type.way (Cleared "namespace") (furnished [(.text "namespace", .null)] [] [])
        (furnished [] [] [])
      ∧ loaded (furnished [(.text "namespace", .null)] [] [])
        = some [([some "", some "None"], [("", true)])]
      ∧ loaded (furnished [] [] []) = some [([some "", some ""], [("", true)])]
      ∧ ¬SameLoad "EntityTypeBuilder" (furnished [(.text "namespace", .null)] [] [])
        (furnished [] [] []) :=
  ⟨.items rfl (.cons (.null rfl) .nil), by decide +kernel, by decide +kernel,
    not_sameLoad (by decide +kernel)⟩

end EntityMapping.Manifest
