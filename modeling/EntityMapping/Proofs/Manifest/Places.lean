import EntityMapping.Proofs.Manifest.Likeness
import EntityMapping.Proofs.Value.Fields

/-!
# Places in a manifest

An entry of a manifest is reached by the keys of the lists that it stands in.  A change of entries
that leaves each of them alike leaves what they stand in alike, up to the whole manifest
(`manifestAlike_of_along`).

## Main definitions

* `Place` — the kinds of entries, each with the way to it.
* `Inside` — a value with other items in the list under a key.
* `Along` — a value with other entries at the end of a way of keys.
* `SameBut` — two objects have the same under every key but one.
-/

namespace EntityMapping.Manifest

/-- A value with other items in the list under a key, each related to the one in its place. -/
inductive Inside (key : String) (R : Value → Value → Prop) : Value → Value → Prop
  | same (v : Value) : Inside key R v v
  | items {fs : Fields} {items items' : List Value} (hat : Fields.at? fs key = some (.list items))
      (h : List.Forall₂ R items items') :
      Inside key R (.object fs) (.object (Fields.set fs (.text key) (.list items')))

/-- A value with other entries at the end of a way of keys, each related to the one in its place. -/
def Along : List String → (Value → Value → Prop) → Value → Value → Prop
  | [], R => R
  | key :: way, R => Inside key (Along way R)

/-- The kinds of entries in a manifest. -/
inductive Place
  | type
  | property
  | propertyAttribute
  | declaration
  | method
  | parameter
  | declarationAttribute

namespace Place

/-- The keys of the lists on the way to the entries of a kind. -/
def way : Place → List String
  | type => ["types"]
  | property => ["types", "properties"]
  | propertyAttribute => ["types", "properties", "attributes"]
  | declaration => ["declarations"]
  | method => ["declarations", "methods"]
  | parameter => ["declarations", "methods", "parameters"]
  | declarationAttribute => ["declarations", "attributes"]

/-- When two entries of a kind are alike. -/
def Alike (π : Annotation → Annotation) : Place → Value → Value → Prop
  | type => ObjectAlike (TypeAlike π)
  | property => ObjectAlike (PropertyAlike π)
  | propertyAttribute | declarationAttribute => AttributeAlike π
  | declaration => ObjectAlike (DeclarationAlike π)
  | method => ObjectAlike MethodAlike
  | parameter => ObjectAlike ParameterAlike

theorem Alike.refl (π : Annotation → Annotation) (p : Place) (v : Value) : p.Alike π v v := by
  cases p with
  | type => exact ObjectAlike.refl (TypeAlike.refl π) v
  | property => exact ObjectAlike.refl (PropertyAlike.refl π) v
  | propertyAttribute | declarationAttribute => exact AttributeAlike.refl π v
  | declaration => exact ObjectAlike.refl (DeclarationAlike.refl π) v
  | method => exact ObjectAlike.refl MethodAlike.refl v
  | parameter => exact ObjectAlike.refl ParameterAlike.refl v

end Place

/-- Two objects have the same under every key but one. -/
def SameBut (key : String) (fs fs' : Fields) : Prop :=
  ∀ k, k ≠ key → Fields.at? fs k = Fields.at? fs' k

variable {π : Annotation → Annotation} {key k : String} {fs fs' : Fields} {v v' m m' : Value}
  {R S : Value → Value → Prop}

theorem sameBut_set (fs : Fields) (key : String) (w : Value) :
    SameBut key fs (Fields.set fs (.text key) w) := fun k hk => by
  rw [Fields.at?, Fields.at?, Fields.get?_set_of_ne]
  exact fun h => hk (Key.text.inj h).symm

theorem at?_set_self (fs : Fields) (key : String) (w : Value) :
    Fields.at? (Fields.set fs (.text key) w) key = some w := by
  rw [Fields.at?, Fields.get?_set, if_pos rfl]

namespace SameBut

theorem textAt (h : SameBut key fs fs') (hk : k ≠ key) (default : String) :
    textAt fs k default = Manifest.textAt fs' k default := by
  rw [Manifest.textAt, Manifest.textAt, h k hk]

theorem valueAt (h : SameBut key fs fs') (hk : k ≠ key) (default : Value) :
    valueAt fs k default = Manifest.valueAt fs' k default := by
  rw [Manifest.valueAt, Manifest.valueAt, h k hk]

theorem isEnumEntry (h : SameBut key fs fs') (hk : "kind" ≠ key) :
    isEnumEntry fs = Manifest.isEnumEntry fs' := by
  rw [Manifest.isEnumEntry, Manifest.isEnumEntry, h "kind" hk]

theorem listAlike (h : SameBut key fs fs') (hR : ∀ v, R v v) (hk : k ≠ key) :
    ListAlike R k fs fs' := by
  unfold ListAlike listAt
  rw [← h k hk]
  split
  · exact .ok .nil
  · exact .ok .nil
  · exact .ok (List.forall₂_same.mpr fun v _ => hR v)
  · exact .error _ _

end SameBut

/-! ### One list -/

/-- Where one key has another list, entries are alike if what is read under that key is. -/
theorem PropertyAlike.of_attributes (h : SameBut "attributes" fs fs')
    (hattributes : ListAlike (AttributeAlike π) "attributes" fs fs') : PropertyAlike π fs fs' where
  name := h _ (by decide)
  type := h.textAt (by decide) _
  accessibility := h.textAt (by decide) _
  static := by rw [h "static" (by decide)]
  attributes := hattributes

theorem TypeAlike.of_properties (h : SameBut "properties" fs fs')
    (hproperties : ListAlike (ObjectAlike (PropertyAlike π)) "properties" fs fs') :
    TypeAlike π fs fs' where
  name := h _ (by decide)
  space := h.textAt (by decide) _
  kind := h.isEnumEntry (by decide)
  properties := hproperties

theorem MethodAlike.of_parameters (h : SameBut "parameters" fs fs')
    (hparameters : ListAlike (ObjectAlike ParameterAlike) "parameters" fs fs') :
    MethodAlike fs fs' where
  name := h _ (by decide)
  parameters := hparameters

theorem DeclarationAlike.of_methods (h : SameBut "methods" fs fs')
    (hmethods : ListAlike (ObjectAlike MethodAlike) "methods" fs fs') :
    DeclarationAlike π fs fs' where
  name := h _ (by decide)
  space := h.textAt (by decide) _
  methods := hmethods
  attributes := h.listAlike (AttributeAlike.refl π) (by decide)

theorem DeclarationAlike.of_attributes (h : SameBut "attributes" fs fs')
    (hattributes : ListAlike (AttributeAlike π) "attributes" fs fs') :
    DeclarationAlike π fs fs' where
  name := h _ (by decide)
  space := h.textAt (by decide) _
  methods := h.listAlike (ObjectAlike.refl MethodAlike.refl) (by decide)
  attributes := hattributes

/-! ### Other items in a list -/

theorem listAlike_set {items items' : List Value} (hat : Fields.at? fs key = some (.list items))
    (h : List.Forall₂ R items items') (hRS : ∀ v v', R v v' → S v v') :
    ListAlike S key fs (Fields.set fs (.text key) (.list items')) := by
  unfold ListAlike listAt
  rw [hat, at?_set_self]
  exact .ok (h.imp hRS)

/-- An object stays alike if other items in one of its lists keep its fields alike. -/
theorem ObjectAlike.of_inside {Q : Fields → Fields → Prop} (hQ : ∀ fs, Q fs fs)
    (hlist : ∀ fs fs', SameBut key fs fs' → ListAlike S key fs fs' → Q fs fs')
    (hRS : ∀ v v', R v v' → S v v') (h : Inside key R v v') : ObjectAlike Q v v' := by
  cases h with
  | same => exact ObjectAlike.refl hQ v
  | items hat h => exact .object (hlist _ _ (sameBut_set _ _ _) (listAlike_set hat h hRS))

theorem propertyAlike_of_attributes (hR : ∀ v v', R v v' → AttributeAlike π v v')
    (h : Inside "attributes" R v v') : ObjectAlike (PropertyAlike π) v v' :=
  .of_inside (PropertyAlike.refl π) (fun _ _ => .of_attributes) hR h

theorem typeAlike_of_properties (hR : ∀ v v', R v v' → ObjectAlike (PropertyAlike π) v v')
    (h : Inside "properties" R v v') : ObjectAlike (TypeAlike π) v v' :=
  .of_inside (TypeAlike.refl π) (fun _ _ => .of_properties) hR h

theorem methodAlike_of_parameters (hR : ∀ v v', R v v' → ObjectAlike ParameterAlike v v')
    (h : Inside "parameters" R v v') : ObjectAlike MethodAlike v v' :=
  .of_inside MethodAlike.refl (fun _ _ => .of_parameters) hR h

theorem declarationAlike_of_methods (hR : ∀ v v', R v v' → ObjectAlike MethodAlike v v')
    (h : Inside "methods" R v v') : ObjectAlike (DeclarationAlike π) v v' :=
  .of_inside (DeclarationAlike.refl π) (fun _ _ => .of_methods) hR h

theorem declarationAlike_of_attributes (hR : ∀ v v', R v v' → AttributeAlike π v v')
    (h : Inside "attributes" R v v') : ObjectAlike (DeclarationAlike π) v v' :=
  .of_inside (DeclarationAlike.refl π) (fun _ _ => .of_attributes) hR h

/-! ### The manifest -/

theorem ManifestAlike.refl (π : Annotation → Annotation) (m : Value) : ManifestAlike π m m :=
  Agree.refl _ (fun _ => ⟨List.forall₂_same.mpr fun v _ => ObjectAlike.refl (TypeAlike.refl π) v,
    List.forall₂_same.mpr fun v _ => ObjectAlike.refl (DeclarationAlike.refl π) v⟩) _

/-- Types that are alike leave the manifest alike. -/
theorem manifestAlike_of_types (hR : ∀ v v', R v v' → ObjectAlike (TypeAlike π) v v')
    (h : Inside "types" R m m') : ManifestAlike π m m' := by
  cases h with
  | same => exact ManifestAlike.refl π m
  | @items fs types types' hat h =>
    have hdeclarations := sameBut_set fs "types" (.list types') "declarations" (by decide)
    unfold ManifestAlike sections
    dsimp only
    rw [hat, at?_set_self, ← hdeclarations, Option.getD_some, Option.getD_some]
    cases (Fields.at? fs "declarations").getD (.list []) with
    | list declarations =>
      exact .ok ⟨h.imp hR, List.forall₂_same.mpr fun v _ =>
        ObjectAlike.refl (DeclarationAlike.refl π) v⟩
    | _ => exact .error _ _

/-- Declarations that are alike leave the manifest alike. -/
theorem manifestAlike_of_declarations
    (hR : ∀ v v', R v v' → ObjectAlike (DeclarationAlike π) v v')
    (h : Inside "declarations" R m m') : ManifestAlike π m m' := by
  cases h with
  | same => exact ManifestAlike.refl π m
  | @items fs declarations declarations' hat h =>
    have htypes := sameBut_set fs "declarations" (.list declarations') "types" (by decide)
    unfold ManifestAlike sections
    dsimp only
    rw [hat, at?_set_self, ← htypes, Option.getD_some, Option.getD_some]
    cases (Fields.at? fs "types").getD (.list []) with
    | list types =>
      exact .ok ⟨List.forall₂_same.mpr fun v _ => ObjectAlike.refl (TypeAlike.refl π) v,
        h.imp hR⟩
    | _ => exact .error _ _

/-- Entries of one kind that are alike leave the manifest alike. -/
theorem manifestAlike_of_along (p : Place) (hR : ∀ v v', R v v' → p.Alike π v v')
    (h : Along p.way R m m') : ManifestAlike π m m' := by
  cases p with
  | type => exact manifestAlike_of_types hR h
  | property =>
    exact manifestAlike_of_types (fun _ _ => typeAlike_of_properties hR) h
  | propertyAttribute =>
    exact manifestAlike_of_types
      (fun _ _ => typeAlike_of_properties fun _ _ => propertyAlike_of_attributes hR) h
  | declaration => exact manifestAlike_of_declarations hR h
  | method =>
    exact manifestAlike_of_declarations (fun _ _ => declarationAlike_of_methods hR) h
  | parameter =>
    exact manifestAlike_of_declarations
      (fun _ _ => declarationAlike_of_methods fun _ _ => methodAlike_of_parameters hR) h
  | declarationAttribute =>
    exact manifestAlike_of_declarations (fun _ _ => declarationAlike_of_attributes hR) h

end EntityMapping.Manifest
