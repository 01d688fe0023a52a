import EntityMapping.Manifest.Index
import EntityMapping.Proofs.Assoc
import EntityMapping.Proofs.Outcome

/-!
# Names of type entries

A type entry claims its name, and its name with the namespace before it.  An index follows two rules
on names that several entries claim: a reference denotes the first entry that claims its name
(`denoted?_of_ofEntries`), but every name that some enumeration claims is the name of an enumeration
(`mem_enumNames_of_ofEntries`).

The two rules disagree on just those names whose first entry is no enumeration while a later one is:
`mem_enumNames_iff_shadowed`.  There a reference denotes an entity type, and properties of that type
are taken for enumerations.

## Main definitions

* `claims` — the names that type entries claim, with the entries, in order.
* `Shadowed` — the first entry that claims a name is no enumeration, and a later one is.
* `Index.DenotesEnum` — a reference denotes an enumeration.
-/

namespace EntityMapping.Manifest

open Text

/-- The names that the type entry at a place claims, with the entry. -/
def claimsOf (entry : Value × Nat) : List (String × TypeEntry) :=
  match entry.1 with
  | .object fields =>
    match Fields.at? fields "name" with
    | some name => (entryNames fields name).map fun n => (n, ⟨entry.2, fields⟩)
    | none => []
  | _ => []

/-- The names that type entries claim, with the entries, in order. -/
def claims (types : List Value) : List (String × TypeEntry) := types.zipIdx.flatMap claimsOf

/-- The first entry that claims a name is no enumeration, and a later one is. -/
def Shadowed (types : List Value) (n : String) : Prop :=
  (∃ entry, Assoc.get? n (claims types) = some entry ∧ isEnumEntry entry.fields = false)
    ∧ ∃ entry, (n, entry) ∈ claims types ∧ isEnumEntry entry.fields = true

theorem eq_of_mem_claimsOf {entry : Value × Nat} {p : String × TypeEntry} (h : p ∈ claimsOf entry) :
    entry = (.object p.2.fields, p.2.place) := by
  obtain ⟨v, place⟩ := entry
  unfold claimsOf at h
  split at h
  · rename_i fields hv
    split at h
    · obtain ⟨n, -, rfl⟩ := List.mem_map.mp h
      exact congrArg (·, place) hv
    · cases h
  · cases h

/-- What claims a name stands at its place among the type entries. -/
theorem getElem?_of_mem_claims {types : List Value} {p : String × TypeEntry}
    (h : p ∈ claims types) : types[p.2.place]? = some (.object p.2.fields) := by
  obtain ⟨entry, hentry, hp⟩ := List.mem_flatMap.mp h
  rw [eq_of_mem_claimsOf hp] at hentry
  exact List.mk_mem_zipIdx_iff_getElem?.mp hentry

namespace Index

variable {x y : Index} {types : List Value}

/-! ### What an entry adds -/

theorem get?_entries_addNames (entry : TypeEntry) (names : List String) (x : Index) (n : String) :
    Assoc.get? n (x.addNames entry names).entries
      = (Assoc.get? n x.entries).or (Assoc.get? n (names.map (·, entry))) := by
  have hfold (es : List (String × TypeEntry)) :
      Assoc.get? n (names.foldl (fun es m => if Assoc.has m es then es else es ++ [(m, entry)]) es)
        = (Assoc.get? n es).or (Assoc.get? n (names.map (·, entry))) := by
    induction names generalizing es with
    | nil => simp
    | cons m r ih =>
      rw [List.foldl_cons, ih, List.map_cons, Assoc.get?_cons]
      by_cases hm : m = n
      · subst hm
        cases hes : Assoc.get? m es with
        | none => simp [Assoc.has, hes, Assoc.get?_append, Assoc.get?_cons]
        | some found => simp [Assoc.has, hes]
      · rw [if_neg hm]
        split
        · rfl
        · rw [Assoc.get?_append, Assoc.get?_cons, if_neg hm, Assoc.get?_empty, Option.or_none]
  exact hfold x.entries

theorem mem_enumNames_addNames (entry : TypeEntry) (names : List String) (x : Index) (n : String) :
    n ∈ (x.addNames entry names).enumNames
      ↔ n ∈ x.enumNames ∨ n ∈ names ∧ isEnumEntry entry.fields = true := by
  have hfold (ns : List String) :
      n ∈ names.foldl (fun ns m => if m ∈ ns then ns else ns ++ [m]) ns ↔ n ∈ ns ∨ n ∈ names := by
    induction names generalizing ns with
    | nil => simp
    | cons m r ih =>
      rw [List.foldl_cons, ih, List.mem_cons]
      split
      · rename_i hm
        exact ⟨fun h => h.imp_right Or.inr, fun h => by
          rcases h with h | rfl | h
          · exact Or.inl h
          · exact Or.inl hm
          · exact Or.inr h⟩
      · rw [List.mem_append, List.mem_singleton, or_assoc]
  rw [addNames]
  cases isEnumEntry entry.fields with
  | false => simp
  | true => simp [hfold]

/-- A type entry that is an object with a name adds its claims. -/
theorem exists_of_add {entry : Value × Nat} (h : x.add entry = .ok y) :
    ∃ fields names, claimsOf entry = names.map (·, ⟨entry.2, fields⟩)
      ∧ y = x.addNames ⟨entry.2, fields⟩ names := by
  unfold add at h
  split at h
  · split at h
    · obtain rfl := Except.ok.inj h
      refine ⟨_, _, ?_, rfl⟩
      simp only [claimsOf, *]
    · cases h
  · cases h

theorem get?_entries_of_foldlM {l : List (Value × Nat)} (h : l.foldlM add x = .ok y) (n : String) :
    Assoc.get? n y.entries = (Assoc.get? n x.entries).or (Assoc.get? n (l.flatMap claimsOf)) := by
  induction l generalizing x with
  | nil =>
    obtain rfl := pure_eq_ok.mp h
    simp
  | cons entry r ih =>
    rw [List.foldlM_cons] at h
    obtain ⟨z, hz, hr⟩ := bind_eq_ok.mp h
    obtain ⟨fields, names, hclaims, rfl⟩ := exists_of_add hz
    rw [ih hr, get?_entries_addNames, List.flatMap_cons, Assoc.get?_append, hclaims,
      Option.or_assoc]

theorem mem_enumNames_of_foldlM {l : List (Value × Nat)} (h : l.foldlM add x = .ok y)
    (n : String) :
    n ∈ y.enumNames ↔ n ∈ x.enumNames
      ∨ ∃ entry, (n, entry) ∈ l.flatMap claimsOf ∧ isEnumEntry entry.fields = true := by
  induction l generalizing x with
  | nil =>
    obtain rfl := pure_eq_ok.mp h
    simp
  | cons entry r ih =>
    rw [List.foldlM_cons] at h
    obtain ⟨z, hz, hr⟩ := bind_eq_ok.mp h
    obtain ⟨fields, names, hclaims, rfl⟩ := exists_of_add hz
    rw [ih hr, mem_enumNames_addNames, or_assoc, List.flatMap_cons, hclaims]
    simp only [List.mem_append, or_and_right, exists_or, List.mem_map, Prod.mk.injEq]
    refine or_congr_right (or_congr_left ?_)
    constructor
    · rintro ⟨hn, henum⟩
      exact ⟨_, ⟨n, hn, rfl, rfl⟩, henum⟩
    · rintro ⟨_, ⟨_, hn, rfl, rfl⟩, henum⟩
      exact ⟨hn, henum⟩

/-! ### The index of type entries -/

/-- A reference denotes the first entry that claims its name. -/
theorem denoted?_of_ofEntries (h : ofEntries types = .ok x) (reference : String) :
    x.denoted? reference = Assoc.get? (trimmed reference) (claims types) := by
  rw [denoted?, get?_entries_of_foldlM h]
  rfl

/-- The names of enumerations are all names that an enumeration claims. -/
theorem mem_enumNames_of_ofEntries (h : ofEntries types = .ok x) (n : String) :
    n ∈ x.enumNames ↔ ∃ entry, (n, entry) ∈ claims types ∧ isEnumEntry entry.fields = true := by
  rw [mem_enumNames_of_foldlM h]
  simp [claims]

/-- A reference denotes an enumeration. -/
def DenotesEnum (x : Index) (reference : String) : Prop :=
  ∃ entry, x.denoted? reference = some entry ∧ isEnumEntry entry.fields = true

/-- The entry that a reference denotes is read, unless it is an enumeration. -/
theorem run_resolve (reference : String) (x : Index) :
    (resolve reference).run x = match x.denoted? reference with
      | none => (.ok none, x)
      | some entry =>
        if isEnumEntry entry.fields then (.ok none, x)
        else (entityAt entry >>= fun entity => pure (some entity)).run x := by
  have hget : (resolve reference).run x
      = (match x.denoted? reference with
        | none => (pure none : Lookup (Option EntityType))
        | some entry =>
          if isEnumEntry entry.fields then pure none
          else entityAt entry >>= fun entity => pure (some entity)).run x := rfl
  rw [hget]
  split
  · rfl
  · split <;> rfl

/-- A reference that an index resolves to an entity type denotes an entry that is no
enumeration. -/
theorem exists_denoted?_of_resolve {reference : String} {entity : EntityType}
    (h : ((resolve reference).run x).1 = .ok (some entity)) :
    ∃ entry, x.denoted? reference = some entry ∧ isEnumEntry entry.fields = false := by
  rw [run_resolve] at h
  split at h
  · cases h
  · rename_i entry hentry
    split at h
    · cases h
    · exact ⟨entry, hentry, Bool.eq_false_iff.mpr ‹_›⟩

end Index

/-! ### Enumerations by name and by entry -/

open Index

variable {x : Index} {types : List Value}

theorem lookup_knownTypes_ne_enum (name : String) : knownTypes.lookup name ≠ some .enum := by
  intro h
  have hmem := Assoc.mem_of_get?_eq_some h
  simp [knownTypes] at hmem

/-- A declared type is taken for an enumeration if its name is that of one, unless the name is known
or has a question mark at its end. -/
theorem classifyType_eq_enum {typeName : String} {enumNames : List String} :
    classifyType typeName enumNames = .enum
      ↔ (trimmed typeName).toList.getLast? ≠ some '?' ∧ knownTypes.lookup (trimmed typeName) = none
        ∧ trimmed typeName ∈ enumNames := by
  rw [classifyType, ← List.head?_reverse]
  split
  · rename_i r hr
    rw [hr]
    split <;> simp
  · rename_i hr
    have hlast : (trimmed typeName).toList.reverse.head? ≠ some '?' := fun h => by
      obtain ⟨r, hr'⟩ := List.head?_eq_some_iff.mp h
      exact hr r hr'
    cases hknown : knownTypes.lookup (trimmed typeName) with
    | some t =>
      have ht : t ≠ .enum := fun he => lookup_knownTypes_ne_enum _ (he ▸ hknown)
      simp [ht]
    | none =>
      simp only [hlast, ne_eq, not_false_eq_true, true_and]
      split <;> simp [*]

theorem type_of_parseProperty {data : Value} {enumNames : List String} {p : Property}
    (h : parseProperty data enumNames = .ok p) : p.type = classifyType p.typeName enumNames := by
  unfold parseProperty at h
  split at h
  · split at h
    · cases h
    · obtain ⟨attributes, -, h⟩ := bind_eq_ok.mp h
      obtain ⟨annotations, -, h⟩ := bind_eq_ok.mp h
      rw [← pure_eq_ok.mp h]
  · cases h

/-- The name of an entry that is no enumeration is that of one just if it is shadowed. -/
theorem mem_enumNames_of_denoted? (h : ofEntries types = .ok x) {reference : String}
    {entry : TypeEntry} (hentry : x.denoted? reference = some entry)
    (hkind : isEnumEntry entry.fields = false) :
    trimmed reference ∈ x.enumNames ↔ Shadowed types (trimmed reference) := by
  rw [mem_enumNames_of_ofEntries h]
  rw [denoted?_of_ofEntries h] at hentry
  exact ⟨fun henum => ⟨⟨entry, hentry, hkind⟩, henum⟩, And.right⟩

/-- Whether a reference denotes an enumeration, and whether its name is that of one, are the same
question just if its name is not shadowed.  Where it denotes another entry, its name is that of an
enumeration just if it is shadowed; then properties of that type are taken for enumerations, though
the reference is resolved to an entity type. -/
theorem mem_enumNames_iff_shadowed (h : ofEntries types = .ok x) (reference : String) :
    ((trimmed reference ∈ x.enumNames ↔ x.DenotesEnum reference)
        ↔ ¬Shadowed types (trimmed reference))
      ∧ (∀ entry, x.denoted? reference = some entry → isEnumEntry entry.fields = false →
        ∀ data p, parseProperty data x.enumNames = .ok p → p.typeName = reference →
          knownTypes.lookup (trimmed reference) = none →
          (p.type = .enum ↔ (trimmed reference).toList.getLast? ≠ some '?'
            ∧ Shadowed types (trimmed reference)))
      ∧ ∀ entity, ((resolve reference).run x).1 = .ok (some entity) →
        (trimmed reference ∈ x.enumNames ↔ Shadowed types (trimmed reference)) := by
  refine ⟨?_, ?_, ?_⟩
  · cases hentry : x.denoted? reference with
    | none =>
      have hclaims : ∀ entry, (trimmed reference, entry) ∉ claims types := by
        rw [denoted?_of_ofEntries h, Assoc.get?_eq_none_iff] at hentry
        exact fun entry hmem => hentry (List.mem_map_of_mem hmem)
      simp [mem_enumNames_of_ofEntries h, DenotesEnum, hentry, Shadowed, hclaims]
    | some entry =>
      cases hkind : isEnumEntry entry.fields with
      | false =>
        have hdenotes : ¬x.DenotesEnum reference := by simp [DenotesEnum, hentry, hkind]
        rw [mem_enumNames_of_denoted? h hentry hkind, iff_false_right hdenotes]
      | true =>
        have hdenotes : x.DenotesEnum reference := ⟨entry, hentry, hkind⟩
        rw [denoted?_of_ofEntries h] at hentry
        have hmem : trimmed reference ∈ x.enumNames :=
          (mem_enumNames_of_ofEntries h _).mpr ⟨entry, Assoc.mem_of_get?_eq_some hentry, hkind⟩
        have hshadowed : ¬Shadowed types (trimmed reference) := by
          rintro ⟨⟨first, hfirst, hfirstKind⟩, -⟩
          rw [hentry] at hfirst
          rw [← Option.some.inj hfirst, hkind] at hfirstKind
          cases hfirstKind
        exact iff_of_true (iff_of_true hmem hdenotes) hshadowed
  · rintro entry hentry hkind data p hp rfl hknown
    rw [type_of_parseProperty hp, classifyType_eq_enum,
      mem_enumNames_of_denoted? h hentry hkind]
    exact and_congr_right fun _ => and_iff_right hknown
  · intro entity hresolve
    obtain ⟨entry, hentry, hkind⟩ := exists_denoted?_of_resolve hresolve
    exact mem_enumNames_of_denoted? h hentry hkind

/-! ### A name of two types -/

namespace Sample

/-- An entity type and an enumeration of one name. -/
def namesakes : List Value := [
  .object [(.text "name", .text "Status"), (.text "namespace", .text "Shop.Domain")],
  .object [(.text "name", .text "Status"), (.text "namespace", .text "Shop.Legacy"),
    (.text "kind", .text "enum")]]

/-- The first entry. -/
def first : TypeEntry :=
  ⟨0, [(.text "name", .text "Status"), (.text "namespace", .text "Shop.Domain")]⟩

/-- The second entry. -/
def second : TypeEntry :=
  ⟨1, [(.text "name", .text "Status"), (.text "namespace", .text "Shop.Legacy"),
    (.text "kind", .text "enum")]⟩

/-- The index of both. -/
def index : Index where
  entries := [("Status", first), ("Shop.Domain.Status", first), ("Shop.Legacy.Status", second)]
  enumNames := ["Status", "Shop.Legacy.Status"]

/-- A property of the type that both claim. -/
def property : Value := .object [(.text "name", .text "State"), (.text "type", .text " Status ")]

end Sample

/-- The short name of both is shadowed, and the names with the namespaces are not. -/
theorem mem_enumNames_iff_shadowed_namesakes :
    ofEntries Sample.namesakes = .ok Sample.index
      ∧ Shadowed Sample.namesakes (trimmed " Status ")
      ∧ (∃ p, parseProperty Sample.property Sample.index.enumNames = .ok p ∧ p.type = .enum)
      ∧ (trimmed "Shop.Domain.Status" ∈ Sample.index.enumNames
        ↔ Shadowed Sample.namesakes (trimmed "Shop.Domain.Status"))
      ∧ ¬Shadowed Sample.namesakes (trimmed "Shop.Legacy.Status") := by
  have hindex : ofEntries Sample.namesakes = .ok Sample.index := rfl
  obtain ⟨-, hproperty, hentity⟩ := mem_enumNames_iff_shadowed hindex " Status "
  have hshadowed : Shadowed Sample.namesakes (trimmed " Status ") :=
    (hentity _ rfl).mp (by decide)
  obtain ⟨p, hp, hname⟩ : ∃ p, parseProperty Sample.property Sample.index.enumNames = .ok p
      ∧ p.typeName = " Status " := ⟨_, rfl, rfl⟩
  have henum := (hproperty Sample.first rfl rfl _ p hp hname (by decide)).mpr
    ⟨by decide, hshadowed⟩
  refine ⟨hindex, hshadowed, ⟨p, hp, henum⟩, ?_, ?_⟩
  · exact (mem_enumNames_iff_shadowed hindex "Shop.Domain.Status").2.2 _ rfl
  · refine (mem_enumNames_iff_shadowed hindex "Shop.Legacy.Status").1.mp ?_
    exact iff_of_true (by decide) ⟨Sample.second, rfl, rfl⟩

/-- The short name of both is that of an enumeration, but it denotes the entity type: it is resolved
to that, while a property of that type is taken for an enumeration. -/
theorem enumNames_holds_entity_namesakes :
    ofEntries Sample.namesakes = .ok Sample.index ∧ "Status" ∈ Sample.index.enumNames
      ∧ ¬Sample.index.DenotesEnum "Status"
      ∧ ((resolve "Status").run Sample.index).1.map (·.map (·.namespaceName))
        = .ok (some (some "Shop.Domain"))
      ∧ (parseProperty Sample.property Sample.index.enumNames).map (·.type) = .ok .enum := by
  refine ⟨rfl, by decide, ?_, rfl, rfl⟩
  rintro ⟨entry, hentry, hkind⟩
  obtain rfl : Sample.first = entry := Option.some.inj hentry
  cases hkind

end EntityMapping.Manifest
