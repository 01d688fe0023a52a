import EntityMapping.Proofs.Manifest.Remembering

/-!
# What a reference resolves to

A type entry goes by its name and, if it stands in a namespace, by its name with the namespace
before it.  A reference is decided by the first entry of the manifest that goes by it: an index,
which only keeps the first entry for a name, denotes that entry (`denoted?_eq_some_iff`).  An
enumeration is no entity type; any other entry gives the entity type that it describes or fails as
its properties do.  All of this holds of an index that was used before, and whatever names lead to
an entry, its entity type is made once (`resolve_eq_iff`).

## Main definitions

* `GoesBy` — a type entry goes by a name.
* `Decides` — an entry is the first one that goes by a reference.
* `IsEntityOf` — an entity type is the one that the fields of an entry describe.
* `PropertiesFail` — the properties of an entry fail.
* `Resolves` — what a reference resolves to.
* `Index.Later` — an index after references were resolved on another one.
* `Index.Serves` — an index of type entries that may have been used.
-/

namespace EntityMapping.Manifest

open Text Index

/-! ### The first entry -/

/-- A type entry goes by a name: it is its name, or its name with the namespace before it if that is
not empty. -/
def GoesBy (entry : Value) (n : String) : Prop :=
  ∃ fields name, entry = .object fields ∧ Fields.at? fields "name" = some name
    ∧ (n = name.display
      ∨ textAt fields "namespace" "" ≠ ""
        ∧ n = textAt fields "namespace" "" ++ "." ++ name.display)

/-- An entry is the first one that goes by a reference without the blanks around it. -/
structure Decides (types : List Value) (reference : String) (place : Nat) (fields : Fields) :
    Prop where
  /-- The entry stands at the place. -/
  entry : types[place]? = some (.object fields)
  /-- It goes by the reference. -/
  goesBy : GoesBy (.object fields) (trimmed reference)
  /-- No entry before it does. -/
  first : ∀ i e, i < place → types[i]? = some e → ¬GoesBy e (trimmed reference)

/-- What goes by a name has one. -/
theorem GoesBy.exists_name {fields : Fields} {n : String} (h : GoesBy (.object fields) n) :
    ∃ name, Fields.at? fields "name" = some name := by
  obtain ⟨_, name, hfields, hname, -⟩ := h
  obtain rfl := Value.object.inj hfields
  exact ⟨name, hname⟩

variable {types : List Value} {fresh x y z : Index} {reference other n : String} {place : Nat}
  {fields : Fields} {entity : EntityType}

theorem mem_entryNames {name : Value} :
    n ∈ entryNames fields name
      ↔ n = name.display
        ∨ textAt fields "namespace" "" ≠ ""
          ∧ n = textAt fields "namespace" "" ++ "." ++ name.display := by
  unfold entryNames
  dsimp only
  split_ifs with hspace
  · simp [hspace]
  · simp [hspace]

theorem get?_claimsOf_eq_some_iff {entry : Value × Nat} {t : TypeEntry} :
    Assoc.get? n (claimsOf entry) = some t
      ↔ entry = (.object t.fields, t.place) ∧ GoesBy entry.1 n := by
  constructor
  · intro h
    have hmem := Assoc.mem_of_get?_eq_some h
    obtain rfl := eq_of_mem_claimsOf hmem
    refine ⟨rfl, ?_⟩
    cases hname : Fields.at? t.fields "name" with
    | none => simp [claimsOf, hname] at hmem
    | some name =>
      refine ⟨t.fields, name, rfl, hname, mem_entryNames.mp ?_⟩
      simpa [claimsOf, hname] using hmem
  · rintro ⟨rfl, fields, name, hfields, hname, hn⟩
    obtain rfl := Value.object.inj hfields
    have hmem := mem_entryNames.mpr hn
    simp only [claimsOf, hname]
    generalize entryNames t.fields name = names at hmem
    induction names with
    | nil => cases hmem
    | cons m r ih =>
      rw [List.map_cons, Assoc.get?_cons]
      split_ifs with hm
      · rfl
      · exact ih ((List.mem_cons.mp hmem).resolve_left (Ne.symm hm))

theorem get?_claimsOf_eq_none_iff {entry : Value × Nat} :
    Assoc.get? n (claimsOf entry) = none ↔ ¬GoesBy entry.1 n := by
  constructor
  · intro h hgoes
    obtain ⟨fields, name, hfields, hname, hn⟩ := hgoes
    have hsome : Assoc.get? n (claimsOf entry) = some ⟨entry.2, fields⟩ :=
      get?_claimsOf_eq_some_iff.mpr ⟨Prod.ext hfields rfl, fields, name, hfields, hname, hn⟩
    rw [h] at hsome
    cases hsome
  · intro h
    rw [Option.eq_none_iff_forall_not_mem]
    exact fun t ht => h (get?_claimsOf_eq_some_iff.mp ht).2

theorem denoted?_eq_none_iff (h : ofEntries types = .ok x) :
    x.denoted? reference = none ↔ ∀ e ∈ types, ¬GoesBy e (trimmed reference) := by
  rw [denoted?_of_ofEntries h, claims, Assoc.get?_flatMap, List.findSome?_eq_none_iff]
  simp only [get?_claimsOf_eq_none_iff]
  constructor
  · intro hnone e he
    obtain ⟨i, hi⟩ := List.mem_iff_getElem?.mp he
    exact hnone (e, i) (List.mk_mem_zipIdx_iff_getElem?.mpr hi)
  · exact fun hnone entry hentry => hnone entry.1 (List.fst_mem_of_mem_zipIdx hentry)

/-- Two entries that are both the first one are the same. -/
theorem Decides.unique {place' : Nat} {fields' : Fields} (h : Decides types reference place fields)
    (h' : Decides types reference place' fields') : place = place' ∧ fields = fields' := by
  obtain rfl : place = place' := by
    rcases Nat.lt_trichotomy place place' with hlt | heq | hlt
    · exact absurd h.goesBy (h'.first _ _ hlt h.entry)
    · exact heq
    · exact absurd h'.goesBy (h.first _ _ hlt h'.entry)
  exact ⟨rfl, Value.object.inj (Option.some.inj (h.entry.symm.trans h'.entry))⟩

/-- An index denotes the entry that decides a reference. -/
theorem decides_of_denoted? (h : ofEntries types = .ok x) {entry : TypeEntry}
    (hentry : x.denoted? reference = some entry) :
    Decides types reference entry.place entry.fields := by
  rw [denoted?_of_ofEntries h, claims, Assoc.get?_flatMap, List.findSome?_eq_some_iff] at hentry
  obtain ⟨before, found, after, hsplit, hfound, hbefore⟩ := hentry
  obtain ⟨rfl, hgoes⟩ := get?_claimsOf_eq_some_iff.mp hfound
  have hat : types.zipIdx[before.length]? = some (.object entry.fields, entry.place) := by
    rw [hsplit, List.getElem?_append_right (Nat.le_refl _), Nat.sub_self]
    rfl
  obtain ⟨v, hv, hpair⟩ : ∃ v, types[before.length]? = some v
      ∧ (v, before.length) = (.object entry.fields, entry.place) := by
    simpa [List.getElem?_zipIdx] using hat
  obtain ⟨rfl, hplace⟩ := Prod.mk.inj hpair
  refine ⟨hplace ▸ hv, hgoes, fun i e hi he => ?_⟩
  have hmem : (e, i) ∈ before := by
    have hi' : i < before.length := by omega
    have hei : types.zipIdx[i]? = some (e, i) := by simp [List.getElem?_zipIdx, he]
    rw [hsplit, List.getElem?_append_left hi'] at hei
    exact List.mem_of_getElem? hei
  exact get?_claimsOf_eq_none_iff.mp (hbefore _ hmem)

theorem denoted?_eq_some_iff (h : ofEntries types = .ok x) :
    x.denoted? reference = some ⟨place, fields⟩ ↔ Decides types reference place fields := by
  refine ⟨decides_of_denoted? h, fun hdecides => ?_⟩
  cases hentry : x.denoted? reference with
  | none =>
    exact absurd hdecides.goesBy
      ((denoted?_eq_none_iff h).mp hentry _ (List.mem_of_getElem? hdecides.entry))
  | some entry =>
    obtain ⟨rfl, rfl⟩ := (decides_of_denoted? h hentry).unique hdecides
    rfl

/-! ### The entity type of an entry -/

/-- An entity type has the name and the namespace of an entry and all of its properties, in
declaration order. -/
structure IsEntityOf (enumNames : List String) (fields : Fields) (entity : EntityType) :
    Prop where
  /-- It has the name of the entry. -/
  name : ∃ name, Fields.at? fields "name" = some name ∧ entity.name = name.display
  /-- It has the namespace of the entry. -/
  namespaceName : entity.namespaceName = some (textAt fields "namespace" "")
  /-- It has a property for each property entry. -/
  properties : ∃ items, listAt fields "properties" = .ok items
    ∧ List.Forall₂ (fun item p => parseProperty item enumNames = .ok p) items entity.properties

/-- The properties of an entry are no list, or the first of them that is not well-formed fails. -/
inductive PropertiesFail (enumNames : List String) (fields : Fields) : ManifestError → Prop
  | notList {e : ManifestError} (h : listAt fields "properties" = .error e) :
      PropertiesFail enumNames fields e
  | property {before after : List Value} {item : Value} {e : ManifestError}
      (hlist : listAt fields "properties" = .ok (before ++ item :: after))
      (hbefore : ∀ i ∈ before, ∃ p, parseProperty i enumNames = .ok p)
      (hitem : parseProperty item enumNames = .error e) : PropertiesFail enumNames fields e

theorem entityOf_eq_ok_iff {name : Value} (hname : Fields.at? fields "name" = some name) :
    x.entityOf fields = .ok entity ↔ IsEntityOf x.enumNames fields entity := by
  have htext : textAt fields "name" "" = name.display := by rw [textAt, hname, Option.getD_some]
  simp only [entityOf, bind_eq_ok, pure_eq_ok, mapM_eq_ok]
  constructor
  · rintro ⟨items, hitems, properties, hproperties, rfl⟩
    exact ⟨⟨name, hname, htext⟩, rfl, items, hitems, hproperties⟩
  · rintro ⟨⟨name', hname', hentity⟩, hspace, items, hitems, hproperties⟩
    refine ⟨items, hitems, entity.properties, hproperties, ?_⟩
    rw [hname] at hname'
    obtain rfl := Option.some.inj hname'
    rw [htext, ← hentity, ← hspace]

theorem entityOf_eq_error_iff {e : ManifestError} :
    x.entityOf fields = .error e ↔ PropertiesFail x.enumNames fields e := by
  simp only [entityOf, bind_eq_error, pure_ne_error, and_false, exists_false, or_false,
    mapM_eq_error]
  constructor
  · rintro (hlist | ⟨items, hlist, before, item, after, rfl, hbefore, hitem⟩)
    · exact .notList hlist
    · exact .property hlist hbefore hitem
  · rintro (hlist | ⟨hlist, hbefore, hitem⟩)
    · exact Or.inl hlist
    · exact Or.inr ⟨_, hlist, _, _, _, rfl, hbefore, hitem⟩

/-- What a reference resolves to: nothing if no entry goes by it, nothing if an enumeration decides
it, and else the entity type of the entry that decides it, or the failure of its properties. -/
inductive Resolves (types : List Value) (enumNames : List String) (reference : String) :
    Except Failure (Option EntityType) → Prop
  | unknown (h : ∀ e ∈ types, ¬GoesBy e (trimmed reference)) :
      Resolves types enumNames reference (.ok none)
  | enumeration {place : Nat} {fields : Fields} (h : Decides types reference place fields)
      (hkind : isEnumEntry fields = true) : Resolves types enumNames reference (.ok none)
  | entity {place : Nat} {fields : Fields} {entity : EntityType}
      (h : Decides types reference place fields) (hkind : isEnumEntry fields = false)
      (hentity : IsEntityOf enumNames fields entity) :
      Resolves types enumNames reference (.ok (some entity))
  | failed {place : Nat} {fields : Fields} {e : ManifestError}
      (h : Decides types reference place fields) (hkind : isEnumEntry fields = false)
      (hfail : PropertiesFail enumNames fields e) :
      Resolves types enumNames reference (.error (.manifest e))

/-! ### Indices that are used -/

/-- An index after references were resolved on another one, whether they could be or not. -/
inductive Index.Later (x : Index) : Index → Prop
  | refl : Later x x
  | resolve {y : Index} (h : Later x y) (reference : String) :
      Later x ((Index.resolve reference).run y).2

/-- An index of type entries on which references may have been resolved. -/
def Index.Serves (types : List Value) (x : Index) : Prop :=
  ∃ fresh, ofEntries types = .ok fresh ∧ fresh.Later x

theorem Index.Later.faithful (h : ofEntries types = .ok fresh) (hy : x.Later y)
    (hx : Faithful types fresh x) : Faithful types fresh y := by
  induction hy with
  | refl => exact hx
  | @resolve z _ reference ih =>
    obtain ⟨w, hw, hfaithful⟩ :=
      (transparent_resolve h reference).run_eq (faithful_of_ofEntries h) ih
    rwa [hw]

/-- An entity type that is remembered stays so. -/
theorem Index.Later.made_eq (h : x.Later y) (hmade : Assoc.get? place x.made = some entity) :
    Assoc.get? place y.made = some entity := by
  induction h with
  | refl => exact hmade
  | @resolve z _ reference ih =>
    rw [run_resolve]
    split
    · exact ih
    · rename_i entry _
      split
      · exact ih
      · rw [run_bind, run_entityAt]
        cases hentry : Assoc.get? entry.place z.made with
        | some found => exact ih
        | none =>
          have hne : place ≠ entry.place := by
            rintro rfl
            rw [ih] at hentry
            cases hentry
          dsimp only
          cases z.entityOf entry.fields with
          | error e => exact ih
          | ok found => exact (Assoc.get?_set_of_ne _ _ hne).trans ih

theorem run_resolve_of_unknown (h : ofEntries types = .ok fresh) (hx : Faithful types fresh x)
    (hnone : ∀ e ∈ types, ¬GoesBy e (trimmed reference)) :
    (resolve reference).run x = (.ok none, x) := by
  rw [run_resolve, hx.denoted?_eq, (denoted?_eq_none_iff h).mpr hnone]

theorem run_resolve_of_enumeration (h : ofEntries types = .ok fresh) (hx : Faithful types fresh x)
    (hdecides : Decides types reference place fields) (hkind : isEnumEntry fields = true) :
    (resolve reference).run x = (.ok none, x) := by
  rw [run_resolve, hx.denoted?_eq, (denoted?_eq_some_iff h).mpr hdecides]
  dsimp only
  rw [if_pos hkind]

/-- A reference to an entry that is no enumeration gives the entity type that is made for it. -/
theorem run_resolve_of_entry (h : ofEntries types = .ok fresh) (hx : Faithful types fresh x)
    (hdecides : Decides types reference place fields) (hkind : isEnumEntry fields = false) :
    (resolve reference).run x = (some <$> entityAt ⟨place, fields⟩).run x := by
  rw [run_resolve, hx.denoted?_eq, (denoted?_eq_some_iff h).mpr hdecides]
  dsimp only
  rw [if_neg (Bool.eq_false_iff.mp hkind)]
  rfl

/-- The entity type is what reading the entry gives, which is remembered, or reading it fails. -/
theorem run_resolve_of_decides (h : ofEntries types = .ok fresh) (hx : Faithful types fresh x)
    (hdecides : Decides types reference place fields) (hkind : isEnumEntry fields = false) :
    (∃ entity y, fresh.entityOf fields = .ok entity
        ∧ (resolve reference).run x = (.ok (some entity), y)
        ∧ Assoc.get? place y.made = some entity)
      ∨ ∃ e, fresh.entityOf fields = .error e
        ∧ (resolve reference).run x = (.error (.manifest e), x) := by
  rw [run_resolve_of_entry h hx hdecides hkind, map_eq_pure_bind, run_bind, run_entityAt]
  cases hmade : Assoc.get? place x.made with
  | some entity => exact Or.inl ⟨entity, x, hx.made _ _ _ hdecides.entry hmade, rfl, hmade⟩
  | none =>
    dsimp only
    rw [hx.entityOf_eq]
    cases hentity : fresh.entityOf fields with
    | ok entity => exact Or.inl ⟨entity, _, rfl, rfl, Assoc.get?_set_same _ _ _⟩
    | error e => exact Or.inr ⟨e, rfl, rfl⟩

/-- An entity type that is remembered for an entry is what all references to the entry give. -/
theorem run_resolve_of_made (h : ofEntries types = .ok fresh) (hx : Faithful types fresh x)
    (hdecides : Decides types reference place fields) (hkind : isEnumEntry fields = false)
    (hmade : Assoc.get? place x.made = some entity) :
    (resolve reference).run x = (.ok (some entity), x) := by
  rw [run_resolve_of_entry h hx hdecides hkind, map_eq_pure_bind, run_bind, run_entityAt]
  dsimp only
  rw [hmade]
  rfl

/-- What a reference is resolved to is what it resolves to by the type entries. -/
theorem resolves_run (h : ofEntries types = .ok fresh) (hx : Faithful types fresh x)
    (reference : String) :
    Resolves types x.enumNames reference ((resolve reference).run x).1 := by
  cases hentry : fresh.denoted? reference with
  | none =>
    have hnone := (denoted?_eq_none_iff h).mp hentry
    rw [run_resolve_of_unknown h hx hnone]
    exact .unknown hnone
  | some entry =>
    have hdecides := decides_of_denoted? h hentry
    obtain ⟨name, hname⟩ := hdecides.goesBy.exists_name
    cases hkind : isEnumEntry entry.fields with
    | true =>
      rw [run_resolve_of_enumeration h hx hdecides hkind]
      exact .enumeration hdecides hkind
    | false =>
      rcases run_resolve_of_decides h hx hdecides hkind with
        ⟨entity, y, hentity, hrun, -⟩ | ⟨e, hfail, hrun⟩
      · rw [hrun, hx.enumNames]
        exact .entity hdecides hkind ((entityOf_eq_ok_iff hname).mp hentity)
      · rw [hrun, hx.enumNames]
        exact .failed hdecides hkind (entityOf_eq_error_iff.mp hfail)

/-- A reference resolves to one thing by the type entries. -/
theorem run_eq_of_resolves (h : ofEntries types = .ok fresh) (hx : Faithful types fresh x)
    {outcome : Except Failure (Option EntityType)}
    (hresolves : Resolves types x.enumNames reference outcome) :
    ((resolve reference).run x).1 = outcome := by
  rw [hx.enumNames] at hresolves
  cases hresolves with
  | unknown hnone => rw [run_resolve_of_unknown h hx hnone]
  | enumeration hdecides hkind => rw [run_resolve_of_enumeration h hx hdecides hkind]
  | entity hdecides hkind hentity =>
    obtain ⟨name, hname⟩ := hdecides.goesBy.exists_name
    have hok := (entityOf_eq_ok_iff hname).mpr hentity
    rcases run_resolve_of_decides h hx hdecides hkind with ⟨found, y, hfound, hrun, -⟩ | ⟨e, he, -⟩
    · rw [hrun, Except.ok.inj (hfound.symm.trans hok)]
    · cases hok.symm.trans he
  | failed hdecides hkind hfail =>
    have herror := entityOf_eq_error_iff.mpr hfail
    rcases run_resolve_of_decides h hx hdecides hkind with ⟨found, y, hfound, -⟩ | ⟨e, he, hrun⟩
    · cases herror.symm.trans hfound
    · rw [hrun, Except.error.inj (he.symm.trans herror)]

/-- An entry is resolved alike, whichever name leads to it. -/
theorem Resolves.of_decides {enumNames : List String} {outcome : Except Failure (Option EntityType)}
    (h : Resolves types enumNames reference outcome)
    (hdecides : Decides types reference place fields) (hother : Decides types other place fields) :
    Resolves types enumNames other outcome := by
  cases h with
  | unknown hnone => exact absurd hdecides.goesBy (hnone _ (List.mem_of_getElem? hdecides.entry))
  | enumeration h hkind =>
    obtain ⟨rfl, rfl⟩ := h.unique hdecides
    exact .enumeration hother hkind
  | entity h hkind hentity =>
    obtain ⟨rfl, rfl⟩ := h.unique hdecides
    exact .entity hother hkind hentity
  | failed h hkind hfail =>
    obtain ⟨rfl, rfl⟩ := h.unique hdecides
    exact .failed hother hkind hfail

/-- An entity type that a reference gave is remembered. -/
theorem made_eq_of_run (h : ofEntries types = .ok fresh) (hx : Faithful types fresh x)
    (hdecides : Decides types reference place fields)
    (hrun : (resolve reference).run x = (.ok (some entity), y)) :
    isEnumEntry fields = false ∧ Assoc.get? place y.made = some entity := by
  cases hkind : isEnumEntry fields with
  | true => cases (run_resolve_of_enumeration h hx hdecides hkind).symm.trans hrun
  | false =>
    refine ⟨rfl, ?_⟩
    rcases run_resolve_of_decides h hx hdecides hkind with ⟨found, z, -, hz, hmade⟩ | ⟨e, -, he⟩
    · obtain ⟨hfound, rfl⟩ := Prod.mk.inj (hz.symm.trans hrun)
      rwa [Option.some.inj (Except.ok.inj hfound)] at hmade
    · cases hrun.symm.trans he

/-- On an index of type entries, whatever was resolved on it before, a reference is resolved to what
it resolves to by the first entry that goes by it.  References that one entry decides are resolved
alike: once one of them has given an entity type, all of them give that one at any later time, and
no other is made for the entry. -/
theorem resolve_eq_iff (h : x.Serves types) (reference : String) :
    (∀ outcome, ((resolve reference).run x).1 = outcome
        ↔ Resolves types x.enumNames reference outcome)
      ∧ ∀ other place fields, Decides types reference place fields →
        Decides types other place fields →
          ((resolve other).run x).1 = ((resolve reference).run x).1
            ∧ ∀ entity y z, (resolve reference).run x = (.ok (some entity), y) → y.Later z →
              (resolve other).run z = (.ok (some entity), z) := by
  obtain ⟨fresh, hfresh, hlater⟩ := h
  have hx : Faithful types fresh x := hlater.faithful hfresh (faithful_of_ofEntries hfresh)
  have hresolves := resolves_run hfresh hx reference
  refine ⟨fun outcome => ⟨?_, run_eq_of_resolves hfresh hx⟩, ?_⟩
  · rintro rfl
    exact hresolves
  · intro other place fields hdecides hother
    refine ⟨run_eq_of_resolves hfresh hx (hresolves.of_decides hdecides hother), ?_⟩
    intro entity y z hrun hz
    obtain ⟨hkind, hmade⟩ := made_eq_of_run hfresh hx hdecides hrun
    have hy : Faithful types fresh y := by
      have hstep := (Later.refl.resolve reference).faithful hfresh hx
      rwa [hrun] at hstep
    exact run_resolve_of_made hfresh (hz.faithful hfresh hy) hother hkind (hz.made_eq hmade)

/-! ### A short name that is the full name of another type -/

namespace Sample

/-- The fields of a type in a namespace. -/
def user : Fields := [
  (.text "name", .text "User"), (.text "namespace", .text "Shop"),
  (.text "properties",
    .list [.object [(.text "name", .text "Email"), (.text "type", .text "string")]])]

/-- The type and another one, which has its full name for a short one. -/
def claimants : List Value := [.object user, .object [(.text "name", .text "Shop.User")]]

end Sample

/-- The first type is what both names stand for, and it is made once. -/
theorem resolve_eq_iff_claimants :
    ∃ x entity y, x.Serves Sample.claimants
      ∧ Decides Sample.claimants " User " 0 Sample.user
      ∧ Decides Sample.claimants "Shop.User" 0 Sample.user
      ∧ (resolve " User ").run x = (.ok (some entity), y)
      ∧ Resolves Sample.claimants x.enumNames " User " (.ok (some entity))
      ∧ (resolve "Shop.User").run y = (.ok (some entity), y) := by
  obtain ⟨x, hx⟩ : ∃ x, ofEntries Sample.claimants = .ok x := ⟨_, rfl⟩
  have hserves : x.Serves Sample.claimants := ⟨x, hx, .refl⟩
  have hfirst (s : String) (hs : GoesBy (.object Sample.user) (trimmed s)) :
      Decides Sample.claimants s 0 Sample.user :=
    ⟨rfl, hs, fun i e hi => absurd hi (Nat.not_lt_zero i)⟩
  have hshort := hfirst " User " ⟨_, .text "User", rfl, rfl, Or.inl rfl⟩
  have hfull := hfirst "Shop.User" ⟨_, .text "User", rfl, rfl, Or.inr ⟨by decide, rfl⟩⟩
  obtain ⟨entity, y, hrun⟩ : ∃ entity y, (resolve " User ").run x = (.ok (some entity), y) := by
    obtain rfl := Except.ok.inj hx
    exact ⟨_, _, rfl⟩
  obtain ⟨hresolves, hsame⟩ := resolve_eq_iff hserves " User "
  exact ⟨x, entity, y, hserves, hshort, hfull, hrun,
    (hresolves _).mp (congrArg Prod.fst hrun),
    (hsame "Shop.User" 0 Sample.user hshort hfull).2 entity y y hrun .refl⟩

end EntityMapping.Manifest
