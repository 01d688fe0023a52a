import EntityMapping.Generation.Request
import EntityMapping.Proofs.Outcome
import EntityMapping.Proofs.Registry.Registration
import EntityMapping.Proofs.Text.LetterCase

/-!
# Aliases have owners

Whatever was registered and removed, and whichever registration failed half-way, every alias belongs
to a target that is registered (`Owned`).  One call keeps that (`Owned.of_perform`), so all
sequences of calls from the empty registry do (`owned_performAll`).

A name that is supported therefore stands for a target that is there, which stands for itself, as
the lower case of a lower-case name is that name again.  A generator for the name is made from that
target, and removing a target takes just the names that stand for it (`performAll_resolves`).

## Main definitions

* `Owned` — the invariant.
* `Call`, `performAll` — sequences of calls.

## Main results

* `Owned.of_registration`, `Owned.of_unregister` — one call.
* `performAll_resolves` — what holds after any calls.
-/

namespace EntityMapping.Registry

open Text

/-- Every alias belongs to a target, and targets are named in lower case. -/
structure Owned (r : Registry) : Prop where
  lower : ∀ key ∈ Assoc.keys r.targets, lowered key = key
  owner : ∀ p ∈ r.aliases, p.2 ∈ Assoc.keys r.targets

/-! ### Resolving names -/

section Resolving

variable {r : Registry} {n key : String}

theorem mem_targetNames : key ∈ r.targetNames ↔ key ∈ Assoc.keys r.targets := List.mem_mergeSort

theorem resolve_of_mem (h : lowered n ∈ Assoc.keys r.targets) : r.resolve n = .ok (lowered n) := by
  simp only [resolve, Assoc.has_iff.mpr h, if_true]

theorem resolve_of_notMem (h : lowered n ∉ Assoc.keys r.targets) :
    r.resolve n = match Assoc.get? (lowered n) r.aliases with
      | some owner => .ok owner
      | none => .error (.unknownTarget n r.targetNames) := by
  have hfree : Assoc.has (lowered n) r.targets = false :=
    Bool.eq_false_iff.mpr (mt Assoc.has_iff.mp h)
  cases howner : Assoc.get? (lowered n) r.aliases <;>
    simp only [resolve, hfree, howner, Bool.false_eq_true, if_false]

/-- A name stands for the target of that name, or else for the owner of the alias. -/
theorem resolve_eq_ok_iff :
    r.resolve n = .ok key
      ↔ lowered n ∈ Assoc.keys r.targets ∧ lowered n = key
        ∨ lowered n ∉ Assoc.keys r.targets ∧ Assoc.get? (lowered n) r.aliases = some key := by
  by_cases h : lowered n ∈ Assoc.keys r.targets
  · simp [resolve_of_mem h, h]
  · rw [resolve_of_notMem h]
    cases Assoc.get? (lowered n) r.aliases <;> simp [h]

theorem isSupported_iff : r.isSupported n = true ↔ ∃ key, r.resolve n = .ok key := by
  rw [isSupported, Bool.or_eq_true, Assoc.has_iff, Assoc.has_iff]
  by_cases h : lowered n ∈ Assoc.keys r.targets
  · exact iff_of_true (Or.inl h) ⟨_, resolve_of_mem h⟩
  · rw [or_iff_right h, resolve_of_notMem h]
    cases howner : Assoc.get? (lowered n) r.aliases with
    | none => simpa using Assoc.get?_eq_none_iff.mp howner
    | some owner =>
      refine iff_of_true ?_ ⟨owner, rfl⟩
      exact List.mem_map_of_mem (Assoc.mem_of_get?_eq_some howner)

/-- Finding a target is resolving its name and looking it up. -/
theorem find_of_resolve {t : Target} (h : r.resolve n = .ok key)
    (ht : Assoc.get? key r.targets = some t) : r.find n = .ok (key, t) := by
  simp only [find, h, bind, Except.bind, ht]
  rfl

theorem find_eq_ok {f : String × Target} (h : r.find n = .ok f) :
    r.resolve n = .ok f.1 ∧ Assoc.get? f.1 r.targets = some f.2 := by
  unfold find at h
  obtain ⟨key, hkey, h⟩ := bind_eq_ok.mp h
  cases ht : Assoc.get? key r.targets with
  | none =>
    rw [ht] at h
    cases h
  | some t =>
    rw [ht] at h
    cases h
    exact ⟨hkey, ht⟩

/-- A generator is made from the target that its name stands for. -/
theorem createGenerator_of_find {t : Target} (h : r.find n = .ok (key, t)) (fs : FileSystem)
    (source : SettingsSource) :
    r.createGenerator fs n source
      = (settingsFrom fs key source >>= fun s =>
          (Generator.create fs t s).mapError fun e => .registry (.notCreated key e.message)) := by
  have hlift : (liftM (r.find n) : Except Failure (String × Target)) = .ok (key, t) := by
    rw [h]
    rfl
  simp only [createGenerator, hlift]
  refine congrArg (settingsFrom fs key source >>= ·) (funext fun s => ?_)
  cases Generator.create fs t s <;> rfl

/-- Generation from a manifest has a result where the generator, the builder type and the candidates
are there. -/
theorem generateManifest_eq_ok {fs : FileSystem} {target : String} {source : SettingsSource}
    {manifest lines : Value} {result : GenerationResult} :
    (r.generateManifest fs target source manifest lines).1 = .ok result
      ↔ ∃ gen builder cs, r.createGenerator fs target source = .ok gen
        ∧ gen.settings.customAt "builder_type" Manifest.defaultBuilderType = .ok builder
        ∧ (Manifest.loadCandidates manifest builder).1 = .ok cs
        ∧ (generate gen cs lines).1 = result := by
  unfold generateManifest
  cases r.createGenerator fs target source with
  | error e => simp
  | ok gen =>
    dsimp only
    cases hbuilder : gen.settings.customAt "builder_type" Manifest.defaultBuilderType with
    | error e => simp [hbuilder]
    | ok builder =>
      dsimp only
      rcases hcs : Manifest.loadCandidates manifest builder with ⟨_ | cs, notes⟩ <;>
        simp [hbuilder, hcs]

end Resolving

namespace Owned

variable {r r' : Registry}

theorem start : Owned {} where
  lower _ h := absurd h List.not_mem_nil
  owner _ h := absurd h List.not_mem_nil

theorem of_addAliases {n : String} {t : Target} {replace : Bool} {names : List String}
    {e : Option RegistryError} {after : List (String × String)} (h : r.Owned)
    (hadd : addAliases (Assoc.set (lowered n) t r.targets) (lowered n) replace names r.aliases
      = (e, after)) : Owned ⟨Assoc.set (lowered n) t r.targets, after⟩ where
  lower key hkey := by
    rcases Assoc.mem_keys_set.mp hkey with rfl | hkey
    · exact lowered_lowered n
    · exact h.lower key hkey
  owner p hp := by
    have hmem : p ∈ (addAliases (Assoc.set (lowered n) t r.targets) (lowered n) replace names
        r.aliases).2 := by rwa [hadd]
    rcases mem_of_mem_addAliases hmem with hold | hown
    · exact Assoc.mem_keys_set.mpr (Or.inr (h.owner p hold))
    · exact Assoc.mem_keys_set.mpr (Or.inl hown)

/-- A registration keeps the invariant, however it ends. -/
theorem of_registration {name aliases : Value} {offer : Offer} {replace : Bool}
    {e : Option Failure} (h : r.Owned)
    (hr : Registration r name aliases offer replace e r') : r'.Owned := by
  cases hr with
  | notGenerator => exact h
  | notName => exact h
  | kept => exact h
  | aliasTaken t n e after hname hnew hadd => exact h.of_addAliases hadd
  | registered t n replace after hname hnew hadd => exact h.of_addAliases hadd

/-- Removing a target keeps the invariant, as its aliases go with it. -/
theorem of_unregister (h : r.Owned) (name : String) : (r.unregister name).Owned where
  lower key hkey := h.lower key (Assoc.mem_keys_erase.mp hkey).2
  owner p hp := by
    obtain ⟨hmem, hother⟩ := List.mem_filter.mp hp
    exact Assoc.mem_keys_erase.mpr ⟨of_decide_eq_true hother, h.owner p hmem⟩

/-- A name that stands for something stands for a target that is there. -/
theorem mem_of_resolve {n key : String} (h : r.Owned) (hn : r.resolve n = .ok key) :
    key ∈ Assoc.keys r.targets := by
  rcases resolve_eq_ok_iff.mp hn with ⟨hmem, rfl⟩ | ⟨-, howner⟩
  · exact hmem
  · exact h.owner _ (Assoc.mem_of_get?_eq_some howner)

/-- A target stands for itself. -/
theorem resolve_self {key : String} (h : r.Owned) (hkey : key ∈ Assoc.keys r.targets) :
    r.resolve key = .ok key := by
  have hlower := h.lower key hkey
  have hself := resolve_of_mem (hlower.symm ▸ hkey)
  rwa [hlower] at hself

theorem find_of_resolve {n key : String} (h : r.Owned) (hn : r.resolve n = .ok key) :
    ∃ t, r.find n = .ok (key, t) := by
  have hmem := h.mem_of_resolve hn
  obtain ⟨t, ht⟩ := Option.ne_none_iff_exists'.mp (mt Assoc.get?_eq_none_iff.mp (not_not.mpr hmem))
  exact ⟨t, Registry.find_of_resolve hn ht⟩

/-- A supported name stands for a target. -/
theorem exists_find {n : String} (h : r.Owned) (hn : r.isSupported n = true) :
    ∃ f, r.find n = .ok f := by
  obtain ⟨key, hkey⟩ := isSupported_iff.mp hn
  obtain ⟨t, ht⟩ := h.find_of_resolve hkey
  exact ⟨(key, t), ht⟩

/-- After a target was removed no name stands for it. -/
theorem resolve_unregister_ne (h : r.Owned) (name n : String) :
    (r.unregister name).resolve n ≠ .ok (lowered name) := by
  intro hn
  have hmem := (h.of_unregister name).mem_of_resolve hn
  exact (Assoc.mem_keys_erase.mp hmem).1 rfl

/-- A name that stands for another target than the one removed still stands for it. -/
theorem resolve_unregister_of_ne {name n key : String} (hn : r.resolve n = .ok key)
    (hne : key ≠ lowered name) : (r.unregister name).resolve n = .ok key := by
  rcases resolve_eq_ok_iff.mp hn with ⟨hmem, rfl⟩ | ⟨hnot, howner⟩
  · exact resolve_of_mem (Assoc.mem_keys_erase.mpr ⟨hne, hmem⟩)
  · refine resolve_eq_ok_iff.mpr (Or.inr ⟨fun h => hnot (Assoc.mem_keys_erase.mp h).2, ?_⟩)
    exact Assoc.get?_filter_of_some (fun owner => decide (owner ≠ lowered name)) howner
      (decide_eq_true hne)

theorem find_unregister_of_ne {name n key : String} (h : r.Owned) (hn : r.resolve n = .ok key)
    (hne : key ≠ lowered name) : (r.unregister name).find n = r.find n := by
  obtain ⟨t, ht⟩ := h.find_of_resolve hn
  have hkept : Assoc.get? key (r.unregister name).targets = some t :=
    (Assoc.get?_erase_of_ne r.targets hne).trans (find_eq_ok ht).2
  rw [ht, Registry.find_of_resolve (resolve_unregister_of_ne hn hne) hkept]

end Owned

/-! ### Sequences of calls -/

/-- What a caller can ask of a registry, with any values for names and aliases. -/
inductive Call where
  /-- Registers what is offered. -/
  | register (name : Value) (offer : Offer) (aliases : Value) (replace : Bool)
  /-- Removes a target. -/
  | unregister (name : Value)

/-- The registry after a call, also if it fails. -/
def Call.perform (r : Registry) : Call → Registry
  | register name offer aliases replace => (r.registerValues name offer aliases replace).2
  | unregister name =>
    match nameOf name with
    | .ok n => r.unregister n
    | .error _ => r

/-- The registry after calls in order, whether they fail or not. -/
def performAll (calls : List Call) (r : Registry) : Registry := calls.foldl Call.perform r

theorem Owned.of_perform {r : Registry} (h : r.Owned) (call : Call) : (call.perform r).Owned := by
  cases call with
  | register name offer aliases replace =>
    exact h.of_registration (registration_registerValues r name offer aliases replace)
  | unregister name =>
    simp only [Call.perform]
    cases nameOf name with
    | error e => exact h
    | ok n => exact h.of_unregister n

theorem Owned.of_performAll (calls : List Call) {r : Registry} (h : r.Owned) :
    (performAll calls r).Owned := by
  induction calls generalizing r with
  | nil => exact h
  | cons call calls ih => exact ih (h.of_perform call)

theorem owned_performAll (calls : List Call) : (performAll calls {}).Owned :=
  Owned.start.of_performAll calls

/-- What holds after any calls, whichever of them failed: aliases belong to targets; a name is
supported just if it stands for something, which is a target that stands for itself and from which
its generators are made; and removing a target takes just the names that stand for it. -/
theorem performAll_resolves (calls : List Call) :
    let r := performAll calls {}
    (∀ p ∈ r.aliases, p.2 ∈ r.targetNames)
      ∧ (∀ n, r.isSupported n = true ↔ ∃ key, r.resolve n = .ok key)
      ∧ (∀ n key, r.resolve n = .ok key → key ∈ r.targetNames ∧ r.resolve key = .ok key
        ∧ ∃ t, r.find n = .ok (key, t) ∧ ∀ fs source,
          r.createGenerator fs n source
            = (settingsFrom fs key source >>= fun s =>
              (Generator.create fs t s).mapError fun e => .registry (.notCreated key e.message)))
      ∧ ∀ name n, (r.unregister name).resolve n ≠ .ok (lowered name)
        ∧ ∀ key, r.resolve n = .ok key → key ≠ lowered name →
          (r.unregister name).resolve n = .ok key ∧ (r.unregister name).find n = r.find n := by
  intro r
  have h : r.Owned := owned_performAll calls
  refine ⟨fun p hp => mem_targetNames.mpr (h.owner p hp), fun n => isSupported_iff, ?_, ?_⟩
  · intro n key hn
    have hmem := h.mem_of_resolve hn
    obtain ⟨t, ht⟩ := h.find_of_resolve hn
    exact ⟨mem_targetNames.mpr hmem, h.resolve_self hmem, t, ht, createGenerator_of_find ht⟩
  · intro name n
    refine ⟨h.resolve_unregister_ne name n, fun key hn hne => ⟨?_, ?_⟩⟩
    · exact Owned.resolve_unregister_of_ne hn hne
    · exact h.find_unregister_of_ne hn hne

/-! ### A history -/

namespace Sample

/-- A second kind of generator. -/
def seven : Target where
  className := "EfCoreSeven"
  targetName := "efcore7"

/-- The registration of the first target. -/
def first : Call :=
  .register (.text "csharp") (.generator .csharp) (.list [.text "cs", .text "EFCore"]) false

/-- The second target is registered with an alias that is taken, which fails.  The third one takes
the name and an alias of the first one as its aliases. -/
def calls : List Call := [
  first,
  .register (.text "other") (.generator seven) (.list [.text "new", .text "CS"]) false,
  .register (.text "Next") (.generator seven) (.list [.text "cs", .text "csharp"]) true]

end Sample

/-- A name that is both a target and an alias stands for the target, until that is removed. -/
theorem performAll_resolves_sample :
    let r := performAll Sample.calls {}
    r.resolve "CSharp" = .ok "csharp" ∧ r.resolve "CS" = .ok "next"
      ∧ "next" ∈ r.targetNames ∧ r.resolve "next" = .ok "next"
      ∧ (r.unregister "CSharp").resolve "CS" = .ok "next"
      ∧ (r.unregister "CSharp").resolve "csharp" ≠ .ok "csharp" := by
  intro r
  obtain ⟨-, -, hresolve, hunregister⟩ := performAll_resolves Sample.calls
  have hcs : r.resolve "CS" = .ok "next" := rfl
  have hlower : lowered "CSharp" = "csharp" := by decide
  obtain ⟨hmem, hself, -⟩ := hresolve "CS" "next" hcs
  have hkept := (hunregister "CSharp" "CS").2 "next" hcs (by rw [hlower]; decide)
  have hgone := (hunregister "CSharp" "csharp").1
  rw [hlower] at hgone
  exact ⟨rfl, hcs, hmem, hself, hkept.1, hgone⟩

end EntityMapping.Registry
