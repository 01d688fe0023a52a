import EntityMapping.Proofs.Registry.Ownership

/-!
# Registrations in conflict

A registration can be in conflict with what is registered in two ways.

One of its aliases may be taken.  Then it fails, but the target stays, with the aliases before that
one: the registry is the one that a registration with just those aliases gives
(`registerValues_eq_registryError`).  Only the refusal of what is no generator leaves the registry
as it was.

Its name may be an alias of another target.  That is no failure: the name stands for the new target
from then on (`find_registerValues`).  All other names that were supported stand for what they stood
for, in both cases (`Enlarges.find_of_ne`).

## Main definitions

* `LooksLike` — two registries answer all questions alike.

## Main results

* `Enlarges.find_of_ne`, `Enlarges.find_self` — what a further target changes.
* `registerValues_eq_registryError` — registrations that fail.
* `find_registerValues` — registrations that do not replace, and do not fail.
-/

namespace EntityMapping.Registry

open Text

/-- The registries list the same targets with the same aliases, and resolve all names alike. -/
structure LooksLike (r s : Registry) : Prop where
  targetNames : r.targetNames = s.targetNames
  aliasesFor : ∀ name, r.aliasesFor name = s.aliasesFor name
  resolve : ∀ name, r.resolve name = s.resolve name

theorem LooksLike.refl (r : Registry) : r.LooksLike r := ⟨rfl, fun _ => rfl, fun _ => rfl⟩

namespace Enlarges

variable {r r' : Registry} {key n : String} {t : Target}

theorem mem_targets (h : r.Enlarges key t r') : key ∈ Assoc.keys r'.targets := by
  rw [h.targets]
  exact Assoc.mem_keys_set.mpr (Or.inl rfl)

/-- The further target shows. -/
theorem not_looksLike (h : r.Enlarges key t r') : ¬r'.LooksLike r := by
  intro hlike
  have hmem : key ∈ r'.targetNames := mem_targetNames.mpr h.mem_targets
  rw [hlike.targetNames] at hmem
  exact h.new (mem_targetNames.mp hmem)

/-- The name of the further target stands for it, even if it was an alias before. -/
theorem find_self (h : r.Enlarges key t r') (hn : lowered n = key) : r'.find n = .ok (key, t) := by
  subst hn
  refine find_of_resolve (resolve_of_mem h.mem_targets) ?_
  rw [h.targets]
  exact Assoc.get?_set_same _ t r.targets

/-- All other supported names stand for what they stood for. -/
theorem find_of_ne (h : r.Enlarges key t r') (hr : r.Owned) (hn : r.isSupported n = true)
    (hne : lowered n ≠ key) : r'.find n = r.find n := by
  obtain ⟨owner, howner⟩ := isSupported_iff.mp hn
  obtain ⟨c, hfind⟩ := hr.find_of_resolve howner
  have hother : owner ≠ key := by
    rintro rfl
    exact h.new (hr.mem_of_resolve howner)
  have hresolve : r'.resolve n = .ok owner := by
    rcases resolve_eq_ok_iff.mp howner with ⟨hmem, rfl⟩ | ⟨hnot, halias⟩
    · refine resolve_of_mem ?_
      rw [h.targets]
      exact Assoc.mem_keys_set.mpr (Or.inr hmem)
    · refine resolve_eq_ok_iff.mpr (Or.inr ⟨?_, ?_⟩)
      · rw [h.targets]
        exact fun hmem => (Assoc.mem_keys_set.mp hmem).elim hne hnot
      · obtain ⟨added, hadded, -⟩ := h.aliases
        rw [hadded]
        exact Assoc.get?_append_of_some halias added
  rw [hfind]
  refine find_of_resolve hresolve ?_
  rw [h.targets, Assoc.get?_set_of_ne t r.targets hother]
  exact (find_eq_ok hfind).2

/-- A name that was an alias before has changed what it stands for. -/
theorem find_self_ne (h : r.Enlarges key t r') (hr : r.Owned) (hn : lowered n = key) :
    r'.find n ≠ r.find n := by
  rw [h.find_self hn]
  intro heq
  exact h.new (hr.mem_of_resolve (find_eq_ok heq.symm).1)

end Enlarges

theorem register_of_notMem {r : Registry} {n : String} (t : Target) (names : List String)
    (hnew : lowered n ∉ Assoc.keys r.targets) :
    r.register n (.generator t) names false
      = ((addAliases (Assoc.set (lowered n) t r.targets) (lowered n) false names r.aliases).1,
        ⟨Assoc.set (lowered n) t r.targets,
          (addAliases (Assoc.set (lowered n) t r.targets) (lowered n) false names r.aliases).2⟩) := by
  have hfree : ¬(Assoc.has (lowered n) r.targets = true ∧ ¬false = true) :=
    fun h => hnew (Assoc.has_iff.mp h.1)
  simp only [register, if_neg hfree]

section Calls

variable {calls : List Call} {name aliases : Value} {offer : Offer} {r' : Registry}

/-- A registration that is refused leaves the registry as it was just if what it offers is no
generator.  If an alias is taken, the registry is the one that a registration with just the aliases
before gives: the target is there under its name.  All other supported names stand for what they
stood for. -/
theorem registerValues_eq_registryError {replace : Bool} {e : RegistryError}
    (h : (performAll calls {}).registerValues name offer aliases replace
      = (some (.registry e), r')) :
    let r := performAll calls {}
    (r'.LooksLike r ↔ ∃ shown, offer = .foreign shown)
      ∧ ∀ t, offer = .generator t →
        ∃ n before taken rest, nameOf name = .ok n
          ∧ (listedAliases aliases).1 = before ++ taken :: rest
          ∧ r.register n offer before false = (none, r')
          ∧ aliasConflict? r'.targets r'.aliases (lowered n) taken = some e
          ∧ r'.find n = .ok (lowered n, t)
          ∧ ∀ m, r.isSupported m = true → lowered m ≠ lowered n → r'.find m = r.find m := by
  intro r
  have hr : r.Owned := owned_performAll calls
  have hout := registration_registerValues r name offer aliases replace
  rw [h] at hout
  clear_value r
  dsimp only at hout
  generalize hfailure : some (Failure.registry e) = failure at hout
  cases hout with
  | notGenerator shown =>
    refine ⟨iff_of_true (.refl _) ⟨shown, rfl⟩, ?_⟩
    intro t ht
    cases ht
  | notName t replace fault hname => cases hfailure
  | kept t n hname hold => cases hfailure
  | aliasTaken t n e' after hname hnew hadd =>
    cases hfailure
    have henlarges := enlarges_of_addAliases hnew hadd
    obtain ⟨-, before, taken, rest, hsplit, hbefore, hconflict⟩ := addAliases_eq_conflict hadd
    constructor
    · refine iff_of_false henlarges.not_looksLike ?_
      rintro ⟨shown, hshown⟩
      cases hshown
    · intro t' ht
      cases ht
      refine ⟨n, before, taken, rest, hname, hsplit, ?_, hconflict, henlarges.find_self rfl, ?_⟩
      · rw [register_of_notMem t before hnew, hbefore]
      · exact fun m hm hne => henlarges.find_of_ne hr hm hne
  | registered t n replace after hname hnew hadd =>
    cases hfaults : (listedAliases aliases).2 <;> rw [hfaults] at hfailure <;> cases hfailure

/-- Of the second target of the history, the alias before the taken one stays. -/
theorem registerValues_eq_registryError_sample :
    let r := performAll [Sample.first] {}
    ∃ e r', r.registerValues (.text "Other") (.generator Sample.seven)
          (.list [.text "new", .text "CS", .text "newer"]) false = (some (.registry e), r')
      ∧ ¬r'.LooksLike r ∧ r'.find "Other" = .ok ("other", Sample.seven)
      ∧ r'.find "efcore" = r.find "efcore" := by
  intro r
  have hregister : r.registerValues (.text "Other") (.generator Sample.seven)
      (.list [.text "new", .text "CS", .text "newer"]) false
        = (some (.registry (.aliasTaken "CS" "csharp")), _) := rfl
  obtain ⟨hlike, hconflict⟩ := registerValues_eq_registryError hregister
  obtain ⟨n, before, taken, rest, hname, -, -, -, hfind, hframe⟩ := hconflict Sample.seven rfl
  obtain rfl : "Other" = n := Except.ok.inj hname
  refine ⟨_, _, hregister, ?_, hfind, hframe "efcore" rfl (by decide)⟩
  rintro h
  obtain ⟨shown, hshown⟩ := hlike.mp h
  cases hshown

/-- A registration that fails at an alias can leave another one behind, which was unknown before. -/
theorem registerValues_leaves_alias_sample :
    let r := performAll [Sample.first] {}
    ∃ e r', r.registerValues (.text "Other") (.generator Sample.seven)
          (.list [.text "new", .text "CS"]) false = (some (.registry e), r')
      ∧ r.isSupported "new" = false ∧ r'.resolve "new" = .ok "other" ∧ ¬r'.LooksLike r := by
  intro r
  have hbefore : r.isSupported "new" = false := rfl
  refine ⟨_, _, rfl, hbefore, rfl, ?_⟩
  intro hlike
  have hsupported : r.isSupported "new" = true :=
    isSupported_iff.mpr ⟨"other", (hlike.resolve "new").symm⟩
  rw [hbefore] at hsupported
  cases hsupported

/-- A registration that does not replace and does not fail leaves a supported name as it was, unless
that is the name of the new target, which was an alias: it stands for the new target then. -/
theorem find_registerValues
    (h : (performAll calls {}).registerValues name offer aliases false = (none, r')) :
    let r := performAll calls {}
    ∃ n t, nameOf name = .ok n ∧ offer = .generator t ∧ ∀ m, r.isSupported m = true →
      (∃ f, r.find m = .ok f
        ∧ (r'.find m = .ok f ↔ (lowered m = lowered n → lowered n ∈ r.targetNames)))
      ∧ (lowered m = lowered n → lowered n ∉ r.targetNames → r'.find m = .ok (lowered n, t)) := by
  intro r
  have hr : r.Owned := owned_performAll calls
  have hout := registration_registerValues r name offer aliases false
  rw [h] at hout
  clear_value r
  dsimp only at hout
  generalize hfailure : (none : Option Failure) = failure at hout
  cases hout with
  | notGenerator => cases hfailure
  | notName => cases hfailure
  | aliasTaken => cases hfailure
  | kept t n hname hold =>
    have hmem := mem_targetNames.mpr hold
    refine ⟨n, t, hname, rfl, fun m hm => ⟨?_, fun _ hnot => absurd hmem hnot⟩⟩
    obtain ⟨f, hfind⟩ := hr.exists_find hm
    exact ⟨f, hfind, iff_of_true hfind fun _ => hmem⟩
  | registered t n _ after hname hnew hadd =>
    have henlarges := enlarges_of_addAliases (hnew rfl) hadd
    have hnot : lowered n ∉ r.targetNames := mt mem_targetNames.mp (hnew rfl)
    refine ⟨n, t, hname, rfl, fun m hm => ⟨?_, fun hsame _ => henlarges.find_self hsame⟩⟩
    obtain ⟨f, hfind⟩ := hr.exists_find hm
    refine ⟨f, hfind, ?_⟩
    rw [← hfind]
    by_cases hsame : lowered m = lowered n
    · exact iff_of_false (henlarges.find_self_ne hr hsame) fun himp => hnot (himp hsame)
    · exact iff_of_true (henlarges.find_of_ne hr hm hsame) fun heq => absurd heq hsame

/-- The name of a new target was an alias of the first one, whose other alias stays as it was. -/
theorem find_registerValues_sample :
    let r := performAll [Sample.first] {}
    ∃ r', r.registerValues (.text "EFCore") (.generator Sample.seven) (.list [.text "cs7"]) false
          = (none, r')
      ∧ r'.find "efcore" = .ok ("efcore", Sample.seven) ∧ r'.find "CS" = .ok ("csharp", .csharp) := by
  intro r
  have hregister : r.registerValues (.text "EFCore") (.generator Sample.seven)
      (.list [.text "cs7"]) false = (none, _) := rfl
  obtain ⟨n, t, hname, hoffer, hnames⟩ := find_registerValues hregister
  obtain rfl : "EFCore" = n := Except.ok.inj hname
  obtain rfl : Sample.seven = t := Offer.generator.inj hoffer
  have hlower : lowered "EFCore" = "efcore" := by decide
  have hnew : lowered "EFCore" ∉ r.targetNames := by
    rw [hlower, mem_targetNames]
    decide
  have htaken := (hnames "efcore" rfl).2 (by decide) hnew
  rw [hlower] at htaken
  obtain ⟨f, hfind, hkept⟩ := (hnames "CS" rfl).1
  obtain rfl : ("csharp", Target.csharp) = f := Except.ok.inj hfind
  exact ⟨_, hregister, htaken, hkept.mpr fun h => absurd h (by decide)⟩

/-- A registration that does not replace can still change what a name stands for. -/
theorem registerValues_takes_alias_sample :
    let r := performAll [Sample.first] {}
    ∃ r', r.registerValues (.text "EFCore") (.generator Sample.seven) .null false = (none, r')
      ∧ r.isSupported "efcore" = true
      ∧ r.find "efcore" = .ok ("csharp", .csharp)
      ∧ r'.find "efcore" = .ok ("efcore", Sample.seven) :=
  ⟨_, rfl, rfl, rfl, rfl⟩

end Calls

end EntityMapping.Registry
