import EntityMapping.Proofs.Registry.Ownership

/-!
# Targets that are removed again

A registration under a new name only adds: the target, and aliases of that target.  Removing the
target takes just these away, as no alias belonged to it before.  So a registration and a removal
give back the registry with all its entries in their places, wherever among the aliases the
registration ended (`unregister_registerValues_iff`).

## Main results

* `Enlarges.unregister_eq` — removing a further target gives back the registry before.
* `unregister_registerValues_iff` — registering and removing, after any calls.
-/

namespace EntityMapping.Registry

open Text

variable {r r' : Registry} {n : String}

/-- No alias belongs to what is no target. -/
theorem Owned.filter_aliases (h : r.Owned) (hnew : lowered n ∉ Assoc.keys r.targets) :
    (r.aliases.filter fun f => f.2 ≠ lowered n) = r.aliases := by
  refine List.filter_eq_self.mpr fun f hf => decide_eq_true ?_
  intro howner
  exact hnew (howner ▸ h.owner f hf)

theorem Owned.unregister_of_notMem (h : r.Owned) (hnew : lowered n ∉ Assoc.keys r.targets) :
    r.unregister n = r := by
  rw [unregister, Assoc.erase_of_notMem hnew, h.filter_aliases hnew]

/-- Removing a further target takes it away with all aliases that came with it. -/
theorem Enlarges.unregister_eq {t : Target} (h : r.Enlarges (lowered n) t r') (hr : r.Owned) :
    r'.unregister n = r := by
  obtain ⟨added, hadded, howner⟩ := h.aliases
  have hgone : (added.filter fun f => f.2 ≠ lowered n) = [] := by
    refine List.filter_eq_nil_iff.mpr fun f hf => ?_
    simp [howner f hf]
  have haliases : (r'.aliases.filter fun f => f.2 ≠ lowered n) = r.aliases := by
    rw [hadded, List.filter_append, hgone, List.append_nil, hr.filter_aliases h.new]
  rw [unregister, h.targets, Assoc.erase_set_of_notMem t h.new, haliases]

/-- Whatever a registration under a new name did, removing the target undoes it. -/
theorem Owned.unregister_of_registration {aliases : Value} {offer : Offer} {e : Option Failure}
    (h : r.Owned) (hnew : lowered n ∉ Assoc.keys r.targets)
    (hr : Registration r (.text n) aliases offer false e r') : r'.unregister n = r := by
  cases hr with
  | notGenerator => exact h.unregister_of_notMem hnew
  | notName => exact h.unregister_of_notMem hnew
  | kept => exact h.unregister_of_notMem hnew
  | aliasTaken t m e after hname hfresh hadd =>
    obtain rfl : n = m := Except.ok.inj hname
    exact (enlarges_of_addAliases hnew hadd).unregister_eq h
  | registered t m _ after hname hfresh hadd =>
    obtain rfl : n = m := Except.ok.inj hname
    exact (enlarges_of_addAliases hnew hadd).unregister_eq h

/-- After any calls, registering something under a name without replacing and then removing that
name gives back the registry just if the name was no target.  The registration may fail, at any of
the aliases or before them. -/
theorem unregister_registerValues_iff (calls : List Call) (n : String) (offer : Offer)
    (aliases : Value) :
    let r := performAll calls {}
    (r.registerValues (.text n) offer aliases false).2.unregister n = r
      ↔ lowered n ∉ r.targetNames := by
  intro r
  have hr : r.Owned := owned_performAll calls
  rw [mem_targetNames]
  constructor
  · -- A name that was a target is none after its removal.
    intro hback hold
    have hmem : lowered n ∈ Assoc.keys
        ((r.registerValues (.text n) offer aliases false).2.unregister n).targets := by
      rwa [hback]
    exact (Assoc.mem_keys_erase.mp hmem).1 rfl
  · intro hnew
    exact hr.unregister_of_registration hnew
      (registration_registerValues r (.text n) offer aliases false)

end EntityMapping.Registry
