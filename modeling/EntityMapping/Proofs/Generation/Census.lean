import EntityMapping.Proofs.Generation.Coherence
import EntityMapping.Proofs.Generation.Refinement
import Mathlib.Data.List.Count
import Mathlib.Data.List.Dedup

/-!
# The artifacts of a run, counted

A run that accepts a candidate makes one shared base and one configuration for each name that is
requested.  The configurations are all there at the end, as their names never agree.  The shared
base is there as well unless a configuration has its name: that one is stored later and replaces it
(`Run.run_counts`).

## Main definitions

* `Generator.TakesBaseName` — the configuration of an entity has the name of the shared base.
* `Run.sharedBases` — the shared bases among the artifacts.

## Main results

* `Run.Coherent.length_sharedBases` — there is one shared base, or none if it was replaced.
* `Run.run_counts` — the artifacts of a run, counted by their roles.
-/

namespace EntityMapping

/-- The configuration of an entity of the name has the name of the shared base. -/
def Generator.TakesBaseName (g : Generator) (n : String) : Prop :=
  g.settings.baseClassName = .text (g.entityArtifactName n)

namespace Run

/-- The shared bases among the artifacts, under their names. -/
def sharedBases (st : Run) : List (Key × Artifact) :=
  st.artifacts.filter fun p => p.2.role = .sharedBase

theorem length_artifacts (st : Run) :
    st.artifacts.length = st.sharedBases.length + st.configurations.length := by
  rw [List.length_eq_countP_add_countP (fun p : Key × Artifact => p.2.role = .sharedBase),
    sharedBases, configurations, ← List.countP_eq_length_filter, ← List.countP_eq_length_filter]
  congr 2
  funext p
  cases p.2.role <;> rfl

namespace Coherent

variable {g : Generator} {given : Candidate → Prop} {st : Run}

theorem eq_of_key_eq (h : Coherent g given st) {p q : Key × Artifact} (hp : p ∈ st.artifacts)
    (hq : q ∈ st.artifacts) (hk : p.1 = q.1) : p = q :=
  List.inj_on_of_nodup_map h.keys_nodup hp hq hk

theorem key_of_mem_sharedBases (h : Coherent g given st) {p : Key × Artifact}
    (hp : p ∈ st.sharedBases) : g.baseName.toKey = .ok p.1 := by
  obtain ⟨hmem, hrole⟩ := List.mem_filter.mp hp
  have hplaced := (h.placed p hmem).2
  rwa [of_decide_eq_true hrole] at hplaced

theorem length_sharedBases_le_one (h : Coherent g given st) : st.sharedBases.length ≤ 1 := by
  have hnodup : (Assoc.keys st.sharedBases).Nodup :=
    h.keys_nodup.sublist (List.filter_sublist.map _)
  have hkey : ∀ p ∈ st.sharedBases, g.baseName.toKey = .ok p.1 :=
    fun p hp => h.key_of_mem_sharedBases hp
  rcases hb : st.sharedBases with _ | ⟨p, _ | ⟨q, r⟩⟩
  · exact Nat.zero_le 1
  · exact Nat.le_refl 1
  · -- Two shared bases would stand under the same key.
    rw [hb] at hnodup hkey
    have hp := hkey p List.mem_cons_self
    have hq := hkey q (List.mem_cons_of_mem _ List.mem_cons_self)
    have hpq : p.1 = q.1 := Except.ok.inj (hp.symm.trans hq)
    have hne : p.1 ∉ Assoc.keys (q :: r) := (List.nodup_cons.mp hnodup).1
    exact absurd (hpq ▸ List.mem_cons_self) hne

/-- A configuration with the name of the shared base has replaced it. -/
theorem sharedBases_eq_nil (h : Coherent g given st) {n : String} (hn : n ∈ st.seen)
    (ht : g.TakesBaseName n) : st.sharedBases = [] := by
  obtain ⟨p, hp, hentity⟩ := h.mem_seen.mp hn
  obtain ⟨hmem, hrole⟩ := List.mem_filter.mp hp
  obtain ⟨-, hplaced⟩ := h.placed p hmem
  rw [of_decide_eq_true hrole] at hplaced
  obtain ⟨m, hm, hkey⟩ := hplaced
  obtain rfl : m = n := Option.some.inj (hm.symm.trans hentity)
  refine List.eq_nil_iff_forall_not_mem.mpr fun q hq => ?_
  have hqkey : q.1 = .text (g.entityArtifactName m) := by
    have := h.key_of_mem_sharedBases hq
    rw [Generator.baseName, ht] at this
    exact (Except.ok.inj this).symm
  obtain ⟨hqmem, hqrole⟩ := List.mem_filter.mp hq
  obtain rfl := h.eq_of_key_eq hqmem hmem (hqkey.trans hkey.symm)
  have hrole' := of_decide_eq_true hqrole
  rw [of_decide_eq_true hrole] at hrole'
  cases hrole'

/-- The first artifact is the shared base where no configuration has its name. -/
theorem sharedBases_ne_nil (h : Coherent g given st) (hg : st.baseGenerated = true)
    (ht : ∀ n ∈ st.seen, ¬g.TakesBaseName n) : st.sharedBases ≠ [] := by
  obtain ⟨k, hk, hhead⟩ := h.first hg
  obtain ⟨p, r, hp⟩ : ∃ p r, st.artifacts = p :: r := by
    refine List.exists_cons_of_ne_nil ?_
    rintro hnil
    simp [hnil, Assoc.keys] at hhead
  have hmem : p ∈ st.artifacts := hp ▸ List.mem_cons_self
  obtain rfl : p.1 = k := by
    rw [hp] at hhead
    exact Option.some.inj hhead
  refine List.ne_nil_of_mem (a := p) (List.mem_filter.mpr ⟨hmem, ?_⟩)
  obtain ⟨-, hplaced⟩ := h.placed p hmem
  cases hrole : p.2.role with
  | sharedBase => rfl
  | entity =>
    rw [hrole] at hplaced
    obtain ⟨n, hn, hkey⟩ := hplaced
    have hseen : n ∈ st.seen :=
      h.mem_seen.mpr ⟨p, List.mem_filter.mpr ⟨hmem, decide_eq_true hrole⟩, hn⟩
    exact absurd (Value.toKey_eq_text.mp (hkey ▸ hk)) (ht n hseen)

/-- There is one shared base just if no configuration has its name. -/
theorem length_sharedBases (h : Coherent g given st) (hg : st.baseGenerated = true) :
    st.sharedBases.length = 1 ∧ (∀ n ∈ st.seen, ¬g.TakesBaseName n)
      ∨ st.sharedBases.length = 0 ∧ ∃ n ∈ st.seen, g.TakesBaseName n := by
  by_cases ht : ∃ n ∈ st.seen, g.TakesBaseName n
  · obtain ⟨n, hn, htakes⟩ := ht
    exact Or.inr ⟨List.length_eq_zero_iff.mpr (h.sharedBases_eq_nil hn htakes), n, hn, htakes⟩
  · have hfree : ∀ n ∈ st.seen, ¬g.TakesBaseName n := fun n hn htakes => ht ⟨n, hn, htakes⟩
    have hpos := List.length_pos_iff.mpr (h.sharedBases_ne_nil hg hfree)
    exact Or.inl ⟨Nat.le_antisymm h.length_sharedBases_le_one hpos, hfree⟩

/-- Every configured entity has one configuration. -/
theorem countP_configurations (h : Coherent g given st) (n : String) :
    (st.artifacts.countP fun p => p.2.role = .entity ∧ p.2.entityName = some n)
      = if n ∈ st.seen then 1 else 0 := by
  have hcount := h.seen_perm.count_eq (some n)
  rw [List.count_map_of_injective _ _ (fun _ _ => Option.some.inj), h.seen_nodup.count] at hcount
  rw [← hcount, List.count, List.countP_map, configurations, List.countP_filter]
  refine List.countP_congr fun p _ => ?_
  simp [and_comm]

end Coherent

section WholeRuns

variable {g : Generator} {lines : Value} {cs : List Candidate} {st st' : Run}
  {artifacts : List (Key × Artifact)}

theorem mem_seen_of_run (h : run g lines cs st = (.ok artifacts, st')) {n : String} :
    n ∈ st'.seen ↔ n ∈ requestedNames cs := by
  rw [(reached_of_run h).2.seen, mem_acceptedNames]

theorem entityCount_of_run (h : run g lines cs st = (.ok artifacts, st')) :
    st'.entityCount = (requestedNames cs).dedup.length := by
  have hnodup : st'.seen.Nodup := (coherent_of_run h).seen_nodup
  refine List.Perm.length_eq ((List.perm_ext_iff_of_nodup hnodup (List.nodup_dedup _)).mpr ?_)
  intro n
  rw [mem_seen_of_run h, List.mem_dedup]

/-- A run that accepts a candidate leaves one shared base, or none if a configuration has its
name. -/
theorem length_sharedBases_of_run (h : run g lines cs st = (.ok artifacts, st'))
    (hsome : requestedNames cs ≠ []) :
    st'.sharedBases.length = 1 ∧ (∀ n ∈ requestedNames cs, ¬g.TakesBaseName n)
      ∨ st'.sharedBases.length = 0 ∧ ∃ n ∈ requestedNames cs, g.TakesBaseName n := by
  have hg : st'.baseGenerated = true :=
    (reached_of_run h).2.baseGenerated_iff.mpr (mt accepted_eq_nil_iff.mp hsome)
  simpa only [mem_seen_of_run h] using (coherent_of_run h).length_sharedBases hg

/-- A run without accepted candidates gives nothing.  Any other gives one configuration for each
requested name, and besides them the shared base, just if no configuration has its name; one that
has replaces it. -/
theorem run_counts (h : (run g lines cs st).1 = .ok artifacts) :
    let bases := artifacts.countP fun p => p.2.role = .sharedBase
    let count := (run g lines cs st).2.entityCount
    (requestedNames cs = [] → artifacts = [])
      ∧ (∀ n, (artifacts.countP fun p => p.2.role = .entity ∧ p.2.entityName = some n)
        = if n ∈ requestedNames cs then 1 else 0)
      ∧ count = (requestedNames cs).dedup.length
      ∧ (requestedNames cs ≠ [] →
        (bases = 1 ∧ artifacts.length = 1 + count ↔ ∀ n ∈ requestedNames cs, ¬g.TakesBaseName n)
          ∧ ((∃ n ∈ requestedNames cs, g.TakesBaseName n) →
            bases = 0 ∧ artifacts.length = count)) := by
  intro bases count
  have hrun : run g lines cs st = (.ok artifacts, (run g lines cs st).2) := Prod.ext h rfl
  have hc := coherent_of_run hrun
  obtain ⟨hartifacts, hreached⟩ := reached_of_run hrun
  have hbases : bases = (run g lines cs st).2.sharedBases.length := by
    rw [sharedBases, ← List.countP_eq_length_filter, hartifacts]
  have hlength : artifacts.length = bases + count := by
    rw [hbases, ← hartifacts, length_artifacts, hc.length_configurations]
  refine ⟨?_, ?_, entityCount_of_run hrun, ?_⟩
  · intro hnone
    rw [← hartifacts]
    refine hc.artifacts_eq_nil ?_
    rw [hreached.baseGenerated, accepted_eq_nil_iff.mpr hnone]
    rfl
  · intro n
    rw [← hartifacts, hc.countP_configurations, if_congr (mem_seen_of_run hrun) rfl rfl]
  · intro hsome
    rcases length_sharedBases_of_run hrun hsome with ⟨hone, hfree⟩ | ⟨hzero, n, hn, htakes⟩
    · refine ⟨iff_of_true ?_ hfree, ?_⟩
      · omega
      · rintro ⟨n, hn, htakes⟩
        exact absurd htakes (hfree n hn)
    · refine ⟨iff_of_false ?_ fun hfree => hfree n hn htakes, fun _ => ?_⟩
      · rintro ⟨hone, -⟩
        omega
      · omega

end WholeRuns

namespace Shop

/-- A generator whose shared base has the name of the configuration of the users. -/
def clashing : Generator := .bundled .csharp { baseClassName := .text "UserCommonConfiguration" }

end Shop

set_option maxRecDepth 4000 in
/-- The shop gets its shared base and two configurations. -/
theorem run_counts_shop :
    ∃ artifacts, (run Shop.generator .null Shop.candidates Shop.leftover).1 = .ok artifacts
      ∧ (artifacts.countP fun p => p.2.role = .sharedBase) = 1 ∧ artifacts.length = 3 := by
  obtain ⟨artifacts, hrun⟩ := exists_eq_ok
    (by decide : (run Shop.generator .null Shop.candidates Shop.leftover).1.toOption.isSome = true)
  have hnames : requestedNames Shop.candidates = ["User", "User", "Order"] := by decide
  obtain ⟨-, -, hcount, hcounts⟩ := run_counts hrun
  rw [hnames] at hcount hcounts
  have hfree : ∀ n ∈ ["User", "User", "Order"], ¬Shop.generator.TakesBaseName n := by
    intro n hn htakes
    have hn' : n = "User" ∨ n = "Order" := by simpa using hn
    rcases hn' with rfl | rfl
    · exact absurd (Value.text.inj htakes) (by decide)
    · exact absurd (Value.text.inj htakes) (by decide)
  obtain ⟨hone, hlength⟩ := (hcounts (by decide)).1.mpr hfree
  refine ⟨artifacts, hrun, hone, ?_⟩
  rw [hlength, hcount]
  decide

set_option maxRecDepth 4000 in
/-- With the clashing name the run succeeds as well, but the shared base is lost. -/
theorem run_loses_sharedBase_shop :
    requestedNames Shop.candidates ≠ []
      ∧ ∃ artifacts, (run Shop.clashing .null Shop.candidates {}).1 = .ok artifacts
        ∧ ¬((artifacts.countP fun p => p.2.role = .sharedBase) = 1
          ∧ artifacts.length = 1 + (run Shop.clashing .null Shop.candidates {}).2.entityCount) := by
  refine ⟨by decide, ?_⟩
  have hbases : (run Shop.clashing .null Shop.candidates {}).1.toOption.map
      (fun artifacts => artifacts.countP fun p => p.2.role = .sharedBase) = some 0 := by
    decide
  obtain ⟨artifacts, hrun⟩ := exists_eq_ok
    (by decide : (run Shop.clashing .null Shop.candidates {}).1.toOption.isSome = true)
  rw [hrun] at hbases
  have hzero := Option.some.inj hbases
  refine ⟨artifacts, hrun, ?_⟩
  rintro ⟨hone, -⟩
  exact absurd (hone.symm.trans hzero) (by decide)

end Run

end EntityMapping
