import EntityMapping.Proofs.Assoc
import EntityMapping.Proofs.Generation.Accepted
import EntityMapping.Proofs.Generation.Step

/-!
# Coherent states of a run

A run can be asked for single steps and for whole runs, in any order, and each of them may fail
half-way.  `Coherent` holds after all of that: every artifact stands under its own name, the names
of the configured entities are those of the configurations, and the shared base comes first.  One
step keeps it, whether it fails or not (`Run.Coherent.of_step`), so every sequence of calls does
(`Run.coherent_performAll`).

A configuration may have the name of the shared base and then replaces it; its key is still the
first one, and no other configuration is touched, because the names of configurations never agree.

## Main definitions

* `Run.configurations` — the artifacts that configure entities, under their names.
* `Run.Coherent` — the invariant.
* `Run.Call`, `Run.performAll` — sequences of calls.

## Main results

* `Run.Coherent.of_step`, `Run.Coherent.frame_of_failed` — one step, and one that fails.
* `Run.performAll_invariant` — any sequence of calls.
-/

namespace EntityMapping.Run

/-- The artifacts that configure entities, under their names. -/
def configurations (st : Run) : List (Key × Artifact) :=
  st.artifacts.filter fun p => p.2.role = .entity

/-- An artifact stands under its own name, which is that of the shared base or is made of the name
of the entity that it configures. -/
def Placed (g : Generator) (p : Key × Artifact) : Prop :=
  p.1 = p.2.name ∧
    match p.2.role with
    | .sharedBase => g.baseName.toKey = .ok p.1
    | .entity => ∃ n, p.2.entityName = some n ∧ p.1 = .text (g.entityArtifactName n)

/-- What holds of a state whatever steps and runs, failed or not, led to it; `given` are the
candidates that they were about. -/
structure Coherent (g : Generator) (given : Candidate → Prop) (st : Run) : Prop where
  placed : ∀ p ∈ st.artifacts, Placed g p
  keys_nodup : (Assoc.keys st.artifacts).Nodup
  seen_perm : (st.configurations.map (·.2.entityName)).Perm (st.seen.map some)
  seen_nodup : st.seen.Nodup
  based : st.artifacts ≠ [] → st.baseGenerated = true
  first : st.baseGenerated = true →
    ∃ k, g.baseName.toKey = .ok k ∧ (Assoc.keys st.artifacts).head? = some k
  spaced : st.baseGenerated = true → ∃ c, given c ∧ st.baseNamespace = g.namespaceFor c

namespace Coherent

variable {g : Generator} {lines : Value} {given : Candidate → Prop} {st mid : Run}

theorem start (g : Generator) (given : Candidate → Prop) (notes : List Note) :
    Coherent g given { journal := notes } where
  placed _ hp := absurd hp List.not_mem_nil
  keys_nodup := List.nodup_nil
  seen_perm := .nil
  seen_nodup := List.nodup_nil
  based h := absurd rfl h
  first h := absurd h Bool.false_ne_true
  spaced h := absurd h Bool.false_ne_true

/-- Diagnostics and notes do not matter. -/
theorem of_eq {st' : Run} (h : Coherent g given st) (ha : st'.artifacts = st.artifacts)
    (hs : st'.seen = st.seen) (hb : st'.baseGenerated = st.baseGenerated)
    (hn : st'.baseNamespace = st.baseNamespace) : Coherent g given st' where
  placed := by rw [ha]; exact h.placed
  keys_nodup := by rw [ha]; exact h.keys_nodup
  seen_perm := by rw [configurations, ha, hs]; exact h.seen_perm
  seen_nodup := by rw [hs]; exact h.seen_nodup
  based := by rw [ha, hb]; exact h.based
  first := by rw [ha, hb]; exact h.first
  spaced := by rw [hb, hn]; exact h.spaced

theorem artifacts_eq_nil (h : Coherent g given st) (hb : st.baseGenerated = false) :
    st.artifacts = [] := by
  by_contra hne
  exact Bool.false_ne_true (hb.symm.trans (h.based hne))

/-- A name is seen just if a configuration is there for it. -/
theorem mem_seen (h : Coherent g given st) {n : String} :
    n ∈ st.seen ↔ ∃ p ∈ st.configurations, p.2.entityName = some n := by
  have hmem := h.seen_perm.mem_iff (a := some n)
  simpa using hmem.symm

theorem nodup_names_configurations (h : Coherent g given st) :
    (st.configurations.map (·.2.entityName)).Nodup :=
  h.seen_perm.nodup_iff.mpr
    (List.Pairwise.map some (fun _ _ hne heq => hne (Option.some.inj heq)) h.seen_nodup)

theorem entityName_ne_none (h : Coherent g given st) {p : Key × Artifact}
    (hp : p ∈ st.configurations) : p.2.entityName ≠ none := by
  intro hnone
  have hmem : p.2.entityName ∈ st.seen.map some :=
    h.seen_perm.mem_iff.mp (List.mem_map_of_mem hp)
  simp [hnone] at hmem

theorem length_configurations (h : Coherent g given st) :
    st.configurations.length = st.entityCount := by
  have hlength := h.seen_perm.length_eq
  rwa [List.length_map, List.length_map] at hlength

theorem baseGenerated_of_based {space : Value} (hb : Based g lines space st mid) :
    mid.baseGenerated = true := by
  cases hb with
  | kept hg => exact hg
  | made => rfl

theorem seen_of_based {space : Value} (hb : Based g lines space st mid) : mid.seen = st.seen := by
  cases hb <;> rfl

/-- Making the shared base replaces nothing, as there are no artifacts yet. -/
theorem of_based {c : Candidate} (h : Coherent g given st) (hc : given c)
    (hb : Based g lines (g.namespaceFor c) st mid) :
    Coherent g given mid ∧ mid.configurations = st.configurations := by
  cases hb with
  | kept => exact ⟨h, rfl⟩
  | made hg base hbase =>
    obtain ⟨hkey, hrole, -⟩ := g.baseArtifact_eq_ok hbase
    have hnil := h.artifacts_eq_nil hg
    have hartifacts : ((st.announce g lines).withBase base (g.namespaceFor c)).artifacts
        = [(base.name, base)] := by
      show Assoc.set base.name base st.artifacts = _
      rw [hnil]
      rfl
    have hconf : ((st.announce g lines).withBase base (g.namespaceFor c)).configurations
        = st.configurations := by
      simp [configurations, hartifacts, hnil, hrole]
    refine ⟨?_, hconf⟩
    exact {
      placed := by
        intro p hp
        rw [hartifacts] at hp
        obtain rfl := List.mem_singleton.mp hp
        exact ⟨rfl, by simpa [hrole] using hkey⟩
      keys_nodup := by
        rw [hartifacts]
        exact List.nodup_cons.mpr ⟨List.not_mem_nil, List.nodup_nil⟩
      seen_perm := by
        rw [hconf]
        exact h.seen_perm
      seen_nodup := h.seen_nodup
      based := fun _ => rfl
      first := fun _ => ⟨base.name, hkey, by rw [hartifacts]; rfl⟩
      spaced := fun _ => ⟨c, hc, rfl⟩ }

/-- A configuration for a new entity replaces no configuration. -/
theorem withEntity {reserved : List Key} {entity : EntityType} {a : Artifact}
    {space baseSpace : Value} {eligible : List Property} (h : Coherent g given mid)
    (hb : mid.baseGenerated = true) (hnew : entity.name ∉ mid.seen)
    (ha : g.entityArtifact entity space eligible baseSpace = .ok a) :
    Coherent g given (mid.withEntity reserved entity a) := by
  obtain ⟨hname, hrole, hentity, -⟩ := g.entityArtifact_eq_ok ha
  have hfree : ∀ w, (a.name, w) ∈ mid.artifacts → ¬(decide (w.role = .entity)) = true := by
    intro w hw hwr
    have hwrole : w.role = .entity := of_decide_eq_true hwr
    obtain ⟨-, hplaced⟩ := h.placed _ hw
    simp only [hwrole] at hplaced
    obtain ⟨n, hn, hkey⟩ := hplaced
    rw [hname] at hkey
    have heq : entity.name = n := g.entityArtifactName_inj.mp (Key.text.inj hkey)
    exact hnew (h.mem_seen.mpr ⟨(a.name, w), List.mem_filter.mpr ⟨hw, hwr⟩, heq ▸ hn⟩)
  have hperm := Assoc.filter_set_perm (fun b : Artifact => decide (b.role = .entity))
    (by simpa using hrole) hfree
  exact {
    placed := by
      intro p hp
      rcases Assoc.mem_of_mem_set hp with rfl | hp
      · refine ⟨rfl, ?_⟩
        simp only [hrole]
        exact ⟨entity.name, hentity, hname⟩
      · exact h.placed p hp
    keys_nodup := Assoc.nodup_keys_set _ _ h.keys_nodup
    seen_perm := by
      have hmap := hperm.map fun p : Key × Artifact => p.2.entityName
      simp only [List.map_cons, hentity] at hmap
      refine hmap.trans ((h.seen_perm.cons (some entity.name)).trans ?_)
      show List.Perm _ ((mid.seen ++ [entity.name]).map some)
      rw [List.map_append]
      exact (List.perm_append_singleton _ _).symm
    seen_nodup := (List.perm_append_singleton entity.name mid.seen).nodup_iff.mpr
      (List.nodup_cons.mpr ⟨hnew, h.seen_nodup⟩)
    based := fun _ => hb
    first := by
      intro hg
      obtain ⟨k, hk, hhead⟩ := h.first hb
      have hne : mid.artifacts ≠ [] := by
        rintro hnil
        simp [hnil, Assoc.keys] at hhead
      exact ⟨k, hk, (Assoc.head?_keys_set a.name a hne).trans hhead⟩
    spaced := fun _ => h.spaced hb }

/-- A step keeps the invariant, whether it fails or not. -/
theorem of_step {c : Candidate} {out : Except Failure (Option Artifact)} {st' : Run}
    (h : Coherent g given st) (hc : given c) (hs : Step g lines c st out st') :
    Coherent g given st' := by
  cases hs with
  | skipped reason hv => exact h.of_eq rfl rfl rfl rfl
  | baseFailed entity e hv hb he => exact h.of_eq rfl rfl rfl rfl
  | namesFailed entity mid e hv hb he => exact (h.of_based hc hb).1
  | textFailed entity mid reserved e hv hb hr he =>
    exact (h.of_based hc hb).1.of_eq rfl rfl rfl rfl
  | configured entity mid reserved a hv hb hr ha =>
    have hmid : Coherent g given (mid.report reserved entity) :=
      (h.of_based hc hb).1.of_eq rfl rfl rfl rfl
    have hbase : mid.baseGenerated = true := baseGenerated_of_based hb
    have hnew : entity.name ∉ mid.seen := by
      rw [seen_of_based hb]
      exact (Candidate.verdict_eq_accept.mp hv).2
    exact hmid.withEntity hbase hnew ha

/-- A step that fails configures nothing and disturbs no configuration, so that its candidate can be
tried again. -/
theorem frame_of_failed {c : Candidate} {e : Failure} {st' : Run} (h : Coherent g given st)
    (hc : given c) (hs : Step g lines c st (.error e) st') :
    st'.seen = st.seen ∧ st'.configurations = st.configurations
      ∧ ∃ entity, c.verdict st'.seen = .accept entity := by
  cases hs with
  | baseFailed entity _ hv hb he => exact ⟨rfl, rfl, entity, hv⟩
  | namesFailed entity _ _ hv hb he =>
    have hseen := seen_of_based hb
    exact ⟨hseen, (h.of_based hc hb).2, entity, by rwa [hseen]⟩
  | textFailed entity mid reserved _ hv hb hr he =>
    have hseen := seen_of_based hb
    exact ⟨hseen, (h.of_based hc hb).2, entity, by rwa [← hseen] at hv⟩

theorem of_processAll (lines : Value) {cs : List Candidate} (h : Coherent g given st)
    (hcs : ∀ c ∈ cs, given c) :
    Coherent g given (processAll g lines cs st).2 := by
  induction cs generalizing st with
  | nil => exact h
  | cons c cs ih =>
    have hstep := h.of_step (hcs c List.mem_cons_self) (step_process g lines c st)
    unfold processAll
    rcases hp : process g lines c st with ⟨_ | a, mid⟩
    · rw [hp] at hstep
      exact hstep
    · rw [hp] at hstep
      exact ih hstep fun d hd => hcs d (List.mem_cons_of_mem _ hd)

/-- Whatever the state before, a run ends in a coherent one. -/
theorem of_run {cs : List Candidate} (hcs : ∀ c ∈ cs, given c) (st : Run) :
    Coherent g given (run g lines cs st).2 := by
  have hall := (start g given st.journal).of_processAll lines hcs
  rcases run_cases g lines cs st with ⟨e, mid, hp, hrun⟩ | ⟨mid, hp, hrun⟩
  · rw [hp] at hall
    rw [hrun]
    exact hall
  · rw [hp] at hall
    rw [hrun]
    exact hall.of_eq rfl rfl rfl rfl

end Coherent

theorem coherent_of_run {g : Generator} {lines : Value} {cs : List Candidate} {st st' : Run}
    {out : Except Failure (List (Key × Artifact))} (h : run g lines cs st = (out, st')) :
    Coherent g (· ∈ cs) st' := by
  have hafter : Coherent g (· ∈ cs) (run g lines cs st).2 := .of_run (fun _ hc => hc) st
  rwa [h] at hafter

/-! ### Sequences of calls -/

/-- What a caller can ask of a run. -/
inductive Call where
  /-- A whole run over candidates. -/
  | run (cs : List Candidate)
  /-- The single step for a candidate. -/
  | process (c : Candidate)

namespace Call

/-- The candidates that a call is about. -/
def candidates : Call → List Candidate
  | run cs => cs
  | process c => [c]

/-- The state after a call, also if it fails. -/
def perform (g : Generator) (lines : Value) (st : Run) : Call → Run
  | run cs => (Run.run g lines cs st).2
  | process c => (Run.process g lines c st).2

end Call

/-- The state after calls in order, whether they fail or not. -/
def performAll (g : Generator) (lines : Value) (calls : List Call) (st : Run) : Run :=
  calls.foldl (Call.perform g lines) st

section Calls

variable {g : Generator} {lines : Value} {given : Candidate → Prop}

theorem Coherent.of_perform {st : Run} {call : Call} (h : Coherent g given st)
    (hcs : ∀ c ∈ call.candidates, given c) : Coherent g given (call.perform g lines st) := by
  cases call with
  | run cs => exact of_run hcs st
  | process c => exact h.of_step (hcs c List.mem_cons_self) (step_process g lines c st)

theorem coherent_performAll {calls : List Call} {st : Run} (h : Coherent g given st)
    (hcs : ∀ c ∈ calls.flatMap Call.candidates, given c) :
    Coherent g given (performAll g lines calls st) := by
  induction calls generalizing st with
  | nil => exact h
  | cons call calls ih =>
    rw [List.flatMap_cons] at hcs
    exact ih (h.of_perform fun c hc => hcs c (List.mem_append_left _ hc))
      fun c hc => hcs c (List.mem_append_right _ hc)

/-- The namespace for a candidate that is declared in one is not null. -/
theorem namespaceFor_ne_null {c : Candidate} (h : c.namespaceName ≠ none) :
    g.namespaceFor c ≠ .null := by
  obtain ⟨space, hspace⟩ := Option.ne_none_iff_exists'.mp h
  unfold Generator.namespaceFor Value.orElse
  rw [hspace]
  split
  · rename_i htruthy
    rintro hnull
    rw [hnull] at htruthy
    cases htruthy
  · exact Value.noConfusion

/-- What holds after any calls in any order, whichever of them failed: artifacts stand under their
names, the configured entities are those of the configurations, each with one, the shared base is
there and comes first, and one more step that fails leaves all configurations as they are and can be
tried again. -/
theorem performAll_invariant (g : Generator) (lines : Value) (calls : List Call) :
    let st := performAll g lines calls {}
    (∀ p ∈ st.artifacts, p.1 = p.2.name)
      ∧ ((∀ n, n ∈ st.seen ↔ ∃ p ∈ st.configurations, p.2.entityName = some n)
        ∧ (∀ p ∈ st.configurations, p.2.entityName ≠ none)
        ∧ st.configurations.Pairwise (fun p q => p.2.entityName ≠ q.2.entityName)
        ∧ st.entityCount = st.configurations.length)
      ∧ ((st.artifacts ≠ [] → st.baseGenerated = true)
        ∧ (st.baseGenerated = true →
          (∃ c ∈ calls.flatMap Call.candidates, st.baseNamespace = g.namespaceFor c
            ∧ (c.namespaceName ≠ none → st.baseNamespace ≠ .null))
          ∧ ∃ k, g.baseName.toKey = .ok k ∧ (Assoc.keys st.artifacts).head? = some k))
      ∧ ∀ c e st', process g lines c st = (.error e, st') →
        st'.seen = st.seen ∧ st'.configurations = st.configurations
          ∧ ∃ entity, c.verdict st'.seen = .accept entity := by
  intro st
  have h : Coherent g (· ∈ calls.flatMap Call.candidates) st :=
    coherent_performAll (Coherent.start g _ []) fun _ hc => hc
  refine ⟨fun p hp => (h.placed p hp).1, ⟨fun n => h.mem_seen, ?_, ?_, ?_⟩,
    ⟨h.based, fun hg => ⟨?_, h.first hg⟩⟩, ?_⟩
  · exact fun p hp => h.entityName_ne_none hp
  · exact List.pairwise_map.mp h.nodup_names_configurations
  · exact h.length_configurations.symm
  · obtain ⟨c, hc, hspace⟩ := h.spaced hg
    exact ⟨c, hc, hspace, fun hne => hspace ▸ namespaceFor_ne_null hne⟩
  · intro c e st' hfail
    have hany : Coherent g (fun _ => True) st :=
      coherent_performAll (Coherent.start g _ []) fun _ _ => trivial
    have hstep := step_process g lines c st
    rw [hfail] at hstep
    exact hany.frame_of_failed trivial hstep

end Calls

end EntityMapping.Run
