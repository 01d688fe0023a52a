import EntityMapping.Proofs.Generation.Census
import Mathlib.Data.List.Perm.Basic

/-!
# The order of candidates

The first accepted candidate brings the shared base, and of several candidates for one entity the
first one counts, so the order of candidates can matter.  It does not where candidates agree
(`Generator.Agree`): all configurations stand in one namespace, candidates for entities of one name
know the same entity, and no configuration has the name of the shared base.

What is due then depends on the entities that are requested (`Generator.Agree.due_eq`), and those
are the same ones for every order of the candidates (`Generator.Agree.entities_perm`).  So if a run
succeeds for one order, it does for every order, with the same artifacts under the same names
(`Run.run_perm`).

## Main definitions

* `acceptedEntities` — the entities that get a configuration.
* `Generator.Agree` — the candidates agree.
* `Generator.dueFor` — what is due for entities in one namespace.

## Main results

* `Generator.Agree.due_eq`, `Generator.Agree.due_perm` — what is due, and its order.
* `Run.run_perm` — runs over candidates in another order.
-/

namespace EntityMapping

theorem mem_requestedNames {cs : List Candidate} {n : String} :
    n ∈ requestedNames cs ↔ ∃ c ∈ cs, ∃ entity, c.requested? = some entity ∧ entity.name = n := by
  simp only [requestedNames, List.mem_filterMap, Option.map_eq_some_iff]

theorem requestedNames_perm {cs ds : List Candidate} (h : cs.Perm ds) :
    (requestedNames cs).Perm (requestedNames ds) := h.filterMap _

/-- An accepted candidate is one of the list, and requests its entity. -/
theorem of_mem_accepted {cs : List Candidate} {p : Candidate × EntityType} (h : p ∈ accepted cs) :
    p.1 ∈ cs ∧ p.1.requested? = some p.2 := by
  induction cs using List.reverseRecOn with
  | nil => cases h
  | append_singleton cs c ih =>
    rw [accepted_concat, List.mem_append] at h
    rcases h with h | h
    · obtain ⟨hmem, hrequested⟩ := ih h
      exact ⟨List.mem_append_left _ hmem, hrequested⟩
    · obtain ⟨entity, hnew, rfl⟩ : ∃ entity, newEntity? cs c = some entity ∧ (c, entity) = p := by
        simpa using h
      exact ⟨List.mem_append_right _ (List.mem_singleton.mpr rfl), (newEntity?_eq_some.mp hnew).1⟩

/-- The entities that get a configuration, in order. -/
def acceptedEntities (cs : List Candidate) : List EntityType := (accepted cs).map (·.2)

theorem nodup_acceptedEntities (cs : List Candidate) : (acceptedEntities cs).Nodup := by
  refine List.Nodup.of_map EntityType.name ?_
  rw [acceptedEntities, List.map_map]
  exact nodup_acceptedNames cs

namespace Generator

variable {g : Generator} {lines : Value} {cs ds : List Candidate}

/-- The candidates agree on what a generator makes for them. -/
structure Agree (g : Generator) (cs : List Candidate) : Prop where
  /-- The settings name one namespace for all, or the candidates that request a configuration are
  declared in one. -/
  space : (∃ s, s ≠ "" ∧ g.settings.namespaceName = .text s)
    ∨ ∀ c ∈ cs, ∀ d ∈ cs, c.requested?.isSome → d.requested?.isSome →
      c.namespaceName = d.namespaceName
  /-- Candidates that request entities of one name know the same entity. -/
  entity : ∀ c ∈ cs, ∀ d ∈ cs, ∀ e f, c.requested? = some e → d.requested? = some f →
    e.name = f.name → e = f
  /-- No configuration has the name of the shared base. -/
  free : ∀ n ∈ requestedNames cs, ¬g.TakesBaseName n

/-- The configuration of an entity that stands next to the shared base. -/
def configurationIn (g : Generator) (space : Value) (entity : EntityType) :
    Except Failure Artifact := do
  let reserved ← reservedNames g.settings.auditFieldNames
  g.entityArtifact entity space (classify reserved entity.properties).eligible space

/-- What is due for entities whose configurations all stand in one namespace. -/
def dueFor (g : Generator) (lines space : Value) :
    List EntityType → List (Except Failure Artifact)
  | [] => []
  | e :: r => g.baseArtifact lines space :: (e :: r).map (g.configurationIn space)

theorem dueFor_perm {es fs : List EntityType} (h : es.Perm fs) (space : Value) :
    (g.dueFor lines space es).Perm (g.dueFor lines space fs) := by
  cases es with
  | nil => rw [List.nil_perm.mp h]
  | cons e r =>
    cases fs with
    | nil => exact absurd h.length_eq (Nat.succ_ne_zero _)
    | cons f s => exact (h.map _).cons _

namespace Agree

theorem perm (h : g.Agree cs) (hperm : cs.Perm ds) : g.Agree ds where
  space := by
    refine h.space.imp_right fun hall c hc d hd => ?_
    exact hall c (hperm.mem_iff.mpr hc) d (hperm.mem_iff.mpr hd)
  entity c hc d hd := h.entity c (hperm.mem_iff.mpr hc) d (hperm.mem_iff.mpr hd)
  free n hn := h.free n ((requestedNames_perm hperm).mem_iff.mpr hn)

/-- All configurations stand in one namespace. -/
theorem exists_space (h : g.Agree cs) :
    ∃ space, ∀ c ∈ cs, c.requested?.isSome → g.namespaceFor c = space := by
  rcases h.space with ⟨s, hs, hsettings⟩ | hall
  · refine ⟨.text s, fun c _ _ => ?_⟩
    have htruthy : (Value.text s).truthy = true := bne_iff_ne.mpr hs
    rw [namespaceFor, hsettings, Value.orElse, if_pos htruthy]
  · by_cases hsome : ∃ c ∈ cs, c.requested?.isSome
    · obtain ⟨d, hd, hrequested⟩ := hsome
      refine ⟨g.namespaceFor d, fun c hc hc' => ?_⟩
      rw [namespaceFor, namespaceFor, hall c hc d hd hc' hrequested]
    · exact ⟨.null, fun c hc hc' => absurd ⟨c, hc, hc'⟩ hsome⟩

/-- The entities that get a configuration are those that are requested. -/
theorem mem_acceptedEntities (h : g.Agree cs) {e : EntityType} :
    e ∈ acceptedEntities cs ↔ ∃ c ∈ cs, c.requested? = some e := by
  constructor
  · intro hmem
    obtain ⟨p, hp, rfl⟩ := List.mem_map.mp hmem
    exact ⟨p.1, of_mem_accepted hp⟩
  · rintro ⟨c, hc, hrequested⟩
    have hname : e.name ∈ acceptedNames cs :=
      mem_acceptedNames.mpr (mem_requestedNames.mpr ⟨c, hc, e, hrequested, rfl⟩)
    obtain ⟨p, hp, hsame⟩ := List.mem_map.mp hname
    obtain ⟨hmem, hp'⟩ := of_mem_accepted hp
    obtain rfl := h.entity p.1 hmem c hc p.2 e hp' hrequested hsame
    exact List.mem_map_of_mem hp

/-- In another order the same entities get a configuration. -/
theorem entities_perm (h : g.Agree cs) (hperm : cs.Perm ds) :
    (acceptedEntities cs).Perm (acceptedEntities ds) := by
  refine (List.perm_ext_iff_of_nodup (nodup_acceptedEntities cs) (nodup_acceptedEntities ds)).mpr ?_
  intro e
  rw [h.mem_acceptedEntities, (h.perm hperm).mem_acceptedEntities]
  exact exists_congr fun c => and_congr_left fun _ => hperm.mem_iff

/-- What is due depends on the entities alone. -/
theorem due_eq {space : Value}
    (hspace : ∀ c ∈ cs, c.requested?.isSome → g.namespaceFor c = space) :
    g.due lines cs = g.dueFor lines space (acceptedEntities cs) := by
  have hsame : ∀ p ∈ accepted cs, g.namespaceFor p.1 = space := by
    intro p hp
    obtain ⟨hmem, hrequested⟩ := of_mem_accepted hp
    exact hspace p.1 hmem (by rw [hrequested]; rfl)
  have hconf : (accepted cs).map (g.configuration space)
      = (acceptedEntities cs).map (g.configurationIn space) := by
    rw [acceptedEntities, List.map_map]
    refine List.map_congr_left fun p hp => ?_
    rw [Function.comp_apply, configuration, configurationIn, hsame p hp]
  unfold due acceptedEntities at *
  cases haccepted : accepted cs with
  | nil => rfl
  | cons p r =>
    rw [haccepted] at hsame hconf
    show g.baseArtifact lines (g.namespaceFor p.1)
        :: (p :: r).map (g.configuration (g.namespaceFor p.1)) = _
    rw [hsame p List.mem_cons_self, hconf]
    rfl

/-- In another order the same things are due. -/
theorem due_perm (h : g.Agree cs) (hperm : cs.Perm ds) :
    (g.due lines cs).Perm (g.due lines ds) := by
  obtain ⟨space, hspace⟩ := h.exists_space
  rw [due_eq hspace, due_eq fun c hc => hspace c (hperm.mem_iff.mpr hc)]
  exact dueFor_perm (h.entities_perm hperm) space

end Agree

end Generator

namespace Run

variable {g : Generator} {lines : Value} {cs ds : List Candidate} {st : Run}
  {artifacts : List (Key × Artifact)}

/-- A run that succeeds gives everything due under its name. -/
theorem exists_due_of_run (h : (run g lines cs st).1 = .ok artifacts) :
    ∃ as : List Artifact, g.due lines cs = as.map .ok ∧ artifacts = byName as := by
  rw [run_fst] at h
  cases hs : g.specified lines cs with
  | error e =>
    rw [hs] at h
    cases h
  | ok as =>
    rw [hs] at h
    exact ⟨as, sequence_eq_ok.mp hs, (Except.ok.inj h).symm⟩

theorem run_eq_ok_of_due {as : List Artifact} (h : g.due lines cs = as.map .ok) (st : Run) :
    (run g lines cs st).1 = .ok (byName as) := by
  rw [run_fst, Generator.specified, sequence_eq_ok.mpr h]
  rfl

theorem entityCount_perm {st' : Run} {artifacts' : List (Key × Artifact)} (hperm : cs.Perm ds)
    (h : (run g lines cs st).1 = .ok artifacts) (h' : (run g lines ds st').1 = .ok artifacts') :
    (run g lines ds st').2.entityCount = (run g lines cs st).2.entityCount := by
  rw [entityCount_of_run (Prod.ext h rfl), entityCount_of_run (Prod.ext h' rfl)]
  exact ((requestedNames_perm hperm).symm.dedup).length_eq

/-- If candidates agree and a run over them succeeds, then so does every run over them in another
order, with the same artifacts under the same names, only placed otherwise, and as many entities
configured. -/
theorem run_perm (hperm : cs.Perm ds) (hagree : g.Agree cs)
    (h : (run g lines cs st).1 = .ok artifacts) (st' : Run) :
    ∃ artifacts', (run g lines ds st').1 = .ok artifacts'
      ∧ (∀ k, Assoc.get? k artifacts' = Assoc.get? k artifacts)
      ∧ artifacts'.Perm artifacts
      ∧ (run g lines ds st').2.entityCount = (run g lines cs st).2.entityCount := by
  obtain ⟨as, hdue, rfl⟩ := exists_due_of_run h
  have hdue' : (g.due lines ds).Perm (as.map .ok) := hdue ▸ (hagree.due_perm hperm).symm
  -- What is due in the other order has no failure either.
  obtain ⟨bs, hbs, hsame⟩ : ∃ bs : List Artifact, g.due lines ds = bs.map .ok ∧ bs.Perm as :=
    (congrFun₂ (List.eq_map_comp_perm Except.ok) _ _).mpr hdue'
  have hrun := run_eq_ok_of_due hbs st'
  -- No name repeats, so all artifacts are kept.
  have hnames : (as.map Artifact.name).Nodup :=
    nodup_names_of_due (fun n hn => hagree.free n (mem_acceptedNames.mp hn)) hdue
  have hnames' : (bs.map Artifact.name).Nodup := (hsame.map _).nodup_iff.mpr hnames
  have hartifacts : (byName bs).Perm (byName as) := by
    rw [byName_of_nodup hnames, byName_of_nodup hnames']
    exact hsame.map _
  have hkeys : (Assoc.keys (byName bs)).Nodup := by
    rw [byName_of_nodup hnames', Assoc.keys, List.map_map]
    exact hnames'
  exact ⟨byName bs, hrun, Assoc.get?_perm hartifacts hkeys, hartifacts,
    entityCount_perm hperm h hrun⟩

namespace Shop

/-- A generator that puts everything into one namespace. -/
def gathered : Generator := .bundled .csharp { namespaceName := .text "Shop.Maps" }

theorem requested?_eq {c : Candidate} (hc : c ∈ candidates) {e : EntityType}
    (h : c.requested? = some e) : e = user ∨ e = order := by
  simp only [candidates, List.mem_cons, List.not_mem_nil, or_false] at hc
  rcases hc with rfl | rfl | rfl | rfl | rfl <;>
    simp_all [Candidate.requested?]

theorem agree_candidates : gathered.Agree candidates where
  space := .inl ⟨"Shop.Maps", by decide, rfl⟩
  entity c hc d hd e f he hf hname := by
    rcases requested?_eq hc he with rfl | rfl <;> rcases requested?_eq hd hf with rfl | rfl
    · rfl
    · exact absurd hname (by decide)
    · exact absurd hname (by decide)
    · rfl
  free n hn htakes := by
    have hnames : requestedNames candidates = ["User", "User", "Order"] := by decide
    have hn' : n = "User" ∨ n = "Order" := by simpa [hnames] using hn
    rcases hn' with rfl | rfl
    · exact absurd (Value.text.inj htakes) (by decide)
    · exact absurd (Value.text.inj htakes) (by decide)

end Shop

/-- From the last declaration to the first, the shop gets its orders before its users, and the same
text for both. -/
theorem run_perm_shop :
    Shop.candidates.Perm Shop.candidates.reverse ∧ Shop.gathered.Agree Shop.candidates
      ∧ ∃ artifacts artifacts',
        (run Shop.gathered .null Shop.candidates {}).1 = .ok artifacts
          ∧ (run Shop.gathered .null Shop.candidates.reverse Shop.leftover).1 = .ok artifacts'
          ∧ Assoc.keys artifacts = [.text "AuditEntityConfiguration",
            .text "UserCommonConfiguration", .text "OrderCommonConfiguration"]
          ∧ Assoc.keys artifacts' = [.text "AuditEntityConfiguration",
            .text "OrderCommonConfiguration", .text "UserCommonConfiguration"]
          ∧ ∀ k, Assoc.get? k artifacts' = Assoc.get? k artifacts := by
  have hperm : Shop.candidates.Perm Shop.candidates.reverse := (List.reverse_perm _).symm
  have hkeys : (run Shop.gathered .null Shop.candidates {}).1.toOption.map Assoc.keys
      = some [.text "AuditEntityConfiguration", .text "UserCommonConfiguration",
        .text "OrderCommonConfiguration"] := by
    decide +kernel
  have hkeys' : (run Shop.gathered .null Shop.candidates.reverse Shop.leftover).1.toOption.map
      Assoc.keys = some [.text "AuditEntityConfiguration", .text "OrderCommonConfiguration",
        .text "UserCommonConfiguration"] := by
    decide +kernel
  obtain ⟨artifacts, hrun⟩ := exists_eq_ok
    (by decide +kernel :
      (run Shop.gathered .null Shop.candidates {}).1.toOption.isSome = true)
  obtain ⟨artifacts', hrun', hsame, -, -⟩ :=
    run_perm hperm Shop.agree_candidates hrun Shop.leftover
  rw [hrun] at hkeys
  rw [hrun'] at hkeys'
  exact ⟨hperm, Shop.agree_candidates, artifacts, artifacts', hrun, hrun', Option.some.inj hkeys,
    Option.some.inj hkeys', hsame⟩

end Run

end EntityMapping
