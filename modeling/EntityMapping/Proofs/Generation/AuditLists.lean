import EntityMapping.Proofs.Generation.Refinement

/-!
# Runs with different lists of audit fields

A list of audit fields reaches the text of the shared base and one diagnostic, and nothing else.  So
two runs over the same candidates with different lists give artifacts that are alike, one by one
under the same names; they configure the same entities, and their diagnostics differ by the message
on a missing list alone (`Run.run_alike`).  Of a list only the entries that describe a field count
(`Generator.due_eq_of_validLines`).

Both runs are compared by what is due for the candidates: only its first item is made of the list
(`Generator.alike_of_due`), and putting artifacts under their names keeps them alike
(`alike_byName`).

## Main definitions

* `validLines` — the entries of a list that describe a field.
* `Artifact.Alike` — artifacts that are the same up to the text of a shared base.
* `Generator.listNotice` — what a run says about a missing list.

## Main results

* `Run.run_alike` — two runs with different lists.
-/

namespace EntityMapping

/-! ### Valid lines -/

/-- The field that an entry of a list describes, if it describes one. -/
def AuditField.described? (line : Value) : Option AuditField := (ofValue? line).toOption.join

/-- The entries of a list that describe a field, in order. -/
def validLines (lines : Value) : List Value :=
  ((auditLines lines).toOption.getD []).filter fun line => (AuditField.described? line).isSome

/-- The fields of a list are those of its valid lines. -/
theorem auditFields_eq_ok {lines : Value} {fields : List AuditField}
    (h : auditFields lines = .ok fields) :
    fields = (validLines lines).filterMap AuditField.described? := by
  simp only [auditFields, bind_eq_ok, pure_eq_ok] at h
  obtain ⟨items, hitems, found, hfound, rfl⟩ := h
  have hall : found.filterMap id = items.filterMap AuditField.described? := by
    rw [mapM_eq_ok] at hfound
    clear hitems
    induction hfound with
    | nil => rfl
    | @cons line field _ _ hline _ ih =>
      have hfield : AuditField.described? line = field := by
        rw [AuditField.described?, hline]
        rfl
      rw [List.filterMap_cons, List.filterMap_cons, ih, hfield, id]
  have hvalid (line : Value) : (if (AuditField.described? line).isSome
      then AuditField.described? line else none) = AuditField.described? line := by
    cases AuditField.described? line <;> rfl
  rw [hall, validLines, hitems, List.filterMap_filter]
  simp only [hvalid]
  rfl

/-! ### Artifacts that are alike -/

/-- Artifacts with the same name, role and entity, and with the same text unless they are shared
bases. -/
structure Artifact.Alike (a b : Artifact) : Prop where
  name : a.name = b.name
  role : a.role = b.role
  entityName : a.entityName = b.entityName
  text : a.role = .entity → a.text = b.text

theorem Artifact.Alike.refl (a : Artifact) : a.Alike a := ⟨rfl, rfl, rfl, fun _ => rfl⟩

/-- Artifacts that are alike stay so under their names. -/
theorem alike_byName {as bs : List Artifact} (h : List.Forall₂ Artifact.Alike as bs) :
    List.Forall₂ (fun p q => p.1 = q.1 ∧ p.2.Alike q.2) (byName as) (byName bs) := by
  -- The artifacts that are placed already may be any that are alike.
  suffices hplaced : ∀ l m : List (Key × Artifact),
      List.Forall₂ (fun p q => p.1 = q.1 ∧ p.2.Alike q.2) l m →
      List.Forall₂ (fun p q => p.1 = q.1 ∧ p.2.Alike q.2)
        (as.foldl (fun l a => Assoc.set a.name a l) l)
        (bs.foldl (fun l a => Assoc.set a.name a l) m) from hplaced [] [] .nil
  induction h with
  | nil => exact fun _ _ h => h
  | @cons a b _ _ hab _ ih =>
    intro l m hlm
    rw [List.foldl_cons, List.foldl_cons, ← hab.name]
    exact ih _ _ (Assoc.forall₂_set hab a.name hlm)

namespace Generator

variable {g : Generator} {lines lines' space : Value} {cs : List Candidate} {as bs : List Artifact}

/-- Of the list of audit fields, what is due has only the shared base. -/
theorem due_eq_ok (h : g.due lines cs = as.map .ok) (h' : g.due lines' cs = bs.map .ok) :
    as = [] ∧ bs = [] ∨ ∃ base base' space configurations,
      as = base :: configurations ∧ bs = base' :: configurations
        ∧ g.baseArtifact lines space = .ok base ∧ g.baseArtifact lines' space = .ok base' := by
  unfold due at h h'
  cases hcs : accepted cs with
  | nil =>
    rw [hcs] at h h'
    exact Or.inl ⟨List.map_eq_nil_iff.mp h.symm, List.map_eq_nil_iff.mp h'.symm⟩
  | cons p r =>
    rw [hcs] at h h'
    obtain ⟨base, configurations, rfl, hbase, hconf⟩ := List.map_eq_cons_iff.mp h.symm
    obtain ⟨base', configurations', rfl, hbase', hconf'⟩ := List.map_eq_cons_iff.mp h'.symm
    obtain rfl : configurations = configurations' :=
      List.map_injective_iff.mpr (fun _ _ => Except.ok.inj) (hconf.trans hconf'.symm)
    exact Or.inr ⟨base, base', _, configurations, rfl, rfl, hbase.symm, hbase'.symm⟩

/-- What is due is alike for different lists of audit fields. -/
theorem alike_of_due (h : g.due lines cs = as.map .ok) (h' : g.due lines' cs = bs.map .ok) :
    List.Forall₂ Artifact.Alike as bs := by
  rcases due_eq_ok h h' with ⟨rfl, rfl⟩ | ⟨base, base', space, configurations, rfl, rfl, hb, hb'⟩
  · exact .nil
  · obtain ⟨hkey, hrole, hentity⟩ := baseArtifact_eq_ok hb
    obtain ⟨hkey', hrole', hentity'⟩ := baseArtifact_eq_ok hb'
    refine .cons ⟨Except.ok.inj (hkey.symm.trans hkey'), hrole.trans hrole'.symm,
      hentity.trans hentity'.symm, fun h => ?_⟩ (List.forall₂_same.mpr fun a _ => .refl a)
    cases hrole.symm.trans h

/-- The shared base is made of the valid lines of the list. -/
theorem baseArtifact_eq_of_validLines {a b : Artifact} (h : g.baseArtifact lines space = .ok a)
    (h' : g.baseArtifact lines' space = .ok b) (hvalid : validLines lines = validLines lines') :
    a = b := by
  have hfields {l : Value} {c : Artifact} (hc : g.baseArtifact l space = .ok c) :
      auditFields l = .ok ((validLines l).filterMap AuditField.described?) := by
    obtain ⟨fields, hl, -⟩ := bind_eq_ok.mp hc
    rw [liftM_fault_eq_ok] at hl
    rw [hl, ← auditFields_eq_ok hl]
  have hsame : g.baseArtifact lines space = g.baseArtifact lines' space := by
    rw [baseArtifact, baseArtifact, hfields h, hfields h', hvalid]
  exact Except.ok.inj (h.symm.trans (hsame.trans h'))

/-- Lists with the same valid lines make the same artifacts due. -/
theorem due_eq_of_validLines (h : g.due lines cs = as.map .ok) (h' : g.due lines' cs = bs.map .ok)
    (hvalid : validLines lines = validLines lines') : as = bs := by
  rcases due_eq_ok h h' with ⟨rfl, rfl⟩ | ⟨base, base', space, configurations, rfl, rfl, hb, hb'⟩
  · rfl
  · rw [baseArtifact_eq_of_validLines hb hb' hvalid]

/-! ### Diagnostics -/

/-- What a run over candidates says about a missing list of audit fields: nothing unless a candidate
is accepted. -/
def listNotice (g : Generator) (lines : Value) (cs : List Candidate) : List String :=
  if accepted cs = [] then [] else g.missingListDiagnostic lines

/-- The diagnostics are the same for all lists of audit fields around what is said about the
list. -/
theorem exists_diagnosed (g : Generator) (cs : List Candidate) :
    ∃ before after, ∀ lines, g.diagnosed lines cs = before ++ g.listNotice lines cs ++ after := by
  induction cs using List.reverseRecOn with
  | nil => exact ⟨[], [], fun _ => rfl⟩
  | append_singleton cs c ih =>
    obtain ⟨before, after, ih⟩ := ih
    cases hn : newEntity? cs c with
    | none =>
      refine ⟨before, after ++ [Run.skipMessage c c.skipReason], fun lines => ?_⟩
      rw [diagnosed_concat, ih, messages, hn, listNotice, listNotice, accepted_concat, hn]
      simp
    | some entity =>
      have hsome : accepted (cs ++ [c]) ≠ [] := by simp [accepted_concat, hn]
      by_cases hcs : accepted cs = []
      · refine ⟨before ++ after,
          (classify g.reserved entity.properties).excluded.map (excludedDiagnostic entity),
          fun lines => ?_⟩
        rw [diagnosed_concat, ih, messages, hn, listNotice, listNotice, if_pos hcs, if_neg hsome]
        simp [hcs]
      · refine ⟨before, after
          ++ (classify g.reserved entity.properties).excluded.map (excludedDiagnostic entity),
          fun lines => ?_⟩
        rw [diagnosed_concat, ih, messages, hn, listNotice, listNotice, if_neg hcs, if_neg hsome]
        simp [hcs]

end Generator

/-! ### Two runs -/

namespace Run

variable {g : Generator} {lines lines' : Value} {cs : List Candidate} {start start' st st' : Run}
  {artifacts artifacts' : List (Key × Artifact)}

/-- Two runs over the same candidates with different lists of audit fields, whatever the states
before.  Their artifacts are alike, one by one under the same names; they configure equally many
entities; and their diagnostics differ by the message on a missing list alone.  If the lists have
the same valid lines, the artifacts are the same ones. -/
theorem run_alike (h : run g lines cs start = (.ok artifacts, st))
    (h' : run g lines' cs start' = (.ok artifacts', st')) :
    List.Forall₂ (fun p q => p.1 = q.1 ∧ p.2.Alike q.2) artifacts artifacts'
      ∧ st.entityCount = st'.entityCount
      ∧ (∃ before after, st.diagnostics = before ++ g.listNotice lines cs ++ after
        ∧ st'.diagnostics = before ++ g.listNotice lines' cs ++ after)
      ∧ (validLines lines = validLines lines' → artifacts = artifacts') := by
  obtain ⟨rfl, hreached⟩ := reached_of_run h
  obtain ⟨rfl, hreached'⟩ := reached_of_run h'
  obtain ⟨as, hdue, has⟩ := hreached.artifacts
  obtain ⟨bs, hdue', hbs⟩ := hreached'.artifacts
  obtain ⟨before, after, hdiagnosed⟩ := g.exists_diagnosed cs
  rw [has, hbs]
  refine ⟨alike_byName (Generator.alike_of_due hdue hdue'), ?_, ⟨before, after, ?_, ?_⟩, ?_⟩
  · rw [entityCount, entityCount, hreached.seen, hreached'.seen]
  · rw [hreached.diagnostics, hdiagnosed]
  · rw [hreached'.diagnostics, hdiagnosed]
  · exact fun hvalid => congrArg byName (Generator.due_eq_of_validLines hdue hdue' hvalid)

set_option maxRecDepth 4000 in
/-- The shop gives the same artifacts without a list and with a list of a blank line and of a line
without a field name; without a list it says so. -/
theorem run_alike_shop :
    ∃ artifacts st st',
      run Shop.generator .null Shop.candidates {} = (.ok artifacts, st)
        ∧ run Shop.generator (.list [.text " ", .text "datetime"]) Shop.candidates Shop.leftover
          = (.ok artifacts, st')
        ∧ Assoc.keys artifacts = [.text "AuditEntityConfiguration", .text "UserCommonConfiguration",
          .text "OrderCommonConfiguration"]
        ∧ st.entityCount = st'.entityCount
        ∧ ∃ before after, st.diagnostics = before
            ++ ["Audit field list 'AuditFields.txt' not available; generating an empty base"]
            ++ after
          ∧ st'.diagnostics = before ++ [] ++ after := by
  obtain ⟨artifacts, hok⟩ := exists_eq_ok
    (by decide : (run Shop.generator .null Shop.candidates {}).1.toOption.isSome = true)
  obtain ⟨artifacts', hok'⟩ := exists_eq_ok
    (by decide : (run Shop.generator (.list [.text " ", .text "datetime"]) Shop.candidates
      Shop.leftover).1.toOption.isSome = true)
  obtain ⟨-, hcount, hdiagnostics, hsame⟩ := run_alike (Prod.ext hok rfl) (Prod.ext hok' rfl)
  obtain rfl := hsame rfl
  refine ⟨artifacts, _, _, Prod.ext hok rfl, Prod.ext hok' rfl, ?_, hcount, hdiagnostics⟩
  have hkeys : (run Shop.generator .null Shop.candidates {}).1.toOption.map Assoc.keys
      = some [.text "AuditEntityConfiguration", .text "UserCommonConfiguration",
        .text "OrderCommonConfiguration"] := by decide
  rw [hok] at hkeys
  exact Option.some.inj hkeys

end Run

end EntityMapping
