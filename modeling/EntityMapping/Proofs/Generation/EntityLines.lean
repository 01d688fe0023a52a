import EntityMapping.Proofs.CSharp.Directives
import EntityMapping.Proofs.Generation.Heading
import EntityMapping.Proofs.Generation.Refinement
import EntityMapping.Proofs.Text.Order

/-!
# The lines of a configuration

Where nothing that is put into it has a line end, the text of a configuration is known line by line
(`Generator.entityText_eq_lined`): tidying leaves what the bundled template gives as it is, because
no line of it ends in a blank and no two empty lines stand next to each other.

## Main definitions

* `Generator.FurtherSpaces` — the namespaces that a configuration uses besides the fixed ones.
* `Generator.StatementLine` — the line that configures a property.
* `Generator.classLine`, `Generator.entityLines` — the line that declares the class, and all lines.
* `Generator.EntityInserts` — nothing put into a configuration has a line end.
-/

namespace EntityMapping.Generator

open Text

/-! ### Further namespaces -/

/-- Texts are the further namespaces of a configuration in `space`: the namespace of the entity and
that of the shared base, which is `space` if none is given, without empty ones and without `space`.
They are in increasing order, and none of them is there twice. -/
structure FurtherSpaces (entitySpace base : Option String) (space : String)
    (used : List String) : Prop where
  mem_iff : ∀ x, x ∈ used ↔
    (entitySpace = some x ∨ x = (base.filter (· ≠ "")).getD space) ∧ x ≠ "" ∧ x ≠ space
  sorted : used.Pairwise fun x y => x ≠ y ∧ (IsSpelled x → IsSpelled y → precedes x y)

theorem orElse_nameValue_text (base : Option String) (space : String) :
    (nameValue base).orElse (.text space) = .text ((base.filter (· ≠ "")).getD space) := by
  cases base with
  | none => rfl
  | some b =>
    by_cases hb : b = "" <;> simp [nameValue, Value.orElse, Value.truthy, Option.filter, hb]

theorem same_text (s t : String) : (Value.text s).same (.text t) = (s == t) := by
  rw [Value.same]

theorem same_text_nameValue (s : String) (o : Option String) :
    (Value.text s).same (nameValue o) = decide (o = some s) := by
  cases o with
  | none => rfl
  | some t => simp [nameValue, same_text, Bool.beq_eq_decide_eq, eq_comm]

/-- The further namespaces before they are put in order. -/
private def unordered (entitySpace : Option String) (other space : String) : List String :=
  (entitySpace.toList ++ if entitySpace = some other then [] else [other]).filter fun x =>
    x ≠ "" ∧ x ≠ space

private theorem filter_eq_unordered (entitySpace : Option String) (other space : String) :
    (nameValue entitySpace :: if entitySpace = some other then [] else [.text other]).filter
        (fun v => v.truthy && v.differs (.text space))
      = (unordered entitySpace other space).map .text := by
  have htext (s : String) : ((Value.text s).truthy && (Value.text s).differs (.text space))
      = decide (s ≠ "" ∧ s ≠ space) := by
    simp [Value.truthy, Value.differs, same_text, Bool.beq_eq_decide_eq, bne]
  have hmap (l : List String) : (l.map Value.text).filter
      (fun v => v.truthy && v.differs (.text space))
        = (l.filter fun x => x ≠ "" ∧ x ≠ space).map .text := by
    rw [List.filter_map]
    exact congrArg _ (List.filter_congr fun s _ => htext s)
  rw [unordered, ← hmap]
  cases entitySpace with
  | none => simp [nameValue, Value.truthy]
  | some e =>
    congr 1
    by_cases he : e = other <;> simp [nameValue, he]

private theorem mem_unordered {entitySpace : Option String} {other space x : String} :
    x ∈ unordered entitySpace other space
      ↔ (entitySpace = some x ∨ x = other) ∧ x ≠ "" ∧ x ≠ space := by
  rw [unordered, List.mem_filter, List.mem_append, Option.mem_toList, decide_eq_true_eq]
  refine and_congr_left fun _ => ?_
  by_cases he : entitySpace = some other
  · rw [if_pos he, he]
    simp [eq_comm]
  · rw [if_neg he, List.mem_singleton]

/-- There are none, one, or two that differ. -/
private theorem unordered_cases (entitySpace : Option String) (other space : String) :
    unordered entitySpace other space = [] ∨ (∃ x, unordered entitySpace other space = [x])
      ∨ ∃ x y, unordered entitySpace other space = [x, y] ∧ x ≠ y := by
  unfold unordered
  cases entitySpace with
  | none =>
    by_cases hother : other ≠ "" ∧ other ≠ space <;> simp [hother]
  | some e =>
    by_cases he : e = other
    · subst he
      by_cases hwanted : e ≠ "" ∧ e ≠ space <;> simp [hwanted]
    · by_cases hwanted : e ≠ "" ∧ e ≠ space <;>
        by_cases hother : other ≠ "" ∧ other ≠ space <;> simp [hwanted, hother, he]

/-- The further namespaces of a configuration can be put in order. -/
theorem exists_furtherSpaces (entitySpace base : Option String) (space : String) :
    ∃ used, usings (nameValue entitySpace) (nameValue base) (.text space)
        = .ok (used.map .text) ∧ FurtherSpaces entitySpace base space used := by
  obtain ⟨other, hother⟩ : ∃ other, (base.filter (· ≠ "")).getD space = other := ⟨_, rfl⟩
  have hsource : (nameValue base).orElse (.text space) = .text other := by
    rw [orElse_nameValue_text, hother]
  have hmem (x : String) : x ∈ unordered entitySpace other space
      ↔ (entitySpace = some x ∨ x = (base.filter (· ≠ "")).getD space) ∧ x ≠ "" ∧ x ≠ space := by
    rw [hother]
    exact mem_unordered
  rcases unordered_cases entitySpace other space with hnone | ⟨x, hone⟩ | ⟨x, y, htwo, hne⟩
  · refine ⟨[], ?_, ?_, List.Pairwise.nil⟩
    · simp only [usings, hsource, same_text_nameValue, decide_eq_true_eq,
        filter_eq_unordered, hnone]
      rfl
    · rwa [hnone] at hmem
  · refine ⟨[x], ?_, ?_, List.pairwise_singleton _ _⟩
    · simp only [usings, hsource, same_text_nameValue, decide_eq_true_eq,
        filter_eq_unordered, hone]
      rfl
    · rwa [hone] at hmem
  · rw [htwo] at hmem
    have hordered : usings (nameValue entitySpace) (nameValue base) (.text space)
        = .ok (if Text.precedes x y then [.text x, .text y] else [.text y, .text x]) := by
      simp only [usings, hsource, same_text_nameValue, decide_eq_true_eq,
        filter_eq_unordered, htwo]
      rfl
    by_cases hp : Text.precedes x y
    · rw [if_pos hp] at hordered
      exact ⟨[x, y], hordered, hmem, List.pairwise_pair.mpr ⟨hne, fun _ _ => hp⟩⟩
    · rw [if_neg hp] at hordered
      refine ⟨[y, x], hordered, ?_, ?_⟩
      · intro z
        rw [← hmem z, List.mem_pair, List.mem_pair, or_comm]
      · refine List.pairwise_pair.mpr ⟨hne.symm, fun hy hx => ?_⟩
        exact (precedes_or_precedes hx hy hne).resolve_left hp

/-! ### The lines -/

/-- The line that configures a property: its name and its calls, one after another. -/
def StatementLine (p : ResolvedProperty) (line : String) : Prop :=
  ∃ calls, p.directives.mapM CSharp.call = .ok calls
    ∧ line = "        builder.Property(e => e." ++ (nameValue p.property.name).display ++ ")"
      ++ String.join calls ++ ";"

/-- The line that declares the class of a configuration. -/
def classLine (g : Generator) (entity : EntityType) : String :=
  "public partial class " ++ entity.name ++ g.settings.entitySuffix.display ++ " : "
    ++ g.settings.baseClassName.display ++ "<" ++ entity.name ++ ">"

/-- The lines of a configuration with given further namespaces and lines for the properties. -/
def entityLines (g : Generator) (entity : EntityType) (space : String)
    (used statements : List String) : List String :=
  g.headingLines
    ++ used.map (fun x => "using " ++ x ++ ";")
    ++ spaceLines space
    ++ "" :: ([g.classLine entity,
      "\x7b",
      "    public override void Configure(EntityTypeBuilder<" ++ entity.name ++ "> builder)",
      "    \x7b"]
    ++ statements
    ++ ["        base.Configure(builder);", "    \x7d", "\x7d"])

/-- Nothing that is put into a configuration has a line end. -/
structure EntityInserts (g : Generator) (entity : EntityType) (space : String)
    (base : Option String) (properties : List ResolvedProperty) : Prop where
  entityName : '\n' ∉ entity.name.toList
  suffix : '\n' ∉ g.settings.entitySuffix.display.toList
  baseClass : '\n' ∉ g.settings.baseClassName.display.toList
  space : '\n' ∉ space.toList
  entitySpace : ∀ s ∈ entity.namespaceName, '\n' ∉ s.toList
  baseSpace : ∀ s ∈ base, '\n' ∉ s.toList
  name : ∀ p ∈ properties, '\n' ∉ (nameValue p.property.name).display.toList
  call : ∀ p ∈ properties, ∀ calls, p.directives.mapM CSharp.call = .ok calls →
    '\n' ∉ (String.join calls).toList

variable {g : Generator} {entity : EntityType} {space : String} {base : Option String}
  {properties : List ResolvedProperty} {used statements : List String}

/-- The lines of the properties are their statements without the line ends. -/
private theorem exists_statementLines {texts : List String}
    (h : properties.mapM statement = .ok texts) :
    ∃ statements, List.Forall₂ StatementLine properties statements
      ∧ String.join texts = lined statements := by
  rw [mapM_eq_ok] at h
  induction h with
  | nil => exact ⟨[], .nil, rfl⟩
  | cons hs _ ih =>
    simp only [statement, bind_eq_ok, pure_eq_ok] at hs
    obtain ⟨chain, hchain, rfl⟩ := hs
    obtain ⟨calls, hcalls, rfl⟩ := CSharp.chain_eq_ok.mp hchain
    obtain ⟨statements, hstatements, hjoin⟩ := ih
    refine ⟨_ :: statements, .cons ⟨calls, hcalls, rfl⟩ hstatements, ?_⟩
    rw [String.join_cons, hjoin, lined_cons]
    simp only [String.append_assoc]
    rfl

private theorem lined_entityLines :
    lined (g.entityLines entity space used statements)
      = g.opening entity (.text space) (used.map .text) ++ lined statements ++ closing := by
  have hused : lined (used.map fun x => "using " ++ x ++ ";")
      = String.join ((used.map Value.text).map fun v => "using " ++ v.display ++ ";\n") := by
    rw [lined, List.map_map, List.map_map]
    refine congrArg String.join (List.map_congr_left fun x _ => ?_)
    exact String.append_assoc
  have hclass : "\npublic partial class " = "" ++ "\n" ++ "public partial class " := rfl
  have hbrace : ">\n\x7b\n" = ">" ++ "\n" ++ "\x7b" ++ "\n" := rfl
  have hconfigure : "> builder)\n    \x7b\n" = "> builder)" ++ "\n" ++ "    \x7b" ++ "\n" := rfl
  have hclosing : closing = lined ["        base.Configure(builder);", "    \x7d", "\x7d"] := rfl
  simp only [entityLines, lined_append, lined_headingLines, hused, lined_spaceLines, opening,
    hclosing]
  unfold classLine
  simp only [hclass, hbrace, hconfigure, entityArtifactName, Settings.entityArtifactName,
    lined_cons, lined_append, lined_nil, String.append_assoc, String.append_empty]

private theorem isFull_usingLine (h : g.EntityInserts entity space base properties)
    (hused : FurtherSpaces entity.namespaceName base space used) :
    ∀ x ∈ used, IsFull ("using " ++ x ++ ";") := by
  intro x hx
  obtain ⟨hsource, -⟩ := (hused.mem_iff x).mp hx
  refine IsFull.append_left (by decide) (notMem_toList_append.mpr ⟨by decide, ?_⟩)
  rcases hsource with hsource | rfl
  · exact h.entitySpace x hsource
  · cases hfilter : base.filter (· ≠ "") with
    | none => exact h.space
    | some b => exact h.baseSpace b ((Option.filter_eq_some_iff.mp hfilter).1)

private theorem isFull_statementLine (h : g.EntityInserts entity space base properties)
    (hstatements : List.Forall₂ StatementLine properties statements) :
    ∀ l ∈ statements, IsFull l := by
  intro l hl
  obtain ⟨p, hp, calls, hcalls, rfl⟩ := exists_of_mem_right hstatements hl
  refine IsFull.append_left (by decide) ?_
  simp only [notMem_toList_append]
  exact ⟨⟨⟨by decide, h.name p hp⟩, by decide⟩, h.call p hp calls hcalls⟩

private theorem isFull_classLine (h : g.EntityInserts entity space base properties) :
    IsFull (g.classLine entity) := by
  refine IsFull.append_left (by decide) ?_
  simp only [notMem_toList_append]
  exact ⟨⟨⟨⟨⟨⟨by decide, h.entityName⟩, h.suffix⟩, by decide⟩, h.baseClass⟩, by decide⟩,
    h.entityName⟩

private theorem isFull_configureLine (h : g.EntityInserts entity space base properties) :
    IsFull ("    public override void Configure(EntityTypeBuilder<" ++ entity.name
      ++ "> builder)") :=
  IsFull.append_left (by decide) (notMem_toList_append.mpr ⟨by decide, h.entityName⟩)

private theorem paragraphs_entityLines (h : g.EntityInserts entity space base properties)
    (hused : FurtherSpaces entity.namespaceName base space used)
    (hstatements : List.Forall₂ StatementLine properties statements) :
    Paragraphs (g.entityLines entity space used statements) := by
  refine paragraphs_append (by simp [headingLines]) ?_ h.space (by simp) ?_
  · intro l hl
    rcases List.mem_append.mp hl with hl | hl
    · exact isFull_of_mem_headingLines hl
    · obtain ⟨x, hx, rfl⟩ := List.mem_map.mp hl
      exact isFull_usingLine h hused x hx
  · intro l hl
    simp only [List.mem_append, List.mem_cons, List.not_mem_nil, or_false] at hl
    rcases hl with ((rfl | rfl | rfl | rfl) | hl) | rfl | rfl | rfl
    · exact isFull_classLine h
    · decide
    · exact isFull_configureLine h
    · decide
    · exact isFull_statementLine h hstatements l hl
    · decide
    · decide
    · decide

/-- The text of a configuration that the bundled template gives, line by line.  The statements are
one for each property, in order. -/
theorem entityText_eq_lined (hg : g.UsesBundled) (hnaming : g.attached.lookup namingMethod = none)
    (hknown : ∀ p ∈ properties, ∀ d ∈ p.directives, d.kind ∈ DirectiveKind.known)
    (hinserts : g.EntityInserts entity space base properties) :
    ∃ used statements, FurtherSpaces entity.namespaceName base space used
      ∧ List.Forall₂ StatementLine properties statements
      ∧ g.entityText entity (.text space) properties (nameValue base)
        = .ok (lined (g.entityLines entity space used statements)) := by
  obtain ⟨used, hused, hfurther⟩ := exists_furtherSpaces entity.namespaceName base space
  obtain ⟨text, htext⟩ := exists_entityText hg hnaming hused fun p hp =>
    CSharp.exists_chain (hknown p hp)
  obtain ⟨used', texts, hused', htexts, rfl⟩ := entityText_eq_ok hg htext
  obtain rfl : used.map Value.text = used' := Except.ok.inj (hused.symm.trans hused')
  obtain ⟨statements, hstatements, hjoin⟩ := exists_statementLines htexts
  refine ⟨used, statements, hfurther, hstatements, ?_⟩
  rw [htext, hjoin, ← lined_entityLines,
    tidied_lined (paragraphs_entityLines hinserts hfurther hstatements)]

namespace Shop

/-- The address of a user of the shop, with its directives. -/
def email : ResolvedProperty :=
  resolveProperty { name := some "Email", type := .string, annotations := [{ kind := .required }] }
    defaultStringLength

end Shop

open Run.Shop in
/-- The configuration of the users of the shop has a line for the address that they have. -/
theorem entityText_eq_lined_shop :
    generator.entityText user (.text "Shop.Data") [Shop.email] (nameValue none)
      = .ok (lined [
        "// <auto-generated />",
        "using Microsoft.EntityFrameworkCore;",
        "using Microsoft.EntityFrameworkCore.Metadata.Builders;",
        "using Shop.Domain;",
        "",
        "namespace Shop.Data;",
        "",
        "public partial class UserCommonConfiguration : AuditEntityConfiguration<User>",
        "\x7b",
        "    public override void Configure(EntityTypeBuilder<User> builder)",
        "    \x7b",
        "        builder.Property(e => e.Email).IsRequired().HasMaxLength(255)"
          ++ ".HasColumnName(\"email\");",
        "        base.Configure(builder);",
        "    \x7d",
        "\x7d"]) := by
  have hcalls : Shop.email.directives.mapM CSharp.call
      = .ok [".IsRequired()", ".HasMaxLength(255)", ".HasColumnName(\"email\")"] := by
    decide +kernel
  have hinserts : generator.EntityInserts user "Shop.Data" none [Shop.email] :=
    { entityName := by decide
      suffix := by decide
      baseClass := by decide
      space := by decide
      entitySpace := by simp [user]
      baseSpace := by simp
      name := by simp [Shop.email, resolveProperty, nameValue]
      call := by
        intro p hp calls h
        obtain rfl := List.mem_singleton.mp hp
        obtain rfl := Except.ok.inj (hcalls.symm.trans h)
        decide }
  obtain ⟨used, statements, hused, hstatements, htext⟩ :=
    entityText_eq_lined (usesBundled_bundled .csharp {}) rfl (by decide) hinserts
  -- The namespace of the shared base is that of the configuration, so one more is left.
  have hone : used = ["Shop.Domain"] := by
    refine List.perm_singleton.mp ((List.perm_ext_iff_of_nodup (hused.sorted.imp And.left)
      (List.nodup_singleton _)).mpr fun x => ?_)
    rw [hused.mem_iff x, List.mem_singleton]
    constructor
    · rintro ⟨h | h, -, hother⟩
      · exact (Option.some.inj h).symm
      · exact absurd h hother
    · rintro rfl
      exact ⟨.inl rfl, by decide, by decide⟩
  cases hstatements with | cons hline hnil =>
  cases hnil
  obtain ⟨calls, h, rfl⟩ := hline
  obtain rfl := Except.ok.inj (hcalls.symm.trans h)
  rw [hone] at htext
  exact htext

end EntityMapping.Generator
