import EntityMapping.Generation.Generator
import EntityMapping.Proofs.Template.Rendering

/-!
# The text of a configuration

Settings that name no folder of templates make a generator with the bundled ones.  Such a generator
writes one statement for each property of a configuration, in order, between an opening and a
closing that do not depend on the properties (`Generator.entityText_eq_ok`); the text is tidied as a
whole.  It is there wherever the namespaces can be put in order and every property has its calls
(`Generator.exists_entityText`).
-/

namespace EntityMapping.Generator

open Template

/-- The generator that settings without a folder of templates make for a target. -/
def bundled (t : Target) (s : Settings) : Generator where
  target := t
  settings := s
  fileExtension := .text ".g.cs"
  engine := (Engine.mk (.bundled CSharp.bundledTemplates) [.storageName]).addFilter .literal

/-- The generator uses the bundled templates. -/
def UsesBundled (g : Generator) : Prop := g.engine.shelf = .bundled CSharp.bundledTemplates

theorem usesBundled_bundled (t : Target) (s : Settings) : (bundled t s).UsesBundled := rfl

/-- Settings that name no folder of templates give the bundled ones. -/
theorem usesBundled_of_create {fs : FileSystem} {t : Target} {s : Settings} {g : Generator}
    (hs : s.templateDir.truthy = false) (h : create fs t s = .ok g) : g.UsesBundled := by
  unfold create at h
  cases hr : t.refusal with
  | some reason =>
    rw [hr] at h
    cases h
  | none =>
    simp only [hr, shelfFor, hs, bind_eq_ok, pure_eq_ok, liftM_fault_eq_ok, Bool.false_eq_true,
      if_false] at h
    obtain ⟨shelf, rfl, extension, -, rfl⟩ := h
    rfl

/-- The statement that configures a property, with its calls in a chain. -/
def statement (p : ResolvedProperty) : Except GeneratorError String := do
  let chain ← CSharp.chain p.directives
  return "        builder.Property(e => e." ++ (nameValue p.property.name).display ++ ")" ++ chain
    ++ ";\n"

/-- What stands before the statements of a configuration. -/
def opening (g : Generator) (entity : EntityType) (space : Value) (used : List Value) : String :=
  (if g.settings.addComments.truthy then "// <auto-generated />\n" else "")
    ++ "using Microsoft.EntityFrameworkCore;\n"
    ++ "using Microsoft.EntityFrameworkCore.Metadata.Builders;\n"
    ++ String.join (used.map fun v => "using " ++ v.display ++ ";\n")
    ++ (if space.truthy then "\nnamespace " ++ space.display ++ ";\n" else "")
    ++ "\npublic partial class " ++ g.entityArtifactName entity.name ++ " : "
    ++ g.settings.baseClassName.display ++ "<" ++ entity.name ++ ">\n\x7b\n"
    ++ "    public override void Configure(EntityTypeBuilder<" ++ entity.name
    ++ "> builder)\n    \x7b\n"

/-- What stands after the statements of a configuration. -/
def closing : String := "        base.Configure(builder);\n    \x7d\n\x7d\n"

variable {known : List Filter} {ctx : Context}

/-- The loop of the template over the used namespaces. -/
private def usingsLoop : Template.Node :=
  .loop "ns" (.ofName "usings") [.text "using ", CSharp.outputOf "ns", .text ";\n"] []

/-- What the template says for each property. -/
private def statementNodes : List Template.Node := [
  .text "        builder.Property(e => e.", .output (CSharp.partOf "property" "name" []),
  .text ")", .output (CSharp.partOf "property" "chain" []), .text ";\n"]

/-- The loop of the template over the properties. -/
private def statementsLoop : Template.Node :=
  .loop "property" (.ofName "properties") statementNodes []

private theorem render_usingsLoop {used : List Value}
    (h : ctx.lookup "usings" = some (.value (.list used))) :
    usingsLoop.render known ctx
      = .ok (String.join (used.map fun v => "using " ++ v.display ++ ";\n")) := by
  have hitems : (Datum.value (.list used)).elements = .ok (used.map .value) := rfl
  refine Node.render_loop (Expr.eval_ofName h) hitems ?_
  rw [List.forall₂_map_left_iff, List.forall₂_map_right_iff, List.forall₂_same]
  intro v _ turn
  have hv : (Expr.ofName "ns").eval known (("ns", Datum.value v) :: (turnWord, turn) :: ctx)
      = .ok (.value v) := Expr.eval_ofName rfl
  simp [renderAll, Node.render, CSharp.outputOf, hv, Datum.display, String.append_assoc]

private theorem render_statement {p : ResolvedProperty} {d : Datum} {s : String}
    (hd : propertyDatum p = .ok d) (hs : statement p = .ok s) (turn : Datum) :
    renderAll known (("property", d) :: (turnWord, turn) :: ctx) statementNodes = .ok s := by
  simp only [propertyDatum, statement, bind_eq_ok, pure_eq_ok] at hd hs
  obtain ⟨chain, hchain, rfl⟩ := hd
  obtain ⟨chain', hchain', rfl⟩ := hs
  obtain rfl : chain = chain' := Except.ok.inj (hchain.symm.trans hchain')
  have hname {d e : Datum} {part : String} (hp : d.part? part = some e) :
      (CSharp.partOf "property" part []).eval known
          (("property", d) :: (turnWord, turn) :: ctx) = .ok e :=
    Expr.eval_partOf rfl hp
  rw [statementNodes, renderAll_cons rfl (renderAll_cons (by rw [Node.render, hname rfl])
    (renderAll_cons rfl (renderAll_cons (by rw [Node.render, hname rfl]) rfl)))]
  simp [Datum.display, Datum.text, String.append_assoc]

private theorem render_statementsLoop {properties : List ResolvedProperty} {data : List Datum}
    {statements : List String} (hctx : ctx.lookup "properties" = some (.list data))
    (hdata : properties.mapM propertyDatum = .ok data)
    (hs : properties.mapM statement = .ok statements) :
    statementsLoop.render known ctx = .ok (String.join statements) := by
  refine Node.render_loop_mapM (Expr.eval_ofName hctx) hdata hs ?_
  exact fun _ _ _ hd hs turn => render_statement hd hs turn

private theorem exists_statements {properties : List ResolvedProperty} {data : List Datum}
    (hdata : properties.mapM propertyDatum = .ok data) :
    ∃ statements, properties.mapM statement = .ok statements := by
  simp only [mapM_eq_ok] at hdata ⊢
  induction hdata with
  | nil => exact ⟨[], .nil⟩
  | cons hd _ ih =>
    simp only [propertyDatum, bind_eq_ok] at hd
    obtain ⟨chain, hchain, -⟩ := hd
    obtain ⟨statements, hs⟩ := ih
    exact ⟨_ :: statements, .cons (bind_eq_ok.mpr ⟨chain, hchain, rfl⟩) hs⟩

/-- The variables of the template of a configuration. -/
private def entityContext (g : Generator) (entity : EntityType) (space : Value)
    (used : List Value) (data : List Datum) : Context :=
  g.commonContext ++ [
    ("namespace", .value space), ("usings", .value (.list used)),
    ("entity_name", .text entity.name),
    ("entity_namespace", .value (nameValue entity.namespaceName)),
    ("class_name", .text (g.entityArtifactName entity.name)), ("properties", .list data)]

private theorem renderAll_entityTemplate {g : Generator} {entity : EntityType} {space : Value}
    {used : List Value} {properties : List ResolvedProperty} {data : List Datum}
    {statements : List String} (hdata : properties.mapM propertyDatum = .ok data)
    (hs : properties.mapM statement = .ok statements) :
    renderAll known (g.entityContext entity space used data ++ standing CSharp.entityTemplateName)
        CSharp.entityTemplate
      = .ok (g.opening entity space used ++ String.join statements ++ closing) := by
  let ctx := g.entityContext entity space used data ++ standing CSharp.entityTemplateName
  have hcomments : (Expr.ofName "add_comments").eval known ctx
      = .ok (.value g.settings.addComments) := Expr.eval_ofName rfl
  have hbase : (Expr.ofName "base_class").eval known ctx
      = .ok (.value g.settings.baseClassName) := Expr.eval_ofName rfl
  have hspace : (Expr.ofName "namespace").eval known ctx = .ok (.value space) :=
    Expr.eval_ofName rfl
  have hname : (Expr.ofName "entity_name").eval known ctx = .ok (.text entity.name) :=
    Expr.eval_ofName rfl
  have hclass : (Expr.ofName "class_name").eval known ctx
      = .ok (.text (g.entityArtifactName entity.name)) := Expr.eval_ofName rfl
  have husings : usingsLoop.render known ctx
      = .ok (String.join (used.map fun v => "using " ++ v.display ++ ";\n")) :=
    render_usingsLoop rfl
  have hloop : statementsLoop.render known ctx = .ok (String.join statements) :=
    render_statementsLoop rfl hdata hs
  have htemplate : CSharp.entityTemplate = CSharp.header ++ [usingsLoop, CSharp.namespaceBlock,
      .text "\npublic partial class ", CSharp.outputOf "class_name", .text " : ",
      CSharp.outputOf "base_class", .text "<", CSharp.outputOf "entity_name", .text ">\n\x7b\n",
      .text "    public override void Configure(EntityTypeBuilder<",
      CSharp.outputOf "entity_name", .text "> builder)\n    \x7b\n", statementsLoop,
      .text closing] := rfl
  show renderAll known ctx CSharp.entityTemplate = _
  simp only [htemplate, CSharp.header, CSharp.namespaceBlock, CSharp.outputOf, List.cons_append,
    List.nil_append, renderAll, Node.render, husings, hloop, hcomments, hbase, hspace, hname,
    hclass]
  cases hc : g.settings.addComments.truthy <;> cases hsp : space.truthy <;>
    simp [-String.reduceAppend, opening, hc, hsp, Datum.truthy, Datum.display, Datum.text,
      String.append_assoc]

private theorem render_entityTemplate {g : Generator} {entity : EntityType} {space : Value}
    {used : List Value} {properties : List ResolvedProperty} {data : List Datum}
    {statements : List String} (hg : g.UsesBundled)
    (hdata : properties.mapM propertyDatum = .ok data)
    (hs : properties.mapM statement = .ok statements) :
    g.engine.render CSharp.entityTemplateName (g.entityContext entity space used data)
      = .ok (g.opening entity space used ++ String.join statements ++ closing) := by
  have hfind : g.engine.shelf.find CSharp.entityTemplateName = .ok CSharp.entityTemplate := by
    rw [hg]
    rfl
  -- Nothing keeps the bundled template from being rendered, and no variable takes its name.
  have hrender : renderTemplate g.engine.filters CSharp.entityTemplateName
      (g.entityContext entity space used data) CSharp.entityTemplate
        = .ok (g.opening entity space used ++ String.join statements ++ closing) :=
    renderAll_entityTemplate hdata hs
  simp only [Engine.render, hfind, bind, Except.bind, hrender]
  rfl

/-- A configuration has a text where its namespaces can be put in order and every property has a
chain of calls. -/
theorem exists_entityText {g : Generator} {entity : EntityType} {space baseSpace : Value}
    {properties : List ResolvedProperty} {used : List Value} (hg : g.UsesBundled)
    (hnaming : g.attached.lookup namingMethod = none)
    (hused : usings (nameValue entity.namespaceName) baseSpace space = .ok used)
    (hchains : ∀ p ∈ properties, ∃ chain, CSharp.chain p.directives = .ok chain) :
    ∃ text, g.entityText entity space properties baseSpace = .ok text := by
  obtain ⟨data, hdata⟩ : ∃ data, properties.mapM propertyDatum = .ok data := by
    refine exists_mapM_eq_ok fun p hp => ?_
    obtain ⟨chain, hchain⟩ := hchains p hp
    exact ⟨_, bind_eq_ok.mpr ⟨chain, hchain, rfl⟩⟩
  obtain ⟨statements, hstatements⟩ := exists_statements hdata
  refine ⟨Text.tidied (g.opening entity space used ++ String.join statements ++ closing), ?_⟩
  simp only [entityText, hnaming, bind_eq_ok, liftM_fault_eq_ok, liftM_generatorError_eq_ok,
    pure_eq_ok]
  exact ⟨data, hdata, used, hused, _, render_entityTemplate hg hdata hstatements, rfl⟩

/-- The text of a configuration that the bundled template gives: one statement for each property, in
order, between the opening and the closing. -/
theorem entityText_eq_ok {g : Generator} {entity : EntityType} {space baseSpace : Value}
    {properties : List ResolvedProperty} {text : String} (hg : g.UsesBundled)
    (h : g.entityText entity space properties baseSpace = .ok text) :
    ∃ used statements, usings (nameValue entity.namespaceName) baseSpace space = .ok used
      ∧ properties.mapM statement = .ok statements
      ∧ text = Text.tidied (g.opening entity space used ++ String.join statements ++ closing) := by
  simp only [entityText, bind_eq_ok, liftM_fault_eq_ok, liftM_generatorError_eq_ok] at h
  obtain ⟨data, hdata, used, hused, h⟩ := h
  cases hm : g.attached.lookup namingMethod with
  | some v =>
    rw [hm] at h
    cases h
  | none =>
    simp only [hm, bind_eq_ok, pure_eq_ok] at h
    obtain ⟨s, hs, rfl⟩ := h
    obtain ⟨statements, hstatements⟩ := exists_statements hdata
    refine ⟨used, statements, hused, hstatements, ?_⟩
    exact congrArg Text.tidied
      (Except.ok.inj (hs.symm.trans (render_entityTemplate hg hdata hstatements)))

end EntityMapping.Generator
