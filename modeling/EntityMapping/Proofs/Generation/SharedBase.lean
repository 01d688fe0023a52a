import EntityMapping.Proofs.Generation.Bundled

/-!
# The text of the shared base

A generator with the bundled templates and their filters writes the shared base as one statement for
each audit field, in order and with repetitions, between an opening and a closing that do not depend
on the fields (`Generator.baseText_eq`).  Nothing but a chain of calls can be missing for that.
-/

namespace EntityMapping.Generator

open Template

/-- The bundled templates with all their filters. -/
def bundledEngine : Engine :=
  (Engine.mk (.bundled CSharp.bundledTemplates) [.storageName]).addFilter .literal

/-- The statement that configures an audit field, with its calls in a chain. -/
def fieldStatement (g : Generator) (f : AuditField) : Except GeneratorError String := do
  let chain ← CSharp.chain (auditDirectives f g.settings.defaultStringLength)
  return "        builder.Property(" ++ CSharp.literal f.name ++ ")" ++ chain ++ ";\n"

/-- What stands before the statements of the shared base. -/
def baseOpening (g : Generator) (space : Value) : String :=
  (if g.settings.addComments.truthy then "// <auto-generated />\n" else "")
    ++ "using Microsoft.EntityFrameworkCore;\n"
    ++ "using Microsoft.EntityFrameworkCore.Metadata.Builders;\n"
    ++ (if space.truthy then "\nnamespace " ++ space.display ++ ";\n" else "")
    ++ "\npublic abstract class " ++ g.settings.baseClassName.display
    ++ "<T> : IEntityTypeConfiguration<T> where T : class\n\x7b\n"
    ++ "    public virtual void Configure(EntityTypeBuilder<T> builder)\n    \x7b\n"

/-- What stands after the statements of the shared base. -/
def baseClosing : String := "    \x7d\n\x7d\n"

variable {g : Generator} {known : List Filter} {ctx : Context}

/-- What the template says for each audit field. -/
private def fieldNodes : List Template.Node := [
  .text "        builder.Property(", .output (CSharp.partOf "field" "name" [Filter.literal.name]),
  .text ")", .output (CSharp.partOf "field" "chain" []), .text ";\n"]

/-- The loop of the template over the audit fields. -/
private def fieldsLoop : Template.Node := .loop "field" (.ofName "fields") fieldNodes []

private theorem render_fieldStatement {f : AuditField} {d : Datum} {s : String}
    (hknown : filterNamed? known Filter.literal.name = some .literal)
    (hd : g.fieldDatum f = .ok d) (hs : g.fieldStatement f = .ok s) (turn : Datum) :
    renderAll known (("field", d) :: (turnWord, turn) :: ctx) fieldNodes = .ok s := by
  simp only [fieldDatum, fieldStatement, bind_eq_ok, pure_eq_ok] at hd hs
  obtain ⟨chain, hchain, rfl⟩ := hd
  obtain ⟨chain', hchain', rfl⟩ := hs
  obtain rfl : chain = chain' := Except.ok.inj (hchain.symm.trans hchain')
  have hname : ∀ {d : Datum}, d.part? "name" = some (.text f.name) →
      (CSharp.partOf "field" "name" [Filter.literal.name]).eval known
          (("field", d) :: (turnWord, turn) :: ctx) = .ok (.text (CSharp.literal f.name)) :=
    fun hp => Expr.eval_partOf_filter rfl hp hknown rfl
  have hcalls : ∀ {d : Datum}, d.part? "chain" = some (.text chain) →
      (CSharp.partOf "field" "chain" []).eval known
          (("field", d) :: (turnWord, turn) :: ctx) = .ok (.text chain) :=
    fun hp => Expr.eval_partOf rfl hp
  rw [fieldNodes, renderAll_cons rfl (renderAll_cons (by rw [Node.render, hname rfl])
    (renderAll_cons rfl (renderAll_cons (by rw [Node.render, hcalls rfl]) rfl)))]
  simp [Datum.display, Datum.text, String.append_assoc]

private theorem exists_fieldData {fields : List AuditField} {statements : List String}
    (hs : fields.mapM g.fieldStatement = .ok statements) :
    ∃ data, fields.mapM g.fieldDatum = .ok data := by
  simp only [mapM_eq_ok] at hs ⊢
  induction hs with
  | nil => exact ⟨[], .nil⟩
  | cons hs _ ih =>
    simp only [fieldStatement, bind_eq_ok] at hs
    obtain ⟨chain, hchain, -⟩ := hs
    obtain ⟨data, hdata⟩ := ih
    exact ⟨_ :: data, .cons (bind_eq_ok.mpr ⟨chain, hchain, rfl⟩) hdata⟩

/-- The variables of the template of the shared base. -/
private def baseContext (g : Generator) (space : Value) (data : List Datum) : Context :=
  g.commonContext ++ [("namespace", .value space), ("fields", .list data)]

private theorem renderAll_baseTemplate {space : Value} {fields : List AuditField}
    {data : List Datum} {statements : List String}
    (hknown : filterNamed? known Filter.literal.name = some .literal)
    (hdata : fields.mapM g.fieldDatum = .ok data)
    (hs : fields.mapM g.fieldStatement = .ok statements) :
    renderAll known (g.baseContext space data ++ standing CSharp.baseTemplateName)
        CSharp.baseTemplate
      = .ok (g.baseOpening space ++ String.join statements ++ baseClosing) := by
  let ctx := g.baseContext space data ++ standing CSharp.baseTemplateName
  have hcomments : (Expr.ofName "add_comments").eval known ctx
      = .ok (.value g.settings.addComments) := Expr.eval_ofName rfl
  have hbase : (Expr.ofName "base_class").eval known ctx
      = .ok (.value g.settings.baseClassName) := Expr.eval_ofName rfl
  have hspace : (Expr.ofName "namespace").eval known ctx = .ok (.value space) :=
    Expr.eval_ofName rfl
  have hloop : fieldsLoop.render known ctx = .ok (String.join statements) :=
    Node.render_loop_mapM (Expr.eval_ofName rfl) hdata hs
      fun _ _ _ hd hs turn => render_fieldStatement hknown hd hs turn
  have htemplate : CSharp.baseTemplate = CSharp.header ++ [CSharp.namespaceBlock,
      .text "\npublic abstract class ", CSharp.outputOf "base_class",
      .text "<T> : IEntityTypeConfiguration<T> where T : class\n\x7b\n",
      .text "    public virtual void Configure(EntityTypeBuilder<T> builder)\n    \x7b\n",
      fieldsLoop, .text baseClosing] := rfl
  show renderAll known ctx CSharp.baseTemplate = _
  simp only [htemplate, CSharp.header, CSharp.namespaceBlock, CSharp.outputOf, List.cons_append,
    List.nil_append, renderAll, Node.render, hloop, hcomments, hbase, hspace]
  cases hc : g.settings.addComments.truthy <;> cases hsp : space.truthy <;>
    simp [-String.reduceAppend, baseOpening, hc, hsp, Datum.truthy, Datum.display,
      String.append_assoc]

/-- The text of the shared base that the bundled template gives: one statement for each audit field,
in order, between the opening and the closing. -/
theorem baseText_eq {space : Value} {fields : List AuditField} {statements : List String}
    (hg : g.engine = bundledEngine) (hs : fields.mapM g.fieldStatement = .ok statements) :
    g.baseText space fields
      = .ok (Text.tidied (g.baseOpening space ++ String.join statements ++ baseClosing)) := by
  obtain ⟨data, hdata⟩ := exists_fieldData hs
  -- The filter of the template is known, so nothing keeps it from being rendered.
  have hrender : renderTemplate bundledEngine.filters CSharp.baseTemplateName
      (g.baseContext space data) CSharp.baseTemplate
        = .ok (g.baseOpening space ++ String.join statements ++ baseClosing) :=
    renderAll_baseTemplate rfl hdata hs
  have hfind : bundledEngine.shelf.find CSharp.baseTemplateName = .ok CSharp.baseTemplate := rfl
  have hengine : g.engine.render CSharp.baseTemplateName (g.baseContext space data)
      = .ok (g.baseOpening space ++ String.join statements ++ baseClosing) := by
    simp only [hg, Engine.render, hfind, bind, Except.bind, hrender]
    rfl
  simp only [baseText, bind_eq_ok, liftM_generatorError_eq_ok, pure_eq_ok]
  exact ⟨data, hdata, _, hengine, rfl⟩

end EntityMapping.Generator
