import EntityMapping.Template.Node

/-!
# The bundled templates

The templates of the two kinds of artifact: the abstract base with one statement for each audit
field, and the configuration of an entity with one statement for each property.
-/

namespace EntityMapping.CSharp

open Template

/-- The name of the template of the shared base. -/
def baseTemplateName : String := "audit_base.cs.j2"

/-- The name of the template of an entity's configuration. -/
def entityTemplateName : String := "entity_config.cs.j2"

/-- The output of a variable. -/
def outputOf (name : String) : Node := .output (.ofName name)

/-- The part of a variable with a name, after filters. -/
def partOf (name part : String) (filters : List String) : Expr :=
  { root := .name name, steps := [.name part], filters }

/-- What both templates start with: a comment, if it is wanted, and the namespaces that every
configuration uses. -/
def header : List Node := [
  .branch (.ofName "add_comments") [.text "// <auto-generated />\n"] [],
  .text "using Microsoft.EntityFrameworkCore;\n",
  .text "using Microsoft.EntityFrameworkCore.Metadata.Builders;\n"]

/-- The declaration of the namespace, if there is one. -/
def namespaceBlock : Node :=
  .branch (.ofName "namespace") [.text "\nnamespace ", outputOf "namespace", .text ";\n"] []

/-- The template of the shared base. -/
def baseTemplate : List Node := header ++ [
  namespaceBlock,
  .text "\npublic abstract class ", outputOf "base_class",
  .text "<T> : IEntityTypeConfiguration<T> where T : class\n\x7b\n",
  .text "    public virtual void Configure(EntityTypeBuilder<T> builder)\n    \x7b\n",
  .loop "field" (.ofName "fields") [
    .text "        builder.Property(", .output (partOf "field" "name" ["csharp_string"]),
    .text ")", .output (partOf "field" "chain" []), .text ";\n"] [],
  .text "    \x7d\n\x7d\n"]

/-- The template of an entity's configuration. -/
def entityTemplate : List Node := header ++ [
  .loop "ns" (.ofName "usings") [.text "using ", outputOf "ns", .text ";\n"] [],
  namespaceBlock,
  .text "\npublic partial class ", outputOf "class_name", .text " : ", outputOf "base_class",
  .text "<", outputOf "entity_name", .text ">\n\x7b\n",
  .text "    public override void Configure(EntityTypeBuilder<", outputOf "entity_name",
  .text "> builder)\n    \x7b\n",
  .loop "property" (.ofName "properties") [
    .text "        builder.Property(e => e.", .output (partOf "property" "name" []),
    .text ")", .output (partOf "property" "chain" []), .text ";\n"] [],
  .text "        base.Configure(builder);\n    \x7d\n\x7d\n"]

/-- The bundled templates under their names. -/
def bundledTemplates : List (String × List Node) :=
  [(baseTemplateName, baseTemplate), (entityTemplateName, entityTemplate)]

/-- Where the bundled templates lie, as listings show it. -/
def templatesPlace : String := "codegen/languages/csharp/templates"

end EntityMapping.CSharp
