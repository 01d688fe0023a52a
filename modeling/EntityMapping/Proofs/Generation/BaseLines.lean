import EntityMapping.Proofs.AuditList
import EntityMapping.Proofs.CSharp.Directives
import EntityMapping.Proofs.CSharp.Literals
import EntityMapping.Proofs.Generation.Heading
import EntityMapping.Proofs.Generation.Refinement
import EntityMapping.Proofs.Generation.SharedBase

/-!
# The lines of the shared base

Where nothing that is put into it has a line end, the text of the shared base is known line by line
from the lines of the list of audit fields (`Generator.baseText_eq_lined`): each line that tells a
field gives one line, and every other line gives none.

## Main definitions

* `Generator.typeCalls` — what the keyword of a field adds to its line.
* `Generator.fieldLine` — the line that configures a field.
* `Generator.FieldLines` — the lines for a list of audit fields.
* `Generator.baseLines` — all lines of the shared base.
* `Generator.BaseInserts` — nothing put into the shared base has a line end.
-/

namespace EntityMapping

open Text

namespace Generator

/-! ### The lines -/

/-- What a keyword in lower case adds to the line of a field. -/
def typeCalls (length : Value) (keyword : String) : String :=
  if keyword = "string" then ".HasMaxLength(" ++ length.display ++ ")"
  else if keyword = "datetime" then ".HasColumnType(\"timestamp\")"
  else if keyword = "int" then ".HasColumnType(\"integer\")"
  else if keyword = "bool" then ".HasColumnType(\"boolean\")"
  else ""

/-- The line that configures a field with a keyword and a name. -/
def fieldLine (g : Generator) (keyword name : String) : String :=
  "        builder.Property(" ++ CSharp.literal name ++ ")"
    ++ typeCalls g.settings.defaultStringLength (lowered keyword)
    ++ ".HasColumnName(" ++ CSharp.literal (storageName name) ++ ");"

/-- The lines for a list of audit fields: one for each line that tells a field, in order, and none
for any other line. -/
inductive FieldLines (g : Generator) : List String → List String → Prop
  | nil : FieldLines g [] []
  | told {line keyword name : String} {lines statements : List String}
      (htells : Tells line keyword name) (h : FieldLines g lines statements) :
      FieldLines g (line :: lines) (g.fieldLine keyword name :: statements)
  | passed {line : String} {lines statements : List String}
      (hnone : ∀ keyword name, ¬Tells line keyword name) (h : FieldLines g lines statements) :
      FieldLines g (line :: lines) statements

/-- The line that declares the class of the shared base. -/
def baseClassLine (g : Generator) : String :=
  "public abstract class " ++ g.settings.baseClassName.display
    ++ "<T> : IEntityTypeConfiguration<T> where T : class"

/-- The lines of the shared base with given lines for the fields. -/
def baseLines (g : Generator) (space : String) (statements : List String) : List String :=
  g.headingLines
    ++ spaceLines space
    ++ "" :: ([g.baseClassLine,
      "\x7b",
      "    public virtual void Configure(EntityTypeBuilder<T> builder)",
      "    \x7b"]
    ++ statements
    ++ ["    \x7d", "\x7d"])

/-- Nothing that is put into the shared base has a line end. -/
structure BaseInserts (g : Generator) (space : String) (lines : List String) : Prop where
  baseClass : '\n' ∉ g.settings.baseClassName.display.toList
  space : '\n' ∉ space.toList
  length : '\n' ∉ g.settings.defaultStringLength.display.toList
  name : ∀ line ∈ lines, ∀ keyword name, Tells line keyword name → '\n' ∉ name.toList

variable {g : Generator} {space : String} {lines statements : List String}

/-- The chain of calls for a field is what its keyword adds and the name of its column. -/
private theorem chain_auditDirectives (f : AuditField) (length : Value) :
    CSharp.chain (auditDirectives f length)
      = .ok (typeCalls length (lowered f.typeKeyword)
        ++ (".HasColumnName(" ++ CSharp.literal (storageName f.name) ++ ")")) := by
  have hchain (typed : List Directive) (s : String) (h : CSharp.chain typed = .ok s) :
      CSharp.chain (typed ++ [⟨.columnName, .text (storageName f.name)⟩])
        = .ok (s ++ (".HasColumnName(" ++ CSharp.literal (storageName f.name) ++ ")")) := by
    obtain ⟨calls, hcalls, rfl⟩ := CSharp.chain_eq_ok.mp h
    refine CSharp.chain_eq_ok.mpr
      ⟨calls ++ [".HasColumnName(" ++ CSharp.literal (storageName f.name) ++ ")"], ?_, ?_⟩
    · rw [List.mapM_append, hcalls]
      rfl
    · rw [String.join_append, String.join_cons, String.join_nil, String.append_empty]
  refine hchain _ _ ?_
  generalize lowered f.typeKeyword = keyword
  unfold typeCalls auditColumnType?
  split_ifs
  · exact congrArg Except.ok (String.append_empty)
  · decide
  · decide
  · decide
  · rfl

theorem fieldStatement_eq (f : AuditField) :
    g.fieldStatement f = .ok (g.fieldLine f.typeKeyword f.name ++ "\n") := by
  have hend : ";\n" = ";" ++ "\n" := rfl
  have hclose : ");" = ")" ++ ";" := rfl
  simp only [fieldStatement, bind_eq_ok, pure_eq_ok]
  refine ⟨_, chain_auditDirectives f g.settings.defaultStringLength, ?_⟩
  unfold fieldLine
  generalize lowered f.typeKeyword = keyword
  simp only [hend, hclose, String.append_assoc]

/-- There are just the lines of the fields that the list tells. -/
theorem fieldLines_iff : g.FieldLines lines statements ↔
    statements
      = (lines.filterMap AuditField.ofLine?).map fun f => g.fieldLine f.typeKeyword f.name := by
  constructor
  · intro h
    induction h with
    | nil => rfl
    | told htells _ ih =>
      rw [List.filterMap_cons_some (AuditField.ofLine?_eq_some_iff.mpr htells), List.map_cons, ← ih]
    | passed hnone _ ih =>
      rw [List.filterMap_cons_none (AuditField.ofLine?_eq_none_iff.mpr hnone), ih]
  · rintro rfl
    induction lines with
    | nil => exact .nil
    | cons line r ih =>
      cases hf : AuditField.ofLine? line with
      | none =>
        rw [List.filterMap_cons_none hf]
        exact .passed (AuditField.ofLine?_eq_none_iff.mp hf) ih
      | some f =>
        rw [List.filterMap_cons_some hf]
        exact .told (AuditField.ofLine?_eq_some_iff.mp hf) ih

/-- The statements of fields are their lines with line ends. -/
private theorem mapM_fieldStatement (fields : List AuditField) :
    fields.mapM g.fieldStatement
      = .ok ((fields.map fun f => g.fieldLine f.typeKeyword f.name).map (· ++ "\n")) := by
  rw [mapM_eq_ok, List.map_map, List.forall₂_map_right_iff, List.forall₂_same]
  exact fun f _ => fieldStatement_eq f

private theorem lined_baseLines :
    lined (g.baseLines space statements)
      = g.baseOpening (.text space) ++ lined statements ++ baseClosing := by
  have hclass : "\npublic abstract class " = "" ++ "\n" ++ "public abstract class " := rfl
  have hbrace : "<T> : IEntityTypeConfiguration<T> where T : class\n\x7b\n"
      = "<T> : IEntityTypeConfiguration<T> where T : class" ++ "\n" ++ "\x7b" ++ "\n" := rfl
  have hconfigure : "    public virtual void Configure(EntityTypeBuilder<T> builder)\n    \x7b\n"
      = "    public virtual void Configure(EntityTypeBuilder<T> builder)" ++ "\n" ++ "    \x7b"
        ++ "\n" := rfl
  have hclosing : baseClosing = lined ["    \x7d", "\x7d"] := rfl
  simp only [baseLines, lined_append, lined_headingLines, lined_spaceLines, baseOpening, hclosing]
  unfold baseClassLine
  simp only [hclass, hbrace, hconfigure, lined_cons, lined_append, lined_nil, String.append_assoc,
    String.append_empty]

private theorem isFull_fieldLine {line keyword name : String} (h : g.BaseInserts space lines)
    (hline : line ∈ lines) (htells : Tells line keyword name) :
    IsFull (g.fieldLine keyword name) := by
  have hname : '\n' ∉ name.toList := h.name line hline keyword name htells
  have hstorage : '\n' ∉ (storageName name).toList :=
    (mem_storageName_iff (by decide)).not.mpr hname
  have hliteral {s : String} (hs : '\n' ∉ s.toList) : '\n' ∉ (CSharp.literal s).toList :=
    (CSharp.mem_literal_iff (by decide) (by decide)).not.mpr hs
  have hcalls : '\n' ∉ (typeCalls g.settings.defaultStringLength (lowered keyword)).toList := by
    unfold typeCalls
    split_ifs
    · simp only [notMem_toList_append]
      exact ⟨⟨by decide, h.length⟩, by decide⟩
    all_goals decide
  refine IsFull.append_left (by decide) ?_
  simp only [notMem_toList_append]
  exact ⟨⟨⟨⟨⟨by decide, hliteral hname⟩, by decide⟩, hcalls⟩, by decide⟩, hliteral hstorage⟩

private theorem isFull_of_mem_fieldLines (h : g.BaseInserts space lines)
    (hlines : g.FieldLines lines statements) : ∀ l ∈ statements, IsFull l := by
  induction hlines with
  | nil => exact fun _ hl => absurd hl List.not_mem_nil
  | told htells _ ih =>
    have htail := ih { h with name := fun line hline => h.name line (List.mem_cons_of_mem _ hline) }
    exact List.forall_mem_cons.mpr ⟨isFull_fieldLine h List.mem_cons_self htells, htail⟩
  | passed _ _ ih =>
    exact ih { h with name := fun line hline => h.name line (List.mem_cons_of_mem _ hline) }

private theorem paragraphs_baseLines (h : g.BaseInserts space lines)
    (hlines : g.FieldLines lines statements) : Paragraphs (g.baseLines space statements) := by
  refine paragraphs_append (by simp [headingLines]) (fun _ => isFull_of_mem_headingLines) h.space
    (by simp) ?_
  intro l hl
  simp only [List.mem_append, List.mem_cons, List.not_mem_nil, or_false] at hl
  rcases hl with ((rfl | rfl | rfl | rfl) | hl) | rfl | rfl
  · exact IsFull.append_left (by decide) (notMem_toList_append.mpr ⟨by decide, h.baseClass⟩)
  · decide
  · decide
  · decide
  · exact isFull_of_mem_fieldLines h hlines l hl
  · decide
  · decide

/-- The text of the shared base that the bundled template gives, line by line, from the lines of the
list of audit fields. -/
theorem baseText_eq_lined (hg : g.engine = bundledEngine) (hinserts : g.BaseInserts space lines) :
    ∃ fields statements, auditFields (.list (lines.map .text)) = .ok fields
      ∧ g.FieldLines lines statements
      ∧ g.baseText (.text space) fields = .ok (lined (g.baseLines space statements)) := by
  let statements := (lines.filterMap AuditField.ofLine?).map fun f =>
    g.fieldLine f.typeKeyword f.name
  have hlines : g.FieldLines lines statements := fieldLines_iff.mpr rfl
  refine ⟨_, statements, auditFields_texts lines, hlines, ?_⟩
  have hjoin : String.join (statements.map (· ++ "\n")) = lined statements := rfl
  rw [baseText_eq hg (mapM_fieldStatement _), hjoin, ← lined_baseLines,
    tidied_lined (paragraphs_baseLines hinserts hlines)]

namespace Shop

/-- A list of audit fields with lines that tell none, and with one of its fields twice. -/
def auditLines : List String :=
  ["DateTime : CreatedAt", "", "string:Note", "int:", "a:b:c", "id:RowKey", "DateTime : CreatedAt"]

/-- The lines of the shared base for the list. -/
def baseLines : List String := [
  "// <auto-generated />",
  "using Microsoft.EntityFrameworkCore;",
  "using Microsoft.EntityFrameworkCore.Metadata.Builders;",
  "",
  "namespace Shop.Data;",
  "",
  "public abstract class AuditEntityConfiguration<T> : IEntityTypeConfiguration<T> where T : class",
  "\x7b",
  "    public virtual void Configure(EntityTypeBuilder<T> builder)",
  "    \x7b",
  "        builder.Property(\"CreatedAt\").HasColumnType(\"timestamp\")"
    ++ ".HasColumnName(\"created_at\");",
  "        builder.Property(\"Note\").HasMaxLength(255).HasColumnName(\"note\");",
  "        builder.Property(\"RowKey\").HasColumnName(\"row_key\");",
  "        builder.Property(\"CreatedAt\").HasColumnType(\"timestamp\")"
    ++ ".HasColumnName(\"created_at\");",
  "    \x7d",
  "\x7d"]

end Shop

open Run.Shop in
/-- The shared base of the shop for the list. -/
theorem baseText_eq_lined_shop :
    ∃ fields, auditFields (.list (Shop.auditLines.map .text)) = .ok fields
      ∧ generator.baseText (.text "Shop.Data") fields = .ok (lined Shop.baseLines) := by
  have hnames : ∀ f ∈ Shop.auditLines.filterMap AuditField.ofLine?, '\n' ∉ f.name.toList := by
    decide +kernel
  have hinserts : generator.BaseInserts "Shop.Data" Shop.auditLines :=
    { baseClass := by decide
      space := by decide
      length := by decide
      name := fun line hline keyword name htells => by
        have hf := AuditField.ofLine?_eq_some_iff.mpr htells
        exact hnames _ (List.mem_filterMap.mpr ⟨line, hline, hf⟩) }
  obtain ⟨fields, statements, hfields, hlines, htext⟩ := baseText_eq_lined rfl hinserts
  refine ⟨fields, hfields, ?_⟩
  have htold : generator.baseLines "Shop.Data" statements = Shop.baseLines := by
    rw [fieldLines_iff.mp hlines]
    decide +kernel
  rw [htext, htold]

end Generator

end EntityMapping
