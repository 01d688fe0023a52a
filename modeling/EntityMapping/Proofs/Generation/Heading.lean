import EntityMapping.Generation.Generator
import EntityMapping.Proofs.Text.Tidy

/-!
# What every artifact starts with

Every artifact starts with the comment, if it is wanted, and with fixed namespaces; then comes the
declaration of its namespace, if there is one, after an empty line.

## Main definitions

* `Generator.headingLines` — the comment and the fixed namespaces.
* `Generator.spaceLines` — the declaration of the namespace.
-/

namespace EntityMapping.Generator

open Text

/-- The comment, if it is wanted, and the namespaces that every artifact uses. -/
def headingLines (g : Generator) : List String :=
  (if g.settings.addComments.truthy then ["// <auto-generated />"] else [])
    ++ ["using Microsoft.EntityFrameworkCore;",
      "using Microsoft.EntityFrameworkCore.Metadata.Builders;"]

/-- An empty line and the declaration of the namespace, unless the namespace is empty. -/
def spaceLines (space : String) : List String :=
  if space = "" then [] else ["", "namespace " ++ space ++ ";"]

variable {g : Generator} {space : String}

theorem lined_headingLines (g : Generator) :
    lined g.headingLines
      = (if g.settings.addComments.truthy then "// <auto-generated />\n" else "")
        ++ "using Microsoft.EntityFrameworkCore;\n"
        ++ "using Microsoft.EntityFrameworkCore.Metadata.Builders;\n" := by
  have hfixed : lined ["using Microsoft.EntityFrameworkCore;",
      "using Microsoft.EntityFrameworkCore.Metadata.Builders;"]
      = "using Microsoft.EntityFrameworkCore;\n"
        ++ "using Microsoft.EntityFrameworkCore.Metadata.Builders;\n" := rfl
  rw [headingLines, lined_append, hfixed, String.append_assoc]
  congr 1
  split <;> rfl

theorem lined_spaceLines (space : String) :
    lined (spaceLines space)
      = if (Value.text space).truthy then "\nnamespace " ++ (Value.text space).display ++ ";\n"
        else "" := by
  have hnamespace : "\nnamespace " = "" ++ "\n" ++ "namespace " := rfl
  have hend : ";\n" = ";" ++ "\n" := rfl
  rw [spaceLines]
  by_cases h : space = ""
  · simp [h, Value.truthy]
  · simp [-String.reduceAppend, h, Value.truthy, hnamespace, hend, String.append_assoc]

theorem isFull_of_mem_headingLines {l : String} (h : l ∈ g.headingLines) : IsFull l := by
  simp only [headingLines, List.mem_append, List.mem_ite_nil_right, List.mem_cons,
    List.not_mem_nil, or_false] at h
  rcases h with ⟨-, rfl⟩ | rfl | rfl <;> decide

/-- A heading, the declaration of the namespace and a body stand in paragraphs. -/
theorem paragraphs_append {heading body : List String} (hheading : heading ≠ [])
    (hheadingFull : ∀ l ∈ heading, IsFull l) (hspace : '\n' ∉ space.toList) (hbody : body ≠ [])
    (hbodyFull : ∀ l ∈ body, IsFull l) :
    Paragraphs (heading ++ spaceLines space ++ "" :: body) := by
  have hdeclaration : ∀ l ∈ ["namespace " ++ space ++ ";"], IsFull l :=
    List.forall_mem_singleton.mpr
      (IsFull.append_left (by decide) (notMem_toList_append.mpr ⟨by decide, hspace⟩))
  have hlast : Paragraphs body := .single hbody hbodyFull
  rw [spaceLines]
  split_ifs
  · rw [List.append_nil]
    exact .before hheading hheadingFull hlast
  · rw [List.append_assoc]
    exact .before hheading hheadingFull (.before (List.cons_ne_nil _ _) hdeclaration hlast)

end EntityMapping.Generator
