import EntityMapping.AuditList
import EntityMapping.Proofs.Outcome
import EntityMapping.Proofs.Text.Pieces
import EntityMapping.Proofs.Text.Trimming

/-!
# What a line of the list says

A line describes a field just if it has one colon and something that is not blank after it
(`AuditField.ofLine?_eq_some_iff`); every other line is passed over.  So the fields of lines are
bare ones, and each of them is told by the line that has it and nothing else on it
(`AuditField.ofLine?_line_iff`).

## Main definitions

* `Tells` — a line tells the keyword and the name of a field.
* `AuditField.line` — the line with a field and nothing else.
* `AuditField.IsBare` — a field without colons in it and blanks around its parts.
* `AuditField.IsOn` — a field is on a line, with blanks around its parts.
-/

namespace EntityMapping

open Text

/-- A line tells the keyword and the name of a field: it has one colon, the keyword stands before
it and the name after it, with blanks around them, and the name is not empty. -/
def Tells (line keyword name : String) : Prop :=
  ∃ before after, line.toList = before ++ ':' :: after ∧ ':' ∉ before ∧ ':' ∉ after
    ∧ keyword = String.ofList (trim before) ∧ name = String.ofList (trim after) ∧ name ≠ ""

namespace AuditField

theorem ofLine?_eq_some_iff {line keyword name : String} :
    ofLine? line = some ⟨keyword, name⟩ ↔ Tells line keyword name := by
  constructor
  · intro h
    rw [ofLine?, ofChars?] at h
    split at h
    · rename_i before after hcut
      dsimp only at h
      split_ifs at h with hname
      obtain ⟨rfl, rfl⟩ := AuditField.mk.inj (Option.some.inj h)
      obtain ⟨hline, hbefore, hafter⟩ := cut_eq_pair.mp hcut
      exact ⟨before, after, hline, hbefore, hafter, rfl, rfl, fun he => hname (by simpa using he)⟩
    · cases h
  · rintro ⟨before, after, hline, hbefore, hafter, hkeyword, hname, hne⟩
    have hcut : cut ':' line.toList = [before, after] := cut_eq_pair.mpr ⟨hline, hbefore, hafter⟩
    have htrim : trim after ≠ [] := fun he => hne (by rw [hname, he])
    rw [ofLine?, ofChars?, hcut]
    dsimp only
    rw [if_neg htrim, ← hkeyword, ← hname]

theorem ofLine?_eq_none_iff {line : String} :
    ofLine? line = none ↔ ∀ keyword name, ¬Tells line keyword name := by
  constructor
  · intro h keyword name htells
    have hf : ofLine? line = some ⟨keyword, name⟩ := ofLine?_eq_some_iff.mpr htells
    rw [h] at hf
    cases hf
  · intro h
    cases hf : ofLine? line with
    | none => rfl
    | some f => exact absurd (ofLine?_eq_some_iff.mp hf) (h _ _)

/-! ### Bare fields -/

/-- The line with a field and nothing else. -/
def line (f : AuditField) : String := f.typeKeyword ++ ":" ++ f.name

/-- The parts of a field have no colons in them and no blanks around them, and its name is not
empty. -/
structure IsBare (f : AuditField) : Prop where
  trimmedKeyword : trimmed f.typeKeyword = f.typeKeyword
  trimmedName : trimmed f.name = f.name
  noColonInKeyword : ':' ∉ f.typeKeyword.toList
  noColonInName : ':' ∉ f.name.toList
  named : f.name ≠ ""

variable {f : AuditField} {l : String}

theorem isBare_of_tells (h : Tells l f.typeKeyword f.name) : f.IsBare := by
  obtain ⟨before, after, -, hbefore, hafter, hkeyword, hname, hne⟩ := h
  have htrimmed (s : List Char) :
      trimmed (String.ofList (trim s)) = String.ofList (trim s) := by
    rw [trimmed, String.toList_ofList, trim_trim]
  exact {
    trimmedKeyword := by rw [hkeyword, htrimmed]
    trimmedName := by rw [hname, htrimmed]
    noColonInKeyword := by
      rw [hkeyword, String.toList_ofList]
      exact fun hc => hbefore (mem_of_mem_trim hc)
    noColonInName := by
      rw [hname, String.toList_ofList]
      exact fun hc => hafter (mem_of_mem_trim hc)
    named := hne }

theorem IsBare.tells (h : f.IsBare) : Tells f.line f.typeKeyword f.name := by
  refine ⟨f.typeKeyword.toList, f.name.toList, ?_, h.noColonInKeyword, h.noColonInName,
    h.trimmedKeyword.symm, h.trimmedName.symm, h.named⟩
  rw [line, String.toList_append, String.toList_append, List.append_assoc]
  rfl

/-- The line with a field and nothing else tells it just if it is bare. -/
theorem ofLine?_line_iff : ofLine? f.line = some f ↔ f.IsBare :=
  ⟨fun h => isBare_of_tells (ofLine?_eq_some_iff.mp h), fun h => ofLine?_eq_some_iff.mpr h.tells⟩

/-- A field is on a line: the line has one colon, the keyword before it and the name behind it have
nothing but blanks around them, and the name is not empty. -/
def IsOn (f : AuditField) (l : String) : Prop :=
  ∃ before after, l.toList = before ++ ':' :: after ∧ ':' ∉ before ∧ ':' ∉ after
    ∧ Trims before f.typeKeyword.toList ∧ Trims after f.name.toList ∧ f.name ≠ ""

theorem tells_iff_isOn : Tells l f.typeKeyword f.name ↔ f.IsOn l := by
  have htrims (s : List Char) (t : String) : t = String.ofList (trim s) ↔ Trims s t.toList := by
    rw [← trim_eq_iff, String.ext_iff, String.toList_ofList, eq_comm]
  simp only [Tells, IsOn, htrims]

/-- The field that is on a line is read from it, and nothing is read from any other line.  What is
read is bare, and the line with it and nothing else gives it again. -/
theorem ofLine?_isOn (l : String) :
    (∀ f, ofLine? l = some f ↔ f.IsOn l)
      ∧ (ofLine? l = none ↔ ∀ f : AuditField, ¬f.IsOn l)
      ∧ ∀ f, ofLine? l = some f → f.IsBare ∧ ofLine? f.line = some f := by
  simp only [← tells_iff_isOn]
  refine ⟨fun f => ofLine?_eq_some_iff, ?_, fun f hf => ?_⟩
  · rw [ofLine?_eq_none_iff]
    exact ⟨fun h f => h f.typeKeyword f.name, fun h keyword name => h ⟨keyword, name⟩⟩
  · have hbare : f.IsBare := isBare_of_tells (ofLine?_eq_some_iff.mp hf)
    exact ⟨hbare, ofLine?_line_iff.mpr hbare⟩

/-- A line with blanks at all places where they do not count. -/
theorem ofLine?_isOn_blanks :
    ofLine? " int\u2003:\tKey " = some ⟨"int", "Key"⟩
      ∧ (⟨"int", "Key"⟩ : AuditField).IsBare ∧ ofLine? "int:Key" = some ⟨"int", "Key"⟩ := by
  have hline : ofLine? " int\u2003:\tKey " = some ⟨"int", "Key"⟩ := by decide
  obtain ⟨-, -, hbare⟩ := ofLine?_isOn " int\u2003:\tKey "
  exact ⟨hline, hbare _ hline⟩

end AuditField

/-- The fields of texts are those that they describe. -/
theorem auditFields_texts (ls : List String) :
    auditFields (.list (ls.map .text)) = .ok (ls.filterMap AuditField.ofLine?) := by
  have hitems : auditLines (.list (ls.map .text)) = .ok (ls.map .text) := by
    cases ls <;> rfl
  have hfound : (ls.map Value.text).mapM AuditField.ofValue? = .ok (ls.map AuditField.ofLine?) := by
    rw [mapM_eq_ok, List.forall₂_map_left_iff, List.forall₂_map_right_iff]
    exact List.forall₂_same.mpr fun l _ => rfl
  rw [auditFields, bind_eq_ok]
  refine ⟨_, hitems, ?_⟩
  rw [bind_eq_ok]
  refine ⟨_, hfound, ?_⟩
  rw [pure_eq_ok, List.filterMap_map]
  rfl

end EntityMapping
