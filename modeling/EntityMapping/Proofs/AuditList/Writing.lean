import EntityMapping.Proofs.Resource.Sources

/-!
# Lists of fields that are written and read

A list of fields is written with a line `type:Name` for each field and any other lines in between,
as long as those are blank or have not just one colon.  Lines end as on either kind of system, and
nothing has to end the last one.  Whether the file starts with a signature or not, reading it gives
the fields in the order in which they were written (`auditFields_of_writesList`).

## Main definitions

* `IsPlainPart` — a type or a name that can be written on a line as it is.
* `WritesLine` — a line is written for a field, or for none.
* `WritesList` — a text is written for a list of fields.
-/

namespace EntityMapping

open Text

/-! ### Writing lists -/

/-- A text without colons and line ends, and without blanks around it. -/
structure IsPlainPart (s : String) : Prop where
  noColon : ':' ∉ s.toList
  unbroken : ∀ c ∈ s.toList, isLineBreak c = false
  trimmed : trimmed s = s

/-- A line is written for a field or for none. -/
inductive WritesLine : String → Option AuditField → Prop
  | field {keyword name : String} (hkeyword : IsPlainPart keyword) (hname : IsPlainPart name)
      (hne : name ≠ "") : WritesLine (keyword ++ ":" ++ name) (some ⟨keyword, name⟩)
  | other {line : String} (hunbroken : ∀ c ∈ line.toList, isLineBreak c = false)
      (hother : isBlankText line = true ∨ line.toList.count ':' ≠ 1) : WritesLine line none

/-- What ends a line. -/
def lineEnds : List String := ["\n", "\r\n"]

/-- A text is written for a list of fields, line by line. -/
inductive WritesList : String → List AuditField → Prop
  | nil : WritesList "" []
  | unended {line : String} {f : Option AuditField} (hline : WritesLine line f) :
      WritesList line f.toList
  | ended {line lineEnd rest : String} {f : Option AuditField} {fs : List AuditField}
      (hline : WritesLine line f) (hend : lineEnd ∈ lineEnds) (hrest : WritesList rest fs) :
      WritesList (line ++ lineEnd ++ rest) (f.toList ++ fs)

variable {line text : String} {f : Option AuditField} {fields : List AuditField}

/-! ### Reading lines -/

theorem WritesLine.unbroken (h : WritesLine line f) : ∀ c ∈ line.toList, isLineBreak c = false := by
  cases h with
  | field hkeyword hname _ =>
    intro c hc
    rw [String.toList_append, String.toList_append, List.mem_append, List.mem_append] at hc
    rcases hc with (hc | hc) | hc
    · exact hkeyword.unbroken c hc
    · rw [List.mem_singleton.mp hc]
      rfl
    · exact hname.unbroken c hc
  | other hunbroken _ => exact hunbroken

/-- A line that tells a field is not blank and has one colon. -/
theorem Tells.count_eq_one {keyword name : String} (h : Tells line keyword name) :
    isBlankText line = false ∧ line.toList.count ':' = 1 := by
  obtain ⟨before, after, hline, hbefore, hafter, -⟩ := h
  constructor
  · rw [isBlankText, hline, List.all_eq_false]
    exact ⟨':', by simp, by decide⟩
  · rw [hline, List.count_append, List.count_cons_self, List.count_eq_zero.mpr hbefore,
      List.count_eq_zero.mpr hafter]

/-- A line is read as what it was written for. -/
theorem WritesLine.ofLine?_eq (h : WritesLine line f) : AuditField.ofLine? line = f := by
  cases h with
  | @field keyword name hkeyword hname hne =>
    refine AuditField.ofLine?_eq_some_iff.mpr
      ⟨keyword.toList, name.toList, ?_, hkeyword.noColon, hname.noColon, hkeyword.trimmed.symm,
        hname.trimmed.symm, hne⟩
    rw [String.toList_append, String.toList_append, List.append_assoc]
    rfl
  | other _ hother =>
    refine AuditField.ofLine?_eq_none_iff.mpr fun keyword name htells => ?_
    obtain ⟨hblank, hcount⟩ := htells.count_eq_one
    rcases hother with hother | hother
    · exact Bool.false_ne_true (hblank.symm.trans hother)
    · exact hother hcount

theorem splitLines_lineEnd {lineEnd : String} (h : lineEnd ∈ lineEnds) (r : List Char) :
    splitLines (lineEnd.toList ++ r) = [] :: splitLines r := by
  rw [lineEnds, List.mem_pair] at h
  rcases h with rfl | rfl
  · exact splitLines_cons_of_break rfl fun h => nomatch h
  · exact splitLines.eq_2 r

/-- The lines of a text tell the fields that it was written for. -/
theorem WritesList.filterMap_linesOf (h : WritesList text fields) :
    (linesOf text.toList).filterMap AuditField.ofLine? = fields := by
  induction h with
  | nil => rfl
  | @unended line f hline =>
    rw [← hline.ofLine?_eq]
    by_cases hempty : line.toList = []
    · rw [String.toList_eq_nil_iff.mp hempty]
      rfl
    · rw [linesOf, splitLines_of_unbroken hline.unbroken hempty, List.map_singleton,
        String.ofList_toList]
      cases hf : AuditField.ofLine? line <;> simp [hf]
  | @ended line lineEnd rest f fs hline hend _ ih =>
    rw [linesOf, String.toList_append, String.toList_append, List.append_assoc,
      splitLines_append hline.unbroken (splitLines_lineEnd hend _), List.map_cons,
      String.ofList_toList, ← linesOf, List.filterMap_cons, hline.ofLine?_eq, ih]
    cases f <;> rfl

/-! ### Reading files -/

section Files

variable {ask : String → Reply} {fs : FileSystem} {path : String} {octets content : Utf8.Octets}

/-- The octets of a text are those of its characters, after a signature or, if the text does not
start with the character of the signature, without one; reading them gives the characters. -/
theorem Utf8.exists_unsigned (htext : Utf8.encodeText? text.toList = some octets)
    (hcontent : content = Utf8.signature ++ octets
      ∨ content = octets ∧ text.toList.head? ≠ some '\ufeff') :
    ∃ cs, content = Utf8.encode cs ∧ ofChars (Utf8.unsigned cs) = text.toList := by
  obtain ⟨cs, hcs, rfl⟩ := Option.map_eq_some_iff.mp htext
  rw [chars?_eq_some_iff] at hcs
  rcases hcontent with rfl | ⟨rfl, hhead⟩
  · exact ⟨_, Utf8.signature_append_encode cs, hcs.symm⟩
  · refine ⟨cs, rfl, ?_⟩
    rw [hcs, Utf8.unsigned_of_head?_ne]
    rintro h
    obtain ⟨r, rfl⟩ := List.head?_eq_some_iff.mp h
    exact hhead (by rw [hcs, ofChars_cons_of_ne r (by decide), List.head?_cons])

/-- A file that was written for a list of fields gives lines that tell just these fields. -/
theorem auditFields_of_writesList (hlist : WritesList text fields)
    (htext : Utf8.encodeText? text.toList = some octets)
    (hcontent : content = Utf8.signature ++ octets
      ∨ content = octets ∧ text.toList.head? ≠ some '\ufeff')
    (hread : fs.read (.ofText path) = .ok content) :
    ∃ lines, (loadLines fs ask (.file (.text path))).1 = .ok (some lines)
      ∧ auditFields (CommandLine.linesValue (some lines)) = .ok fields := by
  obtain ⟨cs, rfl, hcs⟩ := Utf8.exists_unsigned htext hcontent
  have hload : (loadLines fs ask (.file (.text path))).1
      = .ok (some (linesOf (ofChars (Utf8.unsigned cs)))) := loadFileLines_encode hread
  refine ⟨_, hload, ?_⟩
  rw [CommandLine.linesValue, auditFields_texts, hcs, hlist.filterMap_linesOf]

/-- A list with both kinds of line ends, two other lines and a last line that is not ended. -/
theorem auditFields_of_writesList_mixed :
    ∃ lines, (loadLines (Sample.textFile "\ufeffdatetime:CreatedAt\r\na:b:c\n\n:Key")
        (Sample.textAnswer "") (.file (.text "AuditFields.txt"))).1 = .ok (some lines)
      ∧ auditFields (CommandLine.linesValue (some lines))
        = .ok [⟨"datetime", "CreatedAt"⟩, ⟨"", "Key"⟩] := by
  have hunbroken {s : String} (h : s.toList.any isLineBreak = false) :
      ∀ c ∈ s.toList, isLineBreak c = false := by
    simpa using h
  have hdatetime : IsPlainPart "datetime" := ⟨by decide, hunbroken rfl, rfl⟩
  have hcreatedAt : IsPlainPart "CreatedAt" := ⟨by decide, hunbroken rfl, rfl⟩
  have hnone : IsPlainPart "" := ⟨by decide, hunbroken rfl, rfl⟩
  have hkey : IsPlainPart "Key" := ⟨by decide, hunbroken rfl, rfl⟩
  have hlist : WritesList "datetime:CreatedAt\r\na:b:c\n\n:Key"
      [⟨"datetime", "CreatedAt"⟩, ⟨"", "Key"⟩] :=
    @WritesList.ended "datetime:CreatedAt" "\r\n" "a:b:c\n\n:Key" _ _
      (.field hdatetime hcreatedAt (by decide)) (by decide) <|
    @WritesList.ended "a:b:c" "\n" "\n:Key" _ _
      (.other (hunbroken rfl) (.inr (by decide))) (by decide) <|
    @WritesList.ended "" "\n" ":Key" _ _ (.other (hunbroken rfl) (.inl rfl)) (by decide) <|
    @WritesList.unended ":Key" _ (.field hnone hkey (by decide))
  have hread (s : String) : (Sample.textFile s).read (.ofText "AuditFields.txt")
      = .ok (Utf8.encode s.toList) := rfl
  have hfile : "\ufeffdatetime:CreatedAt\r\na:b:c\n\n:Key".toList
      = '\ufeff' :: "datetime:CreatedAt\r\na:b:c\n\n:Key".toList := by decide
  have hsigned : Utf8.signature ++ Utf8.encode "datetime:CreatedAt\r\na:b:c\n\n:Key".toList
      = Utf8.encode "\ufeffdatetime:CreatedAt\r\na:b:c\n\n:Key".toList := by
    rw [hfile, Utf8.signature_append_encode]
  exact auditFields_of_writesList hlist rfl (Or.inl hsigned.symm) (hread _)

end Files

end EntityMapping
