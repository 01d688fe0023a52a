import EntityMapping.CommandLine.Generate
import EntityMapping.Proofs.AuditList
import EntityMapping.Proofs.Files.Lookup
import EntityMapping.Proofs.Generation.AuditLists
import EntityMapping.Proofs.Text.Line
import EntityMapping.Proofs.Text.Utf8

/-!
# Lines from a file and from an address

A file is decoded after an optional signature, and its line ends are unified before it is cut into
lines; the text of an answer is cut as it is.  Unifying line ends does not matter for the cut
(`splitLines_unifyNewlines`), but the signature does: it is a character of the answer's text, and
stands before the first line there.  So a file and an answer with the same text give the same lines
just if the text does not start with U+FEFF, and the same audit fields unless it does and a field is
described by what follows on the first line (`loadLines_agree_iff`).

## Main results

* `loadLines_agree_iff` — when a file and an address give the same lines.
-/

namespace EntityMapping

open Text

/-! ### Fields of a list -/

/-- Trimming keeps what is not blank. -/
theorem filter_trim (s : List Char) :
    (trim s).filter (fun c => !isBlank c) = s.filter (fun c => !isBlank c) := by
  have hdrop (l : List Char) :
      (l.dropWhile isBlank).filter (fun c => !isBlank c) = l.filter (fun c => !isBlank c) := by
    induction l with
    | nil => rfl
    | cons c r ih =>
      cases hc : isBlank c with
      | true => simpa [hc] using ih
      | false => simp [hc]
  rw [trim, trimEnd, List.filter_reverse, hdrop, List.filter_reverse, List.reverse_reverse,
    trimStart, hdrop]

/-- The character that the signature spells is not blank, so it changes the field that a line
describes. -/
theorem ofChars?_cons_signature (l : List Char) :
    AuditField.ofChars? ('\ufeff' :: l) = AuditField.ofChars? l ↔ AuditField.ofChars? l = none := by
  have htrim (before : List Char) : trim ('\ufeff' :: before) ≠ trim before := by
    intro h
    have hfilter := congrArg (List.filter fun c => !isBlank c) h
    rw [filter_trim, filter_trim, List.filter_cons, if_pos (by decide)] at hfilter
    exact absurd (congrArg List.length hfilter) (by simp)
  rw [AuditField.ofChars?, AuditField.ofChars?, cut, if_neg (by decide)]
  -- Only a line with just one colon describes a field; the character belongs to its type then.
  rcases cut ':' l with _ | ⟨before, _ | ⟨after, _ | ⟨_, _⟩⟩⟩
  · simp
  · simp
  · dsimp only
    split_ifs
    · simp
    · have hkeyword : String.ofList (trim ('\ufeff' :: before)) ≠ String.ofList (trim before) :=
        fun h => htrim before (by simpa using congrArg String.toList h)
      simpa using hkeyword
  · simp

/-- Marked lines describe the same fields just if the first line describes none. -/
theorem filterMap_ofLine?_marked (ls : List String) :
    ls.filterMap AuditField.ofLine? = (marked ls).filterMap AuditField.ofLine?
      ↔ ∀ first ∈ ls.head?, AuditField.ofLine? first = none := by
  cases ls with
  | nil => exact iff_of_true rfl nofun
  | cons l ls =>
    have hfirst := ofChars?_cons_signature l.toList
    rw [marked, List.filterMap_cons, List.filterMap_cons]
    simp only [AuditField.ofLine?, String.toList_ofList, List.head?_cons, Option.mem_some_iff,
      forall_eq']
    cases hl : AuditField.ofChars? l.toList with
    | none =>
      rw [hl] at hfirst
      rw [hfirst.mpr rfl]
      exact iff_of_true rfl rfl
    | some f =>
      rw [hl] at hfirst
      refine iff_of_false ?_ (Option.some_ne_none f)
      cases hm : AuditField.ofChars? ('\ufeff' :: l.toList) with
      | none => simp
      | some m =>
        rw [hm] at hfirst
        intro h
        have hsame : f = m := (List.cons.inj h).1
        cases hfirst.mp (congrArg some hsame.symm)

/-! ### Both sources -/

section Sources

variable {ask : String → Reply} {fs : FileSystem} {p : Path} {cs : List Char}
  {path address : String} {status : Int}

/-- A file with a text gives the lines of the text without a signature. -/
theorem loadFileLines_encode (hread : fs.read p = .ok (Utf8.encode cs)) :
    (loadFileLines fs p).1 = .ok (some (linesOf (ofChars (Utf8.unsigned cs)))) := by
  rw [loadFileLines, FileSystem.isFile_of_read hread]
  dsimp only
  rw [hread]
  dsimp only
  rw [Utf8.decodeSigned_encode]
  dsimp only
  rw [linesOf, linesOf, splitLines_unifyNewlines]

/-- An answer with a text gives the lines of the text. -/
theorem loadAddressLines_answer (hcomplete : Address.isComplete address = .ok true)
    (hask : ask address = .answer status (String.ofList (ofChars cs)))
    (hstatus : isErrorStatus status = false) :
    (loadAddressLines ask (.text address)).1 = .ok (linesOf (ofChars cs)) := by
  simp only [loadAddressLines, hcomplete, hask, Reply.lines, hstatus, String.toList_ofList]
  rfl

/-- The shared base depends on a list by the fields that it describes. -/
theorem Generator.baseArtifact_congr {lines lines' : Value}
    (h : auditFields lines = auditFields lines') (g : Generator) (space : Value) :
    g.baseArtifact lines space = g.baseArtifact lines' space := by
  rw [baseArtifact, baseArtifact, h]

/-- A file and the answer from an address with the same text both give lines.  They are the same
lines just if the text does not start with the character of the signature; if it does, the lines of
the answer have it before the first one.  The lines describe the same audit fields just if this does
not matter, as the first line describes none; then all shared bases are the same. -/
theorem loadLines_agree_iff (hread : fs.read (.ofText path) = .ok (Utf8.encode cs))
    (hcomplete : Address.isComplete address = .ok true)
    (hask : ask address = .answer status (String.ofList (ofChars cs)))
    (hstatus : isErrorStatus status = false) :
    ∃ fromFile fromAddress,
      (loadLines fs ask (.file (.text path))).1 = .ok (some fromFile)
      ∧ (loadLines fs ask (.address (.text address))).1 = .ok (some fromAddress)
      ∧ (fromFile = fromAddress ↔ cs.head? ≠ some '\ufeff')
      ∧ (cs.head? = some '\ufeff' → fromAddress = marked fromFile)
      ∧ (auditFields (CommandLine.linesValue (some fromFile))
          = auditFields (CommandLine.linesValue (some fromAddress))
        ↔ cs.head? ≠ some '\ufeff' ∨ ∀ first ∈ fromFile.head?, AuditField.ofLine? first = none)
      ∧ (auditFields (CommandLine.linesValue (some fromFile))
          = auditFields (CommandLine.linesValue (some fromAddress)) →
        ∀ (g : Generator) (space : Value),
          g.baseArtifact (CommandLine.linesValue (some fromFile)) space
            = g.baseArtifact (CommandLine.linesValue (some fromAddress)) space) := by
  have hfile : (loadLines fs ask (.file (.text path))).1
      = .ok (some (linesOf (ofChars (Utf8.unsigned cs)))) := loadFileLines_encode hread
  have haddress : (loadLines fs ask (.address (.text address))).1
      = .ok (some (linesOf (ofChars cs))) := by
    have hload : (loadLines fs ask (.address (.text address))).1
        = (loadAddressLines ask (.text address)).1.map some := rfl
    rw [hload, loadAddressLines_answer hcomplete hask hstatus]
    rfl
  refine ⟨_, _, hfile, haddress, ?_⟩
  simp only [CommandLine.linesValue, auditFields_texts, Except.ok.injEq]
  by_cases hsigned : cs.head? = some '\ufeff'
  · obtain ⟨r, rfl⟩ := List.head?_eq_some_iff.mp hsigned
    have hmarked : linesOf (ofChars ('\ufeff' :: r))
        = marked (linesOf (ofChars (Utf8.unsigned ('\ufeff' :: r)))) := by
      rw [Utf8.unsigned, if_pos rfl, ofChars_cons_of_ne r (by decide), linesOf_cons_signature]
    rw [hmarked]
    refine ⟨iff_of_false (ne_marked _) (not_not.mpr hsigned), fun _ => rfl, ?_, ?_⟩
    · rw [filterMap_ofLine?_marked, or_iff_right (not_not.mpr hsigned)]
    · intro h
      exact Generator.baseArtifact_congr (by rw [auditFields_texts, auditFields_texts, h])
  · have hunsigned : Utf8.unsigned cs = cs := by
      cases cs with
      | nil => rfl
      | cons c r => rw [Utf8.unsigned, if_neg fun h => hsigned (congrArg some h)]
    rw [hunsigned]
    exact ⟨iff_of_true rfl hsigned, fun h => absurd h hsigned, iff_of_true rfl (Or.inl hsigned),
      fun _ _ _ => rfl⟩

namespace Sample

/-- A file with a text. -/
def textFile (s : String) : FileSystem :=
  (FileSystem.empty ["work"]).place ["work", "AuditFields.txt"] (.file (Utf8.encode s.toList))

/-- Every address answers with a text. -/
def textAnswer (s : String) : String → Reply := fun _ => .answer 200 s

end Sample

open Sample

/-- A text with several kinds of line ends gives the same lines from both sources. -/
theorem loadLines_agree_lineEnds :
    ∃ fromFile fromAddress,
      (loadLines (textFile "int:A\r\nint:B\rint:C\u2028") (textAnswer "int:A\r\nint:B\rint:C\u2028")
        (.file (.text "AuditFields.txt"))).1 = .ok (some fromFile)
      ∧ (loadLines (textFile "int:A\r\nint:B\rint:C\u2028")
        (textAnswer "int:A\r\nint:B\rint:C\u2028") (.address (.text "http://audit.example/f"))).1
        = .ok (some fromAddress)
      ∧ fromFile = fromAddress := by
  obtain ⟨fromFile, fromAddress, hfile, haddress, hsame, -⟩ :=
    @loadLines_agree_iff (textAnswer "int:A\r\nint:B\rint:C\u2028")
      (textFile "int:A\r\nint:B\rint:C\u2028") "int:A\r\nint:B\rint:C\u2028".toList
      "AuditFields.txt" "http://audit.example/f" 200 rfl rfl rfl rfl
  exact ⟨fromFile, fromAddress, hfile, haddress, hsame.mpr (by decide)⟩

/-- A text that starts with the character of the signature gives other lines from an address than
from a file; the type of the first field is another one then, for which there is no column type. -/
theorem loadLines_signature :
    (loadLines (textFile "\ufeffdatetime:CreatedAt\n") (textAnswer "\ufeffdatetime:CreatedAt\n")
        (.file (.text "AuditFields.txt"))).1 = .ok (some ["datetime:CreatedAt"])
      ∧ (loadLines (textFile "\ufeffdatetime:CreatedAt\n")
        (textAnswer "\ufeffdatetime:CreatedAt\n") (.address (.text "http://audit.example/f"))).1
        = .ok (some ["\ufeffdatetime:CreatedAt"])
      ∧ auditFields (.list [.text "datetime:CreatedAt"]) = .ok [⟨"datetime", "CreatedAt"⟩]
      ∧ auditFields (.list [.text "\ufeffdatetime:CreatedAt"])
        = .ok [⟨"\ufeffdatetime", "CreatedAt"⟩]
      ∧ (auditDirectives ⟨"datetime", "CreatedAt"⟩ .null).length = 2
      ∧ (auditDirectives ⟨"\ufeffdatetime", "CreatedAt"⟩ .null).length = 1 := by
  refine ⟨?_, rfl, rfl, rfl, rfl, rfl⟩
  have hread : (textFile "\ufeffdatetime:CreatedAt\n").read (.ofText "AuditFields.txt")
      = .ok (Utf8.encode "\ufeffdatetime:CreatedAt\n".toList) := rfl
  exact loadFileLines_encode hread

end Sources

end EntityMapping
