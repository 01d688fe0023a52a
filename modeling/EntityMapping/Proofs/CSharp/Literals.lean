import EntityMapping.AuditList
import EntityMapping.CSharp.Literal
import EntityMapping.Proofs.Directives.Rules
import EntityMapping.Proofs.Json.Scalars
import EntityMapping.Proofs.Naming

/-!
# Literals that can be read

Between its quotes a regular string literal has escapes, and characters that stand for themselves; a
quote, a backslash and the end of a line do not.  The literal of a text escapes quotes and
backslashes alone, so it is one just if no character of the text ends a line, and then reading its
escapes back gives the text (`CSharp.isLiteral_literal_iff`).  Nothing keeps line ends out of the
texts that annotations and audit fields give (`CSharp.isLiteral_literalOf_iff`).

## Main definitions

* `CSharp.Spells` — characters between quotes, and the numbers that they are read as.
* `CSharp.IsLiteral` — a regular string literal, and the letters that it is read as.
* `CSharp.IsUnbroken` — no character of a text ends a line of a program.
-/

namespace EntityMapping.CSharp

open Text

/-! ### Regular string literals -/

/-- The characters that end a line of a program. -/
def lineTerminators : List Char := ['\r', '\n', '\u0085', '\u2028', '\u2029']

/-- No character of a text ends a line of a program. -/
def IsUnbroken (s : String) : Prop := ∀ c ∈ lineTerminators, c ∉ s.toList

instance (s : String) : Decidable (IsUnbroken s) :=
  List.decidableBAll (fun c => c ∉ s.toList) lineTerminators

/-- The number of the character that a letter behind a backslash stands for. -/
def escapeNumber? : Char → Option Nat
  | '\'' => some 0x27
  | '"' => some 0x22
  | '\\' => some 0x5c
  | '0' => some 0x00
  | 'a' => some 0x07
  | 'b' => some 0x08
  | 'f' => some 0x0c
  | 'n' => some 0x0a
  | 'r' => some 0x0d
  | 't' => some 0x09
  | 'v' => some 0x0b
  | _ => none

/-- The number that hexadecimal digits spell. -/
def hexNumber (ds : List Char) : Nat := ds.foldl (fun n d => n * 16 + (hexValue? d).getD 0) 0

/-- What stands between the quotes of a regular string literal, and the numbers that it is read as.
The digits after `\x` are as many as there are, up to four. -/
inductive Spells : List Char → List Nat → Prop
  | nil : Spells [] []
  | plain {c : Char} {r : List Char} {ns : List Nat} (hquote : c ≠ '"') (hbackslash : c ≠ '\\')
      (hline : c ∉ lineTerminators) (h : Spells r ns) : Spells (c :: r) (c.toNat :: ns)
  | simple {c : Char} {n : Nat} {r : List Char} {ns : List Nat} (hc : escapeNumber? c = some n)
      (h : Spells r ns) : Spells ('\\' :: c :: r) (n :: ns)
  | hexadecimal {ds r : List Char} {ns : List Nat} (hdigits : ∀ d ∈ ds, isHexDigit d = true)
      (hsome : 1 ≤ ds.length) (hmost : ds.length ≤ 4)
      (hlongest : ds.length < 4 → ∀ d ∈ r.head?, isHexDigit d = false) (h : Spells r ns) :
      Spells ('\\' :: 'x' :: (ds ++ r)) (hexNumber ds :: ns)
  | unicode {ds r : List Char} {ns : List Nat} (hdigits : ∀ d ∈ ds, isHexDigit d = true)
      (hlength : ds.length = 4) (h : Spells r ns) :
      Spells ('\\' :: 'u' :: (ds ++ r)) (hexNumber ds :: ns)
  | longUnicode {ds r : List Char} {ns : List Nat} (hdigits : ∀ d ∈ ds, isHexDigit d = true)
      (hlength : ds.length = 8) (hrange : hexNumber ds ≤ 0x10ffff) (h : Spells r ns) :
      Spells ('\\' :: 'U' :: (ds ++ r)) (hexNumber ds :: ns)

/-- A text is a regular string literal, and reading its escapes back gives certain letters. -/
def IsLiteral (t : String) (ls : List Letter) : Prop :=
  ∃ body ns, t.toList = '"' :: (body ++ ['"']) ∧ Spells body ns ∧ ls = Letter.ofUnits ns

/-! ### Literals of texts -/

/-- A literal has the characters of its text, quotes and backslashes apart. -/
theorem mem_literal_iff {c : Char} {s : String} (hquote : c ≠ '"') (hbackslash : c ≠ '\\') :
    c ∈ (literal s).toList ↔ c ∈ s.toList := by
  have hchar (d : Char) : c ∈ literalChar d ↔ c = d := by
    unfold literalChar
    split_ifs <;> simp [hbackslash]
  simp [literal, literalChars, hquote, hchar]

theorem spells_flatMap_literalChar {s : List Char} (h : ∀ c ∈ s, c ∉ lineTerminators) :
    Spells (s.flatMap literalChar) (s.map Char.toNat) := by
  induction s with
  | nil => exact .nil
  | cons c r ih =>
    have hr := ih fun d hd => h d (List.mem_cons_of_mem _ hd)
    rw [List.flatMap_cons, List.map_cons, literalChar]
    split_ifs with hspecial
    · refine .simple ?_ hr
      rcases hspecial with rfl | rfl <;> rfl
    · obtain ⟨hbackslash, hquote⟩ := not_or.mp hspecial
      exact .plain hquote hbackslash (h c List.mem_cons_self) hr

/-- An escaped quote or backslash can only be read as itself. -/
theorem Spells.of_escaped {c : Char} {r : List Char} {ns : List Nat} (hc : c = '\\' ∨ c = '"')
    (h : Spells ('\\' :: c :: r) ns) : ∃ ms, ns = c.toNat :: ms ∧ Spells r ms := by
  cases h with
  | plain _ hbackslash => exact absurd rfl hbackslash
  | simple hescape hr =>
    rcases hc with rfl | rfl <;> exact ⟨_, congrArg (· :: _) (Option.some.inj hescape).symm, hr⟩
  | hexadecimal => exact absurd hc (by decide)
  | unicode => exact absurd hc (by decide)
  | longUnicode => exact absurd hc (by decide)

/-- Any other character can only be read as itself, and it ends no line. -/
theorem Spells.of_plain {c : Char} {r : List Char} {ns : List Nat} (hc : c ≠ '\\')
    (h : Spells (c :: r) ns) : ∃ ms, ns = c.toNat :: ms ∧ c ∉ lineTerminators ∧ Spells r ms := by
  cases h with
  | plain _ _ hline hr => exact ⟨_, rfl, hline, hr⟩
  | simple => exact absurd rfl hc
  | hexadecimal => exact absurd rfl hc
  | unicode => exact absurd rfl hc
  | longUnicode => exact absurd rfl hc

theorem Spells.of_flatMap_literalChar {s : List Char} {ns : List Nat}
    (h : Spells (s.flatMap literalChar) ns) :
    (∀ c ∈ s, c ∉ lineTerminators) ∧ ns = s.map Char.toNat := by
  induction s generalizing ns with
  | nil =>
    cases h
    exact ⟨fun _ hc => absurd hc List.not_mem_nil, rfl⟩
  | cons c r ih =>
    rw [List.flatMap_cons, literalChar] at h
    rw [List.forall_mem_cons, List.map_cons]
    split_ifs at h with hspecial
    · obtain ⟨ms, rfl, hr⟩ := Spells.of_escaped hspecial h
      obtain ⟨hlines, rfl⟩ := ih hr
      have hline : c ∉ lineTerminators := by rcases hspecial with rfl | rfl <;> decide
      exact ⟨⟨hline, hlines⟩, rfl⟩
    · obtain ⟨ms, rfl, hline, hr⟩ := Spells.of_plain (not_or.mp hspecial).1 h
      obtain ⟨hlines, rfl⟩ := ih hr
      exact ⟨⟨hline, hlines⟩, rfl⟩

/-- The literal of a text is a literal just if no character of the text ends a line; it is read as
the characters of the text. -/
theorem isLiteral_literal_iff {s : String} {ls : List Letter} :
    IsLiteral (literal s) ls ↔ IsUnbroken s ∧ ls = s.toList.map .char := by
  have hswap : (∀ c ∈ s.toList, c ∉ lineTerminators) ↔ IsUnbroken s :=
    ⟨fun h c hc hmem => h c hmem hc, fun h c hmem hc => h c hc hmem⟩
  have hchars : (literal s).toList = '"' :: (s.toList.flatMap literalChar ++ ['"']) :=
    String.toList_ofList
  rw [← hswap]
  constructor
  · rintro ⟨body, ns, hbody, hspells, rfl⟩
    rw [hchars, List.cons_inj_right, List.append_left_inj] at hbody
    obtain ⟨hlines, rfl⟩ := Spells.of_flatMap_literalChar (hbody ▸ hspells)
    exact ⟨hlines, Json.ofUnits_map_toNat _⟩
  · rintro ⟨hlines, rfl⟩
    exact ⟨_, _, hchars, spells_flatMap_literalChar hlines, (Json.ofUnits_map_toNat _).symm⟩

theorem exists_isLiteral_literal_iff {s : String} :
    (∃ ls, IsLiteral (literal s) ls) ↔ IsUnbroken s := by
  simp only [isLiteral_literal_iff, exists_and_left, exists_eq, and_true]

theorem exists_isLiteral_literalOf_iff {v : Value} :
    (∃ ls, IsLiteral (literalOf v) ls) ↔ IsUnbroken v.display :=
  exists_isLiteral_literal_iff

/-! ### Where the texts come from -/

theorem isUnbroken_storageName_iff {s : String} : IsUnbroken (storageName s) ↔ IsUnbroken s := by
  have hbreak : ∀ c ∈ lineTerminators, isLineBreak c = true := List.all_eq_true.mp rfl
  exact forall₂_congr fun c hc => (mem_storageName_iff (hbreak c hc)).not

/-- The names and types of columns are literals just if nothing that annotations give ends a
line. -/
theorem isLiteral_resolveDirectives_iff {p : Property} {length : Value} :
    (∀ d ∈ resolveDirectives p length, d.kind = .columnType ∨ d.kind = .columnName →
        ∃ ls, IsLiteral (literalOf d.value) ls)
      ↔ (∀ s, p.GivesType s → IsUnbroken s) ∧ ∀ s, p.GivesName (some s) → IsUnbroken s := by
  have hfollows : Follows p length (resolveDirectives p length) := follows_resolveDirectives
  simp only [exists_isLiteral_literalOf_iff]
  constructor
  · intro h
    constructor
    · intro s hs
      exact h _ ((hfollows.columnType_iff (.text s)).mpr ⟨s, hs, rfl⟩) (Or.inl rfl)
    · intro s hs
      have hname := h _ ((hfollows.columnName_iff _).mpr ⟨_, hs, rfl⟩) (Or.inr rfl)
      dsimp only [Option.map_some, nameValue, Value.display_text] at hname
      exact isUnbroken_storageName_iff.mp hname
  · rintro ⟨htype, hname⟩ ⟨kind, value⟩ hd (rfl | rfl)
    · obtain ⟨s, hs, rfl⟩ := (hfollows.columnType_iff value).mp hd
      exact htype s hs
    · obtain ⟨source, hsource, rfl⟩ := (hfollows.columnName_iff value).mp hd
      cases source with
      | none =>
        have hnone : IsUnbroken "None" := by decide
        exact hnone
      | some s => exact isUnbroken_storageName_iff.mpr (hname s hsource)

/-- The literal of a value is a regular string literal just if no character of the text of the value
ends a line, and then it is read as that text.  So what annotations and audit fields give decides
whether the literals made of it are some. -/
theorem isLiteral_literalOf_iff (v : Value) (ls : List Letter) (p : Property) (length : Value)
    (f : AuditField) :
    (IsLiteral (literalOf v) ls ↔ IsUnbroken v.display ∧ ls = v.display.toList.map .char)
      ∧ ((∀ d ∈ resolveDirectives p length, d.kind = .columnType ∨ d.kind = .columnName →
          ∃ ls, IsLiteral (literalOf d.value) ls)
        ↔ (∀ s, p.GivesType s → IsUnbroken s) ∧ ∀ s, p.GivesName (some s) → IsUnbroken s)
      ∧ (((∃ ls, IsLiteral (literal f.name) ls) ∧ ∃ ls, IsLiteral (literal (storageName f.name)) ls)
        ↔ IsUnbroken f.name) := by
  refine ⟨isLiteral_literal_iff, isLiteral_resolveDirectives_iff, ?_⟩
  rw [exists_isLiteral_literal_iff, exists_isLiteral_literal_iff, isUnbroken_storageName_iff,
    and_self]

/-- A line feed is left as it is, so this is no literal. -/
theorem not_isLiteral_literalOf_lineFeed :
    literalOf (.text "a\nb") = "\"a\nb\"" ∧ ¬∃ ls, IsLiteral (literalOf (.text "a\nb")) ls := by
  refine ⟨by decide, fun h => ?_⟩
  exact exists_isLiteral_literal_iff.mp h '\n' (by decide) (by decide)

end EntityMapping.CSharp
