import EntityMapping.Proofs.Json.Scalars
import EntityMapping.Proofs.Value.Parts

/-!
# Printed lists and objects

The pieces of a document print the values directly inside it one after the other, with brackets,
commas, line ends and indentation between them (`prints_list`, `prints_object`).  An item that is
written in one piece with what stands before it prints the same characters as in two pieces
(`prints_itemPieces`).
-/

namespace EntityMapping.Json

open Text

/-! ### Line ends and indentation -/

theorem mem_newline {level : Nat} {c : Char} (h : c ∈ newline level) : c = '\n' ∨ c = ' ' := by
  rcases List.mem_cons.mp h with h | h
  · exact Or.inl h
  · exact Or.inr (List.eq_of_mem_replicate h)

theorem mark_notMem_newline (level : Nat) : mark ∉ newline level := by
  intro h
  rcases mem_newline h with h | h <;> exact absurd h (by decide)

theorem return_notMem_newline (level : Nat) : '\r' ∉ newline level := by
  intro h
  rcases mem_newline h with h | h <;> exact absurd h (by decide)

theorem mark_notMem_lead (level : Nat) : mark ∉ ',' :: newline level := by
  rw [List.mem_cons, not_or]
  exact ⟨by decide, mark_notMem_newline _⟩

theorem skipSpace_cons {c : Char} (hc : isSpace c = false) (r : List Char) :
    skipSpace (c :: r) = c :: r := by
  simp [skipSpace, hc]

theorem skipSpace_newline (level : Nat) {c : Char} (hc : isSpace c = false) (r : List Char) :
    skipSpace (newline level ++ c :: r) = c :: r := by
  have hspace : ∀ d ∈ newline level, isSpace d = true := by
    intro d hd
    rcases mem_newline hd with rfl | rfl <;> rfl
  rw [skipSpace, List.dropWhile_append_of_pos hspace, ← skipSpace, skipSpace_cons hc]

/-! ### Lists -/

/-- An item is printed after what stands before it, and the further items after it. -/
theorem prints_itemPieces {level : Nat} {lead : List Char} (hlead : mark ∉ lead) {v : Value}
    {items : List Value} {doc : List Char} :
    Prints (itemPieces level lead (v :: items)) doc
      ↔ ∃ a b, Prints (pieces level v) a ∧ Prints (itemPieces level (',' :: newline level) items) b
          ∧ doc = lead ++ (a ++ b) := by
  -- a text or a whole number is one piece with what stands before it
  have hjoined {s : List Char} {r : List Piece} :
      Prints (.ok (lead ++ s) :: r) doc
        ↔ ∃ a b, Prints [.ok s] a ∧ Prints r b ∧ doc = lead ++ (a ++ b) := by
    rw [prints_cons, chars?_append_of_unmarked hlead]
    simp only [prints_singleton, Option.map_eq_some_iff]
    constructor
    · rintro ⟨_, b, ⟨a, ha, rfl⟩, hb, rfl⟩
      exact ⟨a, b, ha, hb, List.append_assoc _ _ _⟩
    · rintro ⟨a, b, ha, hb, rfl⟩
      exact ⟨lead ++ a, b, ⟨a, ha, rfl⟩, hb, (List.append_assoc _ _ _).symm⟩
  have happart {ps r : List Piece} :
      Prints (.ok lead :: ps ++ r) doc
        ↔ ∃ a b, Prints ps a ∧ Prints r b ∧ doc = lead ++ (a ++ b) := by
    rw [List.cons_append, prints_cons_of_unmarked hlead]
    simp only [prints_append]
    constructor
    · rintro ⟨_, ⟨a, b, ha, hb, rfl⟩, rfl⟩
      exact ⟨a, b, ha, hb, rfl⟩
    · rintro ⟨a, b, ha, hb, rfl⟩
      exact ⟨a ++ b, ⟨a, b, ha, hb, rfl⟩, rfl⟩
  cases v with
  | text s =>
    rw [itemPieces, pieces]
    exact hjoined
  | int n =>
    rw [itemPieces, pieces]
    cases writeInt n with
    | error e => simp [Except.map, Prints]
    | ok s => exact hjoined
  | _ =>
    rw [itemPieces]
    · exact happart
    · intro _ he
      cases he
    · intro _ he
      cases he

theorem prints_list {level : Nat} {v : Value} {items : List Value} {doc : List Char} :
    Prints (pieces level (.list (v :: items))) doc
      ↔ ∃ a b, Prints (pieces (level + 1) v) a
          ∧ Prints (itemPieces (level + 1) (',' :: newline (level + 1)) items) b
          ∧ doc = '[' :: newline (level + 1) ++ (a ++ b) ++ (newline level ++ [']']) := by
  have hlead : mark ∉ '[' :: newline (level + 1) := by
    rw [List.mem_cons, not_or]
    exact ⟨by decide, mark_notMem_newline _⟩
  have hclosing {doc : List Char} : Prints [.ok (newline level), .ok [']']] doc
      ↔ doc = newline level ++ [']'] := by
    rw [prints_cons_of_unmarked (mark_notMem_newline level)]
    simp [prints_singleton, chars?, mark]
  rw [pieces, prints_append]
  simp only [prints_itemPieces hlead, hclosing]
  constructor
  · rintro ⟨_, _, ⟨a, b, ha, hb, rfl⟩, rfl, rfl⟩
    exact ⟨a, b, ha, hb, rfl⟩
  · rintro ⟨a, b, ha, hb, rfl⟩
    exact ⟨_, _, ⟨a, b, ha, hb, rfl⟩, rfl, rfl⟩

theorem ends_itemPieces {level : Nat} {items : List Value} {doc : List Char}
    (h : Prints (itemPieces level (',' :: newline level) items) doc) (closing : Nat)
    (rest : List Char) : Ends (doc ++ (newline closing ++ rest)) := by
  cases items with
  | nil =>
    rw [itemPieces, Prints] at h
    rw [h]
    exact ends_cons (Or.inl rfl) _
  | cons v r =>
    obtain ⟨a, b, -, -, rfl⟩ := (prints_itemPieces (mark_notMem_lead level)).mp h
    exact ends_cons (Or.inr rfl) _

/-! ### Objects -/

/-- A field under a text key is printed after what stands before it, and the further fields after
it. -/
theorem prints_fieldPieces {level : Nat} {lead : List Char} (hlead : mark ∉ lead) {name : String}
    {v : Value} {fields : Fields} {doc : List Char} :
    Prints (fieldPieces level lead ((.text name, v) :: fields)) doc
      ↔ ∃ key a b, chars? name.toList = some key ∧ Prints (pieces level v) a
          ∧ Prints (fieldPieces level (',' :: newline level) fields) b
          ∧ doc = lead ++ (writeText key ++ (':' :: ' ' :: (a ++ b))) := by
  have hcolon : mark ∉ [':', ' '] := by decide
  simp only [fieldPieces, keyText, Except.map, List.cons_append, prints_cons_of_unmarked hlead]
  simp only [prints_cons (s := writeText name.toList), prints_cons_of_unmarked hcolon,
    prints_append, chars?_writeText, Option.map_eq_some_iff]
  constructor
  · rintro ⟨_, ⟨_, _, ⟨key, hkey, rfl⟩, ⟨_, ⟨a, b, ha, hb, rfl⟩, rfl⟩, rfl⟩, rfl⟩
    exact ⟨key, a, b, hkey, ha, hb, rfl⟩
  · rintro ⟨key, a, b, hkey, ha, hb, rfl⟩
    exact ⟨_, ⟨_, _, ⟨key, hkey, rfl⟩, ⟨_, ⟨a, b, ha, hb, rfl⟩, rfl⟩, rfl⟩, rfl⟩

theorem prints_object {level : Nat} {name : String} {v : Value} {fields : Fields}
    {doc : List Char} :
    Prints (pieces level (.object ((.text name, v) :: fields))) doc
      ↔ ∃ key a b, chars? name.toList = some key ∧ Prints (pieces (level + 1) v) a
          ∧ Prints (fieldPieces (level + 1) (',' :: newline (level + 1)) fields) b
          ∧ doc = '\x7b' :: newline (level + 1) ++ (writeText key ++ (':' :: ' ' :: (a ++ b)))
              ++ (newline level ++ ['\x7d']) := by
  have hlead : mark ∉ '\x7b' :: newline (level + 1) := by
    rw [List.mem_cons, not_or]
    exact ⟨by decide, mark_notMem_newline _⟩
  have hclosing {doc : List Char} : Prints [.ok (newline level), .ok ['\x7d']] doc
      ↔ doc = newline level ++ ['\x7d'] := by
    rw [prints_cons_of_unmarked (mark_notMem_newline level)]
    simp [prints_singleton, chars?, mark]
  rw [pieces, List.cons_append, prints_cons_of_unmarked hlead]
  simp only [prints_append, prints_fieldPieces List.not_mem_nil, hclosing]
  constructor
  · rintro ⟨_, ⟨_, _, ⟨key, a, b, hkey, ha, hb, rfl⟩, rfl, rfl⟩, rfl⟩
    exact ⟨key, a, b, hkey, ha, hb, by simp⟩
  · rintro ⟨key, a, b, hkey, ha, hb, rfl⟩
    exact ⟨_, ⟨_, _, ⟨key, a, b, hkey, ha, hb, rfl⟩, rfl, rfl⟩, by simp⟩

theorem ends_fieldPieces {level : Nat} {fields : Fields} (hnamed : Fields.Named fields)
    {doc : List Char} (h : Prints (fieldPieces level (',' :: newline level) fields) doc)
    (closing : Nat) (rest : List Char) : Ends (doc ++ (newline closing ++ rest)) := by
  cases fields with
  | nil =>
    rw [fieldPieces, Prints] at h
    rw [h]
    exact ends_cons (Or.inl rfl) _
  | cons f r =>
    obtain ⟨k, v⟩ := f
    obtain ⟨name, rfl⟩ := hnamed.text k List.mem_cons_self
    obtain ⟨key, a, b, -, -, -, rfl⟩ := (prints_fieldPieces (mark_notMem_lead level)).mp h
    exact ends_cons (Or.inr rfl) _

end EntityMapping.Json
