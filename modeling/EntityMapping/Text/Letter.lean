/-!
# Letters

Documents spell characters by code units of 16 bits.  A character past U+FFFF takes a pair of them,
whose halves have numbers that belong to no character.  A document may spell a half alone, so the
letters of a text are characters and halves of pairs.

In a string, half of a pair is written as the mark U+FDD0, which is set aside for such uses, and a
sign for the half; the mark itself is written twice.  Texts put one after another are so written one
after another.  `letters` reads the letters back (`letters_written_append`), and `chars?` gives the
characters of just those strings that `ofChars` writes (`chars?_eq_some_iff`).
-/

namespace EntityMapping.Text

/-- Whether a code unit opens a pair. -/
def opensPair (n : Nat) : Bool := 0xd800 ≤ n && n ≤ 0xdbff

/-- Whether a code unit closes a pair. -/
def closesPair (n : Nat) : Bool := 0xdc00 ≤ n && n ≤ 0xdfff

/-- Whether a code unit is half of a pair. -/
def isHalf (n : Nat) : Bool := opensPair n || closesPair n

/-- What a text consists of. -/
inductive Letter where
  /-- A character. -/
  | char (c : Char)
  /-- Half of a pair that stands alone. -/
  | half (n : Nat)
deriving DecidableEq, Repr

/-- The mark before the sign for a half. -/
def mark : Char := '\ufdd0'

/-- The sign for a half: the private character 0x800 above its number. -/
def halfSign (n : Nat) : Char := Char.ofNat (n + 0x800)

/-- The half that a character is the sign for. -/
@[irreducible] def halfOf? (c : Char) : Option Nat :=
  let n := c.toNat - 0x800
  if isHalf n then some n else none

theorem halfOf?_halfSign {n : Nat} (h : isHalf n = true) : halfOf? (halfSign n) = some n := by
  have range : 0xd800 ≤ n ∧ n ≤ 0xdfff := by
    simp only [isHalf, opensPair, closesPair, Bool.or_eq_true, Bool.and_eq_true,
      decide_eq_true_eq] at h
    omega
  have number : (Char.ofNat (n + 0x800)).toNat = n + 0x800 := by
    rw [Char.ofNat, dif_pos (Or.inr (by omega))]
    rfl
  unfold halfOf? halfSign
  simp only [number, Nat.add_sub_cancel, h, if_true]

@[simp] theorem halfOf?_mark : halfOf? mark = none := by
  unfold mark halfOf?
  decide

namespace Letter

/-- The number of a letter. -/
def number : Letter → Nat
  | .char c => c.toNat
  | .half n => n

/-- The letter for a code unit that is in no pair. -/
def ofUnit (n : Nat) : Letter := if isHalf n then .half n else .char (Char.ofNat n)

/-- The letter for a pair of code units. -/
def ofPair (opening closing : Nat) : Letter :=
  .char (Char.ofNat (0x10000 + (opening - 0xd800) * 0x400 + (closing - 0xdc00)))

/-- The letters that code units spell; an opening unit and the closing one after it are a pair. -/
def ofUnits : List Nat → List Letter
  | [] => []
  | [n] => [ofUnit n]
  | n :: m :: r =>
    if opensPair n && closesPair m then ofPair n m :: ofUnits r else ofUnit n :: ofUnits (m :: r)

/-- How a letter is written. -/
def written : Letter → List Char
  | .char c => if c = mark then [mark, mark] else [c]
  | .half n => [mark, halfSign n]

/-- Whether a letter is a character or really half of a pair. -/
def IsProper : Letter → Prop
  | .char _ => True
  | .half n => isHalf n = true

end Letter

/-- The letters of a text.  A mark that nothing fitting follows stands for itself. -/
def letters : List Char → List Letter
  | [] => []
  | [c] => [.char c]
  | c :: d :: r =>
    if c = mark then
      if d = mark then .char mark :: letters r
      else
        match halfOf? d with
        | some n => .half n :: letters r
        | none => .char mark :: letters (d :: r)
    else .char c :: letters (d :: r)

@[simp] theorem letters_nil : letters [] = [] := rfl

theorem letters_cons_of_ne {c : Char} (s : List Char) (h : c ≠ mark) :
    letters (c :: s) = .char c :: letters s := by
  cases s with
  | nil => simp [letters]
  | cons d r => simp [letters, h]

/-- The letters of a text are read off it one by one. -/
theorem letters_written_append {l : Letter} (s : List Char) (h : l.IsProper) :
    letters (l.written ++ s) = l :: letters s := by
  cases l with
  | char c =>
    by_cases hc : c = mark
    · subst hc
      simp [Letter.written, letters]
    · simp [Letter.written, hc, letters_cons_of_ne]
  | half n =>
    have sign := halfOf?_halfSign h
    have other : halfSign n ≠ mark := fun e => by simp [e] at sign
    simp [Letter.written, letters, sign, other]

/-- The text that consists of given letters. -/
def ofLetters (ls : List Letter) : List Char := ls.flatMap Letter.written

/-- The text that consists of given characters. -/
def ofChars (cs : List Char) : List Char := cs.flatMap fun c => (Letter.char c).written

/-- The characters of a text; one with half of a pair, or with a mark out of place, has none. -/
def chars? : List Char → Option (List Char)
  | [] => some []
  | [c] => if c = mark then none else some [c]
  | c :: d :: r =>
    if c = mark then if d = mark then (chars? r).map (mark :: ·) else none
    else (chars? (d :: r)).map (c :: ·)

theorem chars?_cons_of_ne {c : Char} (s : List Char) (h : c ≠ mark) :
    chars? (c :: s) = (chars? s).map (c :: ·) := by
  cases s with
  | nil => simp [chars?, h]
  | cons d r => simp [chars?, h]

theorem ofChars_cons_of_ne {c : Char} (s : List Char) (h : c ≠ mark) :
    ofChars (c :: s) = c :: ofChars s := by
  simp [ofChars, Letter.written, h]

theorem ofChars_mark (s : List Char) : ofChars (mark :: s) = mark :: mark :: ofChars s := by
  simp [ofChars, Letter.written]

@[simp] theorem chars?_ofChars (cs : List Char) : chars? (ofChars cs) = some cs := by
  induction cs with
  | nil => rfl
  | cons c r ih =>
    by_cases h : c = mark
    · subst h
      rw [ofChars_mark, chars?, if_pos rfl, if_pos rfl, ih]
      rfl
    · rw [ofChars_cons_of_ne r h, chars?_cons_of_ne _ h, ih]
      rfl

theorem ofChars_of_chars? {s cs : List Char} (h : chars? s = some cs) : ofChars cs = s := by
  fun_induction chars? s generalizing cs with
  | case1 => simp_all [ofChars]
  | case2 => simp at h
  | case3 c hc =>
    obtain rfl := Option.some.inj h
    simp [ofChars, Letter.written, hc]
  | case4 r ih =>
    obtain ⟨ds, hd, rfl⟩ := Option.map_eq_some_iff.1 h
    rw [← ih hd]
    simp [ofChars, Letter.written]
  | case5 => simp at h
  | case6 c d r hc ih =>
    obtain ⟨ds, hd, rfl⟩ := Option.map_eq_some_iff.1 h
    rw [ofChars_cons_of_ne ds hc, ih hd]

/-- A text has characters just if it is written from them. -/
theorem chars?_eq_some_iff {s cs : List Char} : chars? s = some cs ↔ s = ofChars cs :=
  ⟨fun h => (ofChars_of_chars? h).symm, fun h => h ▸ chars?_ofChars cs⟩

/-- Whether a text comes before another one: letter by letter, by their numbers. -/
def precedes (s t : String) : Bool :=
  decide ((letters s.toList).map Letter.number < (letters t.toList).map Letter.number)

end EntityMapping.Text
