import EntityMapping.Json.Reader
import EntityMapping.Json.Writer
import EntityMapping.Proofs.Files.Writing
import Mathlib.Data.List.TakeWhile
import Mathlib.Tactic.Common

/-!
# Reading printed scalars

A text that was printed between quotes is read back (`readText_flatMap_escaped`): each character was
escaped so that reading gives its code point (`readUnits_escaped`), and the letters of code points
that are no halves of pairs are the characters (`ofUnits_map_toNat`).  A whole number that was
printed is read back (`readNumber_intText`) if nothing follows that would continue a number.

## Main definitions

* `Ends` — what follows a value continues no number.
-/

namespace EntityMapping.Json

open Decimal Text

/-! ### Texts -/

theorem hexNumber?_hexDigits {n : Nat} (h : n < 0x20) :
    ∃ a b c d, hexDigits 4 n = [a, b, c, d] ∧ hexNumber? a b c d = some n := by
  have hall : ∀ n < 0x20,
      hexDigits 4 n = ['0', '0', Nat.digitChar (n / 16), Nat.digitChar (n % 16)]
        ∧ hexNumber? '0' '0' (Nat.digitChar (n / 16)) (Nat.digitChar (n % 16)) = some n := by
    decide
  exact ⟨_, _, _, _, hall n h⟩

/-- An escaped character is read as its code point; something has to follow. -/
theorem readUnits_escaped (opening : List Char) (c : Char) {r : List Char} (hr : r ≠ []) :
    readUnits opening (escaped c ++ r) = consUnit c.toNat (readUnits opening r) := by
  unfold escaped
  split_ifs with h1 h2 h3 h4 h5 h6 h7 h8
  · subst h1
    simp [readUnits, escapeChar?]
  · subst h2
    simp [readUnits, escapeChar?]
  · subst h3
    simp [readUnits, escapeChar?]
  · subst h4
    simp [readUnits, escapeChar?]
  · subst h5
    simp [readUnits, escapeChar?]
  · subst h6
    simp [readUnits, escapeChar?]
  · subst h7
    simp [readUnits, escapeChar?]
  · obtain ⟨a, b, x, d, hdigits, hnumber⟩ := hexNumber?_hexDigits h8
    simp [hdigits, readUnits, hnumber, hr]
  · -- The character stands for itself: it is no quote, no backslash and no control character.
    rw [List.singleton_append, readUnits.eq_def]
    split <;> rename_i heq <;> cases heq
    · exact absurd rfl h1
    · exact absurd rfl h2
    · exact absurd rfl h2
    · exact absurd rfl h2
    · exact absurd rfl h2
    · rw [if_neg h8]

/-- The code points of a text that was printed are read up to the closing quote. -/
theorem readUnits_flatMap_escaped (opening cs rest : List Char) :
    readUnits opening (cs.flatMap escaped ++ '"' :: rest) = .ok (cs.map Char.toNat, rest) := by
  induction cs with
  | nil => simp [readUnits]
  | cons c r ih =>
    rw [List.flatMap_cons, List.append_assoc, readUnits_escaped opening c (by simp), ih]
    rfl

theorem opensPair_toNat (c : Char) : opensPair c.toNat = false := by
  have hvalid : c.toNat < 0xd800 ∨ 0xdfff < c.toNat ∧ c.toNat < 0x110000 := c.valid
  simp only [opensPair, Bool.and_eq_false_iff, decide_eq_false_iff_not]
  omega

theorem ofUnit_toNat (c : Char) : Letter.ofUnit c.toNat = .char c := by
  have hvalid : c.toNat < 0xd800 ∨ 0xdfff < c.toNat ∧ c.toNat < 0x110000 := c.valid
  have hhalf : ¬isHalf c.toNat = true := by
    simp only [isHalf, opensPair, closesPair, Bool.or_eq_true, Bool.and_eq_true, decide_eq_true_eq]
    omega
  rw [Letter.ofUnit, if_neg hhalf, Char.ofNat_toNat]

/-- Code points of characters spell the characters. -/
theorem ofUnits_map_toNat (cs : List Char) :
    Letter.ofUnits (cs.map Char.toNat) = cs.map .char := by
  induction cs with
  | nil => rfl
  | cons c r ih =>
    cases r with
    | nil => simp [Letter.ofUnits, ofUnit_toNat]
    | cons d r =>
      rw [List.map_cons, List.map_cons, Letter.ofUnits, opensPair_toNat, Bool.false_and,
        if_neg Bool.false_ne_true, ofUnit_toNat, ← List.map_cons, ih]
      rfl

/-- A text that was printed is read back. -/
theorem readText_flatMap_escaped (opening cs rest : List Char) :
    readText opening (cs.flatMap escaped ++ '"' :: rest) = .ok (ofChars cs, rest) := by
  have hletters : ofLetters (cs.map .char) = ofChars cs := by
    rw [ofLetters, List.flatMap_map, ofChars]
  rw [readText, readUnits_flatMap_escaped]
  dsimp only
  rw [ofUnits_map_toNat, hletters]

/-! ### The characters of printed texts -/

/-- Whether a character is a basic Latin one that needs no escape as a control character. -/
def isLatin (c : Char) : Bool := 0x20 ≤ c.toNat && c.toNat < 0x80

theorem isLatin_of_mem_hexDigits {n : Nat} {d : Char} (hn : n < 0x20) (h : d ∈ hexDigits 4 n) :
    isLatin d = true := by
  have hall : ∀ n < 0x20, (hexDigits 4 n).all isLatin = true := by decide
  exact List.all_eq_true.mp (hall n hn) d h

/-- A character is escaped by basic Latin ones, or stands for itself. -/
theorem mem_escaped {c d : Char} (h : d ∈ escaped c) :
    isLatin d = true ∨ d = c ∧ 0x20 ≤ c.toNat := by
  have hlatin {s : List Char} (hs : s.all isLatin = true) (hd : d ∈ s) : isLatin d = true :=
    List.all_eq_true.mp hs d hd
  unfold escaped at h
  split_ifs at h
  · exact Or.inl (hlatin (by decide) h)
  · exact Or.inl (hlatin (by decide) h)
  · exact Or.inl (hlatin (by decide) h)
  · exact Or.inl (hlatin (by decide) h)
  · exact Or.inl (hlatin (by decide) h)
  · exact Or.inl (hlatin (by decide) h)
  · exact Or.inl (hlatin (by decide) h)
  · rcases List.mem_append.mp h with h | h
    · exact Or.inl (hlatin (by decide) h)
    · exact Or.inl (isLatin_of_mem_hexDigits ‹_› h)
  · exact Or.inr ⟨List.mem_singleton.mp h, by omega⟩

theorem escaped_mark : escaped mark = [mark] := by decide

theorem mark_notMem_escaped {c : Char} (h : c ≠ mark) : mark ∉ escaped c := by
  intro hmem
  rcases mem_escaped hmem with hlatin | ⟨heq, -⟩
  · exact absurd hlatin (by decide)
  · exact h heq.symm

theorem escaped_ne_nil (c : Char) : escaped c ≠ [] := by
  unfold escaped
  split_ifs <;> simp

/-- What follows a mark out of place is still no mark when it is escaped. -/
theorem chars?_mark_escaped {c : Char} (h : c ≠ mark) (t : List Char) :
    chars? (mark :: (escaped c ++ t)) = none := by
  obtain ⟨d, r, hdr⟩ := List.exists_cons_of_ne_nil (escaped_ne_nil c)
  have hd : d ≠ mark := by
    rintro rfl
    exact mark_notMem_escaped h (by simp [hdr])
  rw [hdr, List.cons_append, chars?, if_pos rfl, if_neg hd]

/-- The characters of an escaped text are the escaped characters of the text. -/
theorem chars?_flatMap_escaped (s : List Char) {d : Char} (hd : d ≠ mark) (t : List Char) :
    chars? (s.flatMap escaped ++ d :: t)
      = (chars? s).bind fun cs => (chars? (d :: t)).map (cs.flatMap escaped ++ ·) := by
  fun_induction chars? s with
  | case1 => simp
  | case2 => simp [escaped_mark, chars?, hd]
  | case3 c hc => simp [chars?_append_of_unmarked (mark_notMem_escaped hc)]
  | case4 r ih =>
    rw [List.flatMap_cons, List.flatMap_cons, escaped_mark, List.append_assoc, List.append_assoc]
    simp only [List.singleton_append, chars?, if_true, ih]
    cases chars? r with
    | none => rfl
    | some cs => cases chars? (d :: t) <;> simp [escaped_mark]
  | case5 d r hne =>
    rw [List.flatMap_cons, List.flatMap_cons, escaped_mark, List.append_assoc, List.append_assoc,
      List.singleton_append, chars?_mark_escaped hne]
    rfl
  | case6 c d r hc ih =>
    rw [List.flatMap_cons, List.append_assoc,
      chars?_append_of_unmarked (mark_notMem_escaped hc), ih]
    cases chars? (d :: r) with
    | none => rfl
    | some cs => cases chars? (_ :: t) <;> simp

theorem chars?_writeText (s : List Char) : chars? (writeText s) = (chars? s).map writeText := by
  have hquote : '"' ≠ mark := by decide
  rw [writeText, List.cons_append, chars?_cons_of_ne _ hquote, chars?_flatMap_escaped s hquote]
  cases chars? s with
  | none => rfl
  | some cs => simp [writeText, chars?, hquote]

theorem return_notMem_writeText (cs : List Char) : '\r' ∉ writeText cs := by
  have hescaped (c : Char) : '\r' ∉ escaped c := by
    intro h
    rcases mem_escaped h with h | ⟨rfl, h⟩ <;> exact absurd h (by decide)
  simp [writeText, hescaped]

/-! ### Whole numbers -/

/-- What follows a value starts with nothing that continues a number. -/
def Ends (rest : List Char) : Prop :=
  ∀ c ∈ rest.head?, c.isDigit = false ∧ c ≠ '.' ∧ c ≠ 'e' ∧ c ≠ 'E'

theorem ends_nil : Ends [] := by simp [Ends]

theorem ends_cons {c : Char} (h : c = '\n' ∨ c = ',') (r : List Char) : Ends (c :: r) := by
  intro d hd
  obtain rfl : c = d := Option.some.inj hd
  rcases h with rfl | rfl <;> decide

theorem digitsNumber_toDigits (n : Nat) : digitsNumber (Nat.toDigits 10 n) = n := by
  have hfold : digitsNumber (Nat.toDigits 10 n) = Nat.ofDigitChars 10 (Nat.toDigits 10 n) 0 := by
    rw [digitsNumber, Nat.ofDigitChars_eq_foldl]
    congr 1
    funext m c
    rw [Nat.mul_comm]
    rfl
  rw [hfold, Nat.ofDigitChars_ten_toDigits]

theorem isDigit_of_mem_toDigits {n : Nat} {c : Char} (h : c ∈ Nat.toDigits 10 n) :
    c.isDigit = true :=
  Nat.isDigit_of_mem_toDigits (by decide) (by decide) h

/-- Only zero is written with a zero first. -/
theorem head?_toDigits_ne {n : Nat} (h : 0 < n) : (Nat.toDigits 10 n).head? ≠ some '0' := by
  induction n using Nat.strong_induction_on with
  | _ n ih =>
    rw [Nat.toDigits_eq_if (by decide)]
    split
    · have hall : ∀ n < 10, 0 < n → [Nat.digitChar n].head? ≠ some '0' := by decide
      exact hall n ‹_› h
    · obtain ⟨c, r, hdigits⟩ :=
        List.exists_cons_of_ne_nil (Nat.toDigits_ne_nil (n := n / 10) (b := 10))
      have hhead := ih (n / 10) (by omega) (by omega)
      rw [hdigits] at hhead ⊢
      exact hhead

theorem spanDigits_append {ds rest : List Char} (hds : ∀ c ∈ ds, c.isDigit = true)
    (hrest : Ends rest) : spanDigits (ds ++ rest) = (ds, rest) := by
  have htake : rest.takeWhile Char.isDigit = [] ∧ rest.dropWhile Char.isDigit = rest := by
    cases rest with
    | nil => exact ⟨rfl, rfl⟩
    | cons c r =>
      have hc : ¬c.isDigit = true := by
        rw [(hrest c rfl).1]
        exact Bool.false_ne_true
      rw [List.takeWhile_cons, List.dropWhile_cons, if_neg hc, if_neg hc]
      exact ⟨rfl, rfl⟩
  rw [spanDigits, List.takeWhile_append_of_pos hds, List.dropWhile_append_of_pos hds, htake.1,
    htake.2, List.append_nil]

theorem spanWhole_toDigits (n : Nat) {rest : List Char} (hrest : Ends rest) :
    spanWhole (Nat.toDigits 10 n ++ rest) = (Nat.toDigits 10 n, rest) := by
  rcases Nat.eq_zero_or_pos n with rfl | hpos
  · rfl
  · have hhead := head?_toDigits_ne hpos
    have hspan := spanDigits_append (fun c hc => isDigit_of_mem_toDigits (n := n) hc) hrest
    unfold spanWhole
    split
    · rename_i heq
      obtain ⟨c, r, hdigits⟩ := List.exists_cons_of_ne_nil (Nat.toDigits_ne_nil (n := n) (b := 10))
      rw [hdigits] at heq hhead
      cases heq
      exact absurd rfl hhead
    · exact hspan

theorem spanFraction_of_ends {rest : List Char} (hrest : Ends rest) :
    spanFraction rest = ([], rest) := by
  unfold spanFraction
  split
  · exact absurd rfl (hrest _ rfl).2.1
  · rfl

theorem spanExponent_of_ends {rest : List Char} (hrest : Ends rest) :
    spanExponent rest = (none, rest) := by
  unfold spanExponent
  split
  · rfl
  · rename_i c r
    obtain ⟨-, -, he, hE⟩ := hrest c rfl
    rw [if_neg (by tauto)]

/-- The digits of a whole number are no minus sign. -/
theorem ne_minus_of_toDigits_append {n : Nat} {s r : List Char} :
    Nat.toDigits 10 n ++ s ≠ '-' :: r := by
  intro heq
  obtain ⟨c, t, hdigits⟩ := List.exists_cons_of_ne_nil (Nat.toDigits_ne_nil (n := n) (b := 10))
  have hdigit : c.isDigit = true := isDigit_of_mem_toDigits (n := n) (by simp [hdigits])
  rw [hdigits] at heq
  cases heq
  cases hdigit

/-- Digits with a sign are read as a whole number, if there are not too many. -/
theorem readNumber_of_sign {s : List Char} {negative : Bool} {n : Nat} {rest : List Char}
    (hsign : spanMinus s = (negative, Nat.toDigits 10 n ++ rest))
    (hn : (Nat.toDigits 10 n).length ≤ maxDigits) (hrest : Ends rest) :
    readNumber s = .ok (.int (if negative then -(n : Int) else n), rest) := by
  obtain ⟨c, r, hdigits⟩ := List.exists_cons_of_ne_nil (Nat.toDigits_ne_nil (n := n) (b := 10))
  have hwhole : spanWhole (Nat.toDigits 10 n ++ rest) = (c :: r, rest) := by
    rw [spanWhole_toDigits n hrest, hdigits]
  have hlength : ¬maxDigits < (c :: r).length := by
    rw [← hdigits]
    omega
  have hvalue : digitsNumber (c :: r) = n := by rw [← hdigits, digitsNumber_toDigits]
  unfold readNumber
  simp only [hsign, hwhole, spanFraction_of_ends hrest, spanExponent_of_ends hrest, hvalue,
    if_neg hlength]
  rfl

/-- A whole number of not too many digits that was printed is read back. -/
theorem readNumber_intText {n : Int} (hn : (Nat.toDigits 10 n.natAbs).length ≤ maxDigits)
    {rest : List Char} (hrest : Ends rest) :
    readNumber ((intText n).toList ++ rest) = .ok (.int n, rest) := by
  rw [intText, String.toList_ofList]
  by_cases hneg : n < 0
  · have hvalue : -(n.natAbs : Int) = n := by omega
    rw [if_pos hneg, readNumber_of_sign rfl hn hrest, if_pos rfl, hvalue]
  · have hvalue : (n.natAbs : Int) = n := by omega
    have hsign : spanMinus (Nat.toDigits 10 n.natAbs ++ rest)
        = (false, Nat.toDigits 10 n.natAbs ++ rest) := by
      unfold spanMinus
      split
      · exact absurd ‹_› ne_minus_of_toDigits_append
      · rfl
    rw [if_neg hneg, List.nil_append, readNumber_of_sign hsign hn hrest,
      if_neg Bool.false_ne_true, hvalue]

/-- A whole number is written with digits, after a minus sign if it is below zero. -/
theorem exists_intText (n : Int) :
    ∃ c r, (intText n).toList = c :: r
      ∧ (c.isDigit = true ∨ c = '-' ∧ ∃ d t, r = d :: t ∧ d.isDigit = true) := by
  obtain ⟨d, t, hdigits⟩ :=
    List.exists_cons_of_ne_nil (Nat.toDigits_ne_nil (n := n.natAbs) (b := 10))
  have hd : d.isDigit = true := isDigit_of_mem_toDigits (n := n.natAbs) (by simp [hdigits])
  rw [intText, String.toList_ofList, hdigits]
  by_cases hneg : n < 0
  · exact ⟨'-', d :: t, by simp [hneg], Or.inr ⟨rfl, d, t, rfl, hd⟩⟩
  · exact ⟨d, t, by simp [hneg], Or.inl hd⟩

theorem mem_intText {n : Int} {c : Char} (h : c ∈ (intText n).toList) :
    c = '-' ∨ c.isDigit = true := by
  rw [intText, String.toList_ofList, List.mem_append] at h
  rcases h with h | h
  · split at h
    · exact Or.inl (List.mem_singleton.mp h)
    · cases h
  · exact Or.inr (isDigit_of_mem_toDigits h)

/-- No word starts as a whole number does. -/
theorem readWord?_intText (n : Int) (rest : List Char) :
    readWord? ((intText n).toList ++ rest) = none := by
  have hwords : ∀ w ∈ words, ∃ a b t, w.1.toList = a :: b :: t ∧ a.isDigit = false
      ∧ b.isDigit = false := by
    intro w hw
    simp only [words, List.mem_cons, List.not_mem_nil, or_false] at hw
    rcases hw with rfl | rfl | rfl | rfl | rfl | rfl <;> exact ⟨_, _, _, rfl, by decide, by decide⟩
  obtain ⟨c, r, hdoc, hstart⟩ := exists_intText n
  rw [hdoc, readWord?, List.findSome?_eq_none_iff]
  intro w hw
  obtain ⟨a, b, t, hword, ha, hb⟩ := hwords w hw
  have hnot : a = c → ¬b :: t <+: r ++ rest := by
    rintro rfl hprefix
    rcases hstart with hc | ⟨-, d, u, rfl, hd⟩
    · simp [ha] at hc
    · obtain ⟨rfl, -⟩ := List.cons_prefix_cons.mp hprefix
      simp [hb] at hd
  simpa [hword] using hnot

end EntityMapping.Json
