import EntityMapping.Text.LetterCase
import Mathlib.Data.Nat.ModEq

/-!
# The lower case of a lower-case text

The table of letter case sends no letter to one that it sends elsewhere: the run of the lower-case
letters of an entry is apart from the runs of all entries.  That is a statement on runs, so that it
is checked for pairs of entries and not for single letters.  It follows that a text in lower case is
its own lower case (`lowered_lowered`), and just the texts of settled letters are
(`lowerAfter_eq_self_iff`).

## Main definitions

* `CharRun.isApart` — two runs do not overlap, or alternate.
* `LetterCase.Shift.image` — the lower-case letters of an entry of the table.
* `IsSettled` — a letter that stays as it is in lower case, wherever it stands.
-/

namespace EntityMapping.Text

/-- Whether two runs do not overlap, or the code points of the first one fall between those of the
second. -/
def CharRun.isApart (r s : CharRun) : Bool :=
  r.last.blt s.first || s.last.blt r.first
    || ((r.first == r.last || r.step % s.step == 0) && r.first % s.step != s.first % s.step)

namespace CharRun

variable {r s : CharRun} {n : Nat}

theorem covers_iff : r.covers n = true ↔ r.first ≤ n ∧ n ≤ r.last ∧ n ≡ r.first [MOD r.step] := by
  have hmod : r.first ≤ n → ((n - r.first) % r.step = 0 ↔ n ≡ r.first [MOD r.step]) := by
    intro hle
    rw [Nat.ModEq.comm, Nat.modEq_iff_dvd' hle, Nat.dvd_iff_mod_eq_zero]
  simp only [covers, Bool.and_eq_true, decide_eq_true_eq, beq_iff_eq]
  constructor
  · rintro ⟨⟨hfirst, hlast⟩, hstep⟩
    exact ⟨hfirst, hlast, (hmod hfirst).mp hstep⟩
  · rintro ⟨hfirst, hlast, hstep⟩
    exact ⟨⟨hfirst, hlast⟩, (hmod hfirst).mpr hstep⟩

theorem covers_eq_false_of_lt (h : n < r.first) : r.covers n = false := by
  rw [Bool.eq_false_iff]
  intro hcovers
  exact absurd (covers_iff.mp hcovers).1 (Nat.not_le_of_lt h)

theorem covers_eq_false_of_isApart (h : r.isApart s = true) (hn : r.covers n = true) :
    s.covers n = false := by
  obtain ⟨hfirst, hlast, hstep⟩ := covers_iff.mp hn
  rw [Bool.eq_false_iff]
  intro hs
  obtain ⟨hfirst', hlast', hstep'⟩ := covers_iff.mp hs
  simp only [isApart, Bool.or_eq_true, Bool.and_eq_true, Nat.blt_eq, beq_iff_eq, bne_iff_ne] at h
  rcases h with (h | h) | ⟨hsame, hne⟩
  · omega
  · omega
  · -- Both runs would have the same remainder.
    refine hne (Nat.ModEq.trans ?_ hstep')
    rcases hsame with heq | hdvd
    · have hn : n = r.first := by omega
      rw [hn]
    · exact (hstep.of_dvd (Nat.dvd_of_mod_eq_zero hdvd)).symm

end CharRun

namespace LetterCase

/-- The run of the lower-case letters of an entry. -/
def Shift.image (s : Shift) : CharRun :=
  ⟨(s.run.first + s.offset).toNat, (s.run.last + s.offset).toNat, s.run.step⟩

/-- An entry is sound if its lower-case letters are characters, and not the capital that has two
letters as its lower case. -/
def Shift.isSound (s : Shift) : Bool :=
  0 ≤ s.run.first + s.offset
    && (s.image.last < 0xd800 || 0xdfff < s.image.first && s.image.last < 0x110000)
    && !s.image.covers 'İ'.toNat

theorem Shift.covers_image {s : Shift} {n : Nat} (hs : 0 ≤ s.run.first + s.offset)
    (hn : s.run.covers n = true) : s.image.covers (n + s.offset).toNat = true := by
  obtain ⟨hfirst, hlast, hstep⟩ := CharRun.covers_iff.mp hn
  refine CharRun.covers_iff.mpr ⟨?_, ?_, ?_⟩
  · simp only [image]
    omega
  · simp only [image]
    omega
  · have hdist : (n + s.offset).toNat - (s.run.first + s.offset).toNat = n - s.run.first := by
      omega
    have hle : (s.run.first + s.offset).toNat ≤ (n + s.offset).toNat := by omega
    refine Nat.ModEq.symm ((Nat.modEq_iff_dvd' hle).mpr ?_)
    rw [hdist]
    exact (Nat.modEq_iff_dvd' hfirst).mp hstep.symm

/-- Checked on the table, entry by entry and pair by pair. -/
private theorem all_lowerShifts :
    (lowerShifts.all fun s => s.isSound && lowerShifts.all fun t => s.image.isApart t.run) = true
      ∧ (lowerShifts.any fun s => s.run.covers 'Σ'.toNat) = true := by
  decide +kernel

theorem exists_covers_sigma : ∃ s ∈ lowerShifts, s.run.covers 'Σ'.toNat = true :=
  List.any_eq_true.mp all_lowerShifts.2

variable {s t : Shift}

theorem isSound_of_mem (hs : s ∈ lowerShifts) : s.isSound = true :=
  (Bool.and_eq_true_iff.mp (List.all_eq_true.mp all_lowerShifts.1 s hs)).1

theorem isApart_of_mem (hs : s ∈ lowerShifts) (ht : t ∈ lowerShifts) :
    s.image.isApart t.run = true :=
  List.all_eq_true.mp (Bool.and_eq_true_iff.mp (List.all_eq_true.mp all_lowerShifts.1 s hs)).2 t ht

/-- The lower-case letter that an entry gives is a character of its own. -/
theorem toNat_ofNat_image {n : Nat} (hs : s.isSound = true) (hn : s.image.covers n = true) :
    (Char.ofNat n).toNat = n ∧ n ≠ 'İ'.toNat := by
  simp only [Shift.isSound, Bool.and_eq_true, Bool.or_eq_true, decide_eq_true_eq,
    Bool.not_eq_true'] at hs
  obtain ⟨⟨-, hrange⟩, hdotted⟩ := hs
  obtain ⟨hfirst, hlast, -⟩ := CharRun.covers_iff.mp hn
  have hvalid : n.isValidChar := by
    rcases hrange with h | ⟨h, h'⟩
    · exact Or.inl (by omega)
    · exact Or.inr ⟨by omega, by omega⟩
  constructor
  · rw [Char.ofNat, dif_pos hvalid]
    rfl
  · rintro rfl
    rw [hn] at hdotted
    cases hdotted

end LetterCase

open LetterCase

/-- A letter that stays as it is in lower case, wherever it stands. -/
def IsSettled (c : Char) : Prop := c ≠ 'Σ' ∧ lowerChar c = [c]

theorem lowerChar_of_forall_covers {c : Char} (hdotted : c ≠ 'İ')
    (h : ∀ s ∈ lowerShifts, s.run.covers c.toNat = false) : lowerChar c = [c] := by
  have hfind : lowerShifts.find? (·.run.covers c.toNat) = none := by
    rw [List.find?_eq_none]
    intro s hs
    rw [h s hs]
    exact Bool.false_ne_true
  rw [lowerChar, if_neg hdotted, hfind]

/-- The letters that an entry of the table gives are settled. -/
theorem isSettled_of_covers_image {s : Shift} {n : Nat} (hs : s ∈ lowerShifts)
    (hn : s.image.covers n = true) : IsSettled (Char.ofNat n) := by
  obtain ⟨hnumber, hdotted⟩ := toNat_ofNat_image (isSound_of_mem hs) hn
  have hfree : ∀ t ∈ lowerShifts, t.run.covers (Char.ofNat n).toNat = false := by
    intro t ht
    rw [hnumber]
    exact CharRun.covers_eq_false_of_isApart (isApart_of_mem hs ht) hn
  constructor
  · intro hsigma
    -- The capital sigma is in the table, so no entry gives it.
    obtain ⟨t, ht, hcovers⟩ := exists_covers_sigma
    rw [← hsigma, hfree t ht] at hcovers
    cases hcovers
  · refine lowerChar_of_forall_covers ?_ hfree
    intro h
    exact hdotted (hnumber ▸ congrArg Char.toNat h)

/-- The lower case of a letter is two letters for one capital, and else the letter itself or what an
entry of the table gives. -/
theorem lowerChar_cases (c : Char) :
    c = 'İ' ∧ lowerChar c = ['i', '\u0307']
      ∨ lowerChar c = [c]
      ∨ ∃ s ∈ lowerShifts, ∃ n, s.run.covers c.toNat = true ∧ s.image.covers n = true
        ∧ lowerChar c = [Char.ofNat n] := by
  by_cases hdotted : c = 'İ'
  · exact Or.inl ⟨hdotted, by rw [lowerChar, if_pos hdotted]⟩
  · cases hfind : lowerShifts.find? (·.run.covers c.toNat) with
    | none => exact Or.inr (Or.inl (by rw [lowerChar, if_neg hdotted, hfind]))
    | some s =>
      have hs : s ∈ lowerShifts := List.mem_of_find?_eq_some hfind
      have hrun : s.run.covers c.toNat = true := by simpa using List.find?_some hfind
      have hsound := isSound_of_mem hs
      simp only [Shift.isSound, Bool.and_eq_true, decide_eq_true_eq] at hsound
      refine Or.inr (Or.inr ⟨s, hs, _, hrun, Shift.covers_image hsound.1.1 hrun, ?_⟩)
      rw [lowerChar, if_neg hdotted, hfind]

theorem lowerChar_ne_nil (c : Char) : lowerChar c ≠ [] := by
  rcases lowerChar_cases c with ⟨-, h⟩ | h | ⟨s, -, n, -, -, h⟩ <;> simp [h]

/-- The capital sigma has a lower case other than itself, so it is enough to look at one letter. -/
theorem isSettled_iff {c : Char} : IsSettled c ↔ lowerChar c = [c] := by
  refine ⟨And.right, fun h => ⟨?_, h⟩⟩
  rintro rfl
  revert h
  decide

theorem isSettled_of_mem_lowerChar {c d : Char} (hd : d ∈ lowerChar c) : IsSettled d := by
  rcases lowerChar_cases c with ⟨-, hlower⟩ | hlower | ⟨s, hs, n, -, himage, hlower⟩
  · have hcases : d = 'i' ∨ d = '\u0307' := by simpa [hlower] using hd
    rcases hcases with rfl | rfl <;> exact ⟨by decide, by decide⟩
  · obtain rfl := List.mem_singleton.mp (hlower ▸ hd)
    exact isSettled_iff.mpr hlower
  · obtain rfl := List.mem_singleton.mp (hlower ▸ hd)
    exact isSettled_of_covers_image hs himage

/-- A text in lower case consists of settled letters. -/
theorem isSettled_of_mem_lowerAfter {before s : List Char} {d : Char}
    (hd : d ∈ lowerAfter before s) : IsSettled d := by
  induction s generalizing before with
  | nil => cases hd
  | cons c r ih =>
    rw [lowerAfter, List.mem_append] at hd
    rcases hd with hd | hd
    · split at hd
      · -- The capital sigma has two lower-case forms, which are both settled.
        obtain rfl := List.mem_singleton.mp hd
        split <;> exact ⟨by decide, by decide⟩
      · exact isSettled_of_mem_lowerChar hd
    · exact ih hd

theorem lowerAfter_of_settled {before s : List Char} (h : ∀ c ∈ s, IsSettled c) :
    lowerAfter before s = s := by
  induction s generalizing before with
  | nil => rfl
  | cons c r ih =>
    obtain ⟨hsigma, hsame⟩ := h c List.mem_cons_self
    rw [lowerAfter, if_neg hsigma, hsame, ih fun d hd => h d (List.mem_cons_of_mem _ hd)]
    rfl

theorem length_le_lowerAfter (before s : List Char) : s.length ≤ (lowerAfter before s).length := by
  induction s generalizing before with
  | nil => exact Nat.le_refl _
  | cons c r ih =>
    have hpos := List.length_pos_iff.mpr (lowerChar_ne_nil c)
    have hrest := ih (c :: before)
    rw [lowerAfter, List.length_append, List.length_cons]
    split
    · rw [List.length_singleton]
      omega
    · omega

/-- Where nothing is lost, what stands for the first letter is that letter alone. -/
theorem eq_of_append_eq_cons {c : Char} {piece rest r : List Char} (h : piece ++ rest = c :: r)
    (hpiece : piece ≠ []) (hrest : r.length ≤ rest.length) : piece = [c] ∧ rest = r := by
  have hpos := List.length_pos_iff.mpr hpiece
  have hlength := congrArg List.length h
  rw [List.length_append, List.length_cons] at hlength
  refine List.append_inj (h.trans List.singleton_append.symm) ?_
  rw [List.length_singleton]
  omega

/-- A text is its own lower case just if it consists of settled letters. -/
theorem lowerAfter_eq_self_iff {before s : List Char} :
    lowerAfter before s = s ↔ ∀ c ∈ s, IsSettled c := by
  refine ⟨fun h => ?_, lowerAfter_of_settled⟩
  induction s generalizing before with
  | nil => exact List.forall_mem_nil _
  | cons c r ih =>
    rw [lowerAfter] at h
    split at h
    · -- Neither form of the small sigma is the capital.
      rename_i hsigma
      obtain ⟨hform, -⟩ := List.cons.inj h
      rw [hsigma] at hform
      split at hform <;> exact absurd hform (by decide)
    · obtain ⟨hpiece, hrest⟩ :=
        eq_of_append_eq_cons h (lowerChar_ne_nil c) (length_le_lowerAfter (c :: before) r)
      exact List.forall_mem_cons.mpr ⟨isSettled_iff.mpr hpiece, ih hrest⟩

/-- The lower case of a text is its own lower case. -/
@[simp] theorem lowered_lowered (s : String) : lowered (lowered s) = lowered s := by
  have h : ∀ c ∈ lowerAfter [] s.toList, IsSettled c := fun _ => isSettled_of_mem_lowerAfter
  simp only [lowered, String.toList_ofList, lowerAfter_of_settled h]

end EntityMapping.Text
