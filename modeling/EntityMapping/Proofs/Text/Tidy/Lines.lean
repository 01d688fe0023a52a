import EntityMapping.Proofs.Text.Tidy
import EntityMapping.Proofs.Text.Trimming
import Mathlib.Data.List.Chain

/-!
# The lines of tidied text

Tidying works on lines.  It takes the blanks at the end of each line away, so that blank lines
become empty, and of neighbouring empty lines it keeps the first one.  No line of code is lost or
moved over another one, and where blank lines stood between two of them, one stands there afterwards
(`tidied_keeps_code`).

## Main definitions

* `codeLines` — the lines that are not blank.
* `gaps` — how many blank lines stand between neighbouring lines of code.
* `bodyLines` — the lines of a text that ends with a line end.
-/

namespace EntityMapping.Text

/-- The text without the blank characters at its end. -/
def trimmedEnd (s : String) : String := String.ofList (trimEnd s.toList)

/-- The lines of a text that ends with a line end. -/
def bodyLines (t : String) : List String := (pieces '\n' t).dropLast

/-- The lines of code: those that are not blank. -/
def codeLines (ls : List String) : List String := ls.filter fun l => !isBlankText l

/-- How many blank items stand right before each other one, where `n` more stand before the
list. -/
def gapsFrom {α : Type} (blank : α → Bool) (n : Nat) : List α → List Nat
  | [] => []
  | l :: r => if blank l then gapsFrom blank (n + 1) r else n :: gapsFrom blank 0 r

/-- How many blank lines stand between each line of code and the next one. -/
def gaps (ls : List String) : List Nat := (gapsFrom isBlankText 0 ls).tail

example : gaps ["", "a", " ", "\t", "b", "c", ""] = [2, 0] := by decide

/-- The lines that a text is tidied to. -/
def tidyLines (s : List Char) : List (List Char) :=
  collapse false ((cut '\n' (stripNewlines s)).map trimEnd)

variable {s : List Char} {ls : List (List Char)}

/-! ### Neighbouring empty lines -/

theorem mem_of_mem_collapse {blank : Bool} {l : List Char} (h : l ∈ collapse blank ls) :
    l ∈ ls := by
  induction ls generalizing blank with
  | nil => exact h
  | cons m r ih =>
    rw [collapse] at h
    split_ifs at h
    · exact List.mem_cons_of_mem m (ih h)
    all_goals
      rcases List.mem_cons.mp h with rfl | h
      · simp_all
      · exact List.mem_cons_of_mem m (ih h)

theorem filter_collapse (blank : Bool) (ls : List (List Char)) :
    (collapse blank ls).filter (· ≠ []) = ls.filter (· ≠ []) := by
  induction ls generalizing blank with
  | nil => rfl
  | cons l r ih =>
    rw [collapse]
    split_ifs <;> simp_all

theorem ne_nil_of_mem_head?_collapse {l : List Char} (h : l ∈ (collapse true ls).head?) :
    l ≠ [] := by
  induction ls with
  | nil => cases h
  | cons m r ih =>
    by_cases hm : m = []
    · rw [collapse, if_pos hm, if_pos rfl] at h
      exact ih h
    · rw [collapse, if_neg hm] at h
      obtain rfl := Option.some.inj h
      exact hm

/-- No two neighbours are empty afterwards. -/
theorem isChain_collapse (blank : Bool) (ls : List (List Char)) :
    (collapse blank ls).IsChain fun l m => ¬(l = [] ∧ m = []) := by
  induction ls generalizing blank with
  | nil => exact .nil
  | cons l r ih =>
    rw [collapse]
    split_ifs with hl
    · exact ih true
    · exact List.isChain_cons.mpr ⟨fun m hm h => ne_nil_of_mem_head?_collapse hm h.2, ih true⟩
    · exact List.isChain_cons.mpr ⟨fun m _ h => hl h.1, ih false⟩

/-! ### Gaps -/

section Gaps

variable {α β : Type} {blank : α → Bool} {n : Nat} {ls : List α}

theorem gapsFrom_map (blank : β → Bool) (f : α → β) (n : Nat) (ls : List α) :
    gapsFrom blank n (ls.map f) = gapsFrom (blank ∘ f) n ls := by
  induction ls generalizing n with
  | nil => rfl
  | cons l r ih => simp only [List.map_cons, gapsFrom, ih, Function.comp_apply]

theorem gapsFrom_congr {blank' : α → Bool} (h : ∀ l ∈ ls, blank l = blank' l) :
    gapsFrom blank n ls = gapsFrom blank' n ls := by
  induction ls generalizing n with
  | nil => rfl
  | cons l r ih =>
    obtain ⟨hl, hr⟩ := List.forall_mem_cons.mp h
    simp only [gapsFrom, hl, ih hr]

/-- What stands before the first line of code has no part in the gaps behind it. -/
theorem tail_gapsFrom (blank : α → Bool) (n k : Nat) (ls : List α) :
    (gapsFrom blank n ls).tail = (gapsFrom blank k ls).tail := by
  induction ls generalizing n k with
  | nil => rfl
  | cons l r ih =>
    rw [gapsFrom, gapsFrom]
    split_ifs
    · exact ih _ _
    · rfl

theorem gapsFrom_replicate_append {e : α} (he : blank e = true) (m : Nat) :
    gapsFrom blank n (List.replicate m e ++ ls) = gapsFrom blank (n + m) ls := by
  induction m generalizing n with
  | zero => rfl
  | succ m ih =>
    rw [List.replicate_succ, List.cons_append, gapsFrom, if_pos he, ih, Nat.add_right_comm]
    rfl

theorem gapsFrom_append_replicate {e : α} (he : blank e = true) (m : Nat) :
    gapsFrom blank n (ls ++ List.replicate m e) = gapsFrom blank n ls := by
  induction ls generalizing n with
  | nil =>
    rw [List.nil_append, ← List.append_nil (List.replicate m e), gapsFrom_replicate_append he]
    rfl
  | cons l r ih => simp only [List.cons_append, gapsFrom, ih]

end Gaps

/-- Blank lines before a line of code are counted up to one: that is what `blank` remembers of the
empty lines seen last. -/
theorem gapsFrom_collapse (n : Nat) (ls : List (List Char)) :
    gapsFrom (· = []) (min 1 n) (collapse (0 < n) ls) = (gapsFrom (· = []) n ls).map (min 1) := by
  induction ls generalizing n with
  | nil => rfl
  | cons l r ih =>
    by_cases hl : l = []
    · have hnext := ih (n + 1)
      rw [decide_eq_true n.succ_pos, Nat.min_eq_left (Nat.le_add_left 1 n)] at hnext
      rcases Nat.eq_zero_or_pos n with rfl | hn
      · simpa [collapse, gapsFrom, hl] using hnext
      · simpa [collapse, gapsFrom, hl, hn, Nat.min_eq_left hn] using hnext
    · have hnext := ih 0
      simp_all [collapse, gapsFrom]

/-! ### Tidying line by line -/

/-- A text has line ends around what stripping leaves of it. -/
theorem exists_stripNewlines (s : List Char) :
    ∃ m n, s = List.replicate m '\n' ++ stripNewlines s ++ List.replicate n '\n' := by
  have hstart (t : List Char) : ∃ m, t = List.replicate m '\n' ++ t.dropWhile (· = '\n') := by
    have htaken : t.takeWhile (· = '\n')
        = List.replicate (t.takeWhile (· = '\n')).length '\n' :=
      List.eq_replicate_iff.mpr ⟨rfl, fun c hc => by simpa using List.mem_takeWhile_imp hc⟩
    exact ⟨_, by rw [← htaken, List.takeWhile_append_dropWhile]⟩
  obtain ⟨m, hm⟩ := hstart s
  obtain ⟨n, hn⟩ := hstart (s.dropWhile (· = '\n')).reverse
  refine ⟨m, n, ?_⟩
  rw [List.append_assoc, stripNewlines]
  conv_lhs => rw [hm, ← List.reverse_reverse (s.dropWhile (· = '\n')), hn]
  rw [List.reverse_append, List.reverse_replicate]

/-- The lines of a text are those of what stripping leaves of it, with empty lines around them. -/
theorem exists_cut_stripNewlines (s : List Char) :
    ∃ m n, cut '\n' s
      = List.replicate m [] ++ cut '\n' (stripNewlines s) ++ List.replicate n [] := by
  have hstart (m : Nat) (t : List Char) :
      cut '\n' (List.replicate m '\n' ++ t) = List.replicate m [] ++ cut '\n' t := by
    induction m with
    | zero => rfl
    | succ m ih => rw [List.replicate_succ, List.cons_append, cut, if_pos rfl, ih]; rfl
  have hend (t : List Char) (n : Nat) :
      cut '\n' (t ++ List.replicate n '\n') = cut '\n' t ++ List.replicate n [] := by
    induction n generalizing t with
    | zero => simp
    | succ n ih =>
      rw [List.replicate_succ, cut_append, ← List.nil_append (List.replicate n '\n'), ih,
        List.replicate_succ]
      rfl
  obtain ⟨m, n, hs⟩ := exists_stripNewlines s
  refine ⟨m, n, ?_⟩
  conv_lhs => rw [hs]
  rw [hend, hstart]

theorem tidy_eq (s : List Char) : tidy s = joined ['\n'] (tidyLines s) ++ ['\n'] := rfl

theorem tidyLines_ne_nil (s : List Char) : tidyLines s ≠ [] := by
  obtain ⟨l, r, hl⟩ := List.exists_cons_of_ne_nil (cut_ne_nil '\n' (stripNewlines s))
  rw [tidyLines, hl, List.map_cons, collapse]
  by_cases htrim : trimEnd l = [] <;> simp [htrim]

theorem exists_of_mem_tidyLines {l : List Char} (h : l ∈ tidyLines s) :
    ∃ m ∈ cut '\n' (stripNewlines s), trimEnd m = l :=
  List.mem_map.mp (mem_of_mem_collapse h)

theorem trimEnd_of_mem_tidyLines {l : List Char} (h : l ∈ tidyLines s) : trimEnd l = l := by
  obtain ⟨m, -, rfl⟩ := exists_of_mem_tidyLines h
  exact trimEnd_trimEnd m

/-- The lines of tidied text are those that it was tidied to, and an empty one behind the last line
end. -/
theorem pieces_tidied (s : String) :
    pieces '\n' (tidied s) = (tidyLines s.toList).map String.ofList ++ [""] := by
  have hline : ∀ l ∈ tidyLines s.toList, '\n' ∉ l := by
    intro l hl
    obtain ⟨m, hm, rfl⟩ := exists_of_mem_tidyLines hl
    exact fun h => notMem_of_mem_cut hm (mem_of_mem_trimEnd h)
  rw [pieces, tidied, String.toList_ofList, tidy_eq, cut_append,
    cut_joined (tidyLines_ne_nil _) hline, List.map_append]
  rfl

theorem bodyLines_tidied (s : String) :
    bodyLines (tidied s) = (tidyLines s.toList).map String.ofList := by
  rw [bodyLines, pieces_tidied, List.dropLast_concat]

/-- Every line of tidied text has a line end behind it. -/
theorem lined_bodyLines_tidied (s : String) : lined (bodyLines (tidied s)) = tidied s := by
  have hid : ((tidyLines s.toList).map String.ofList).map String.toList = tidyLines s.toList := by
    rw [List.map_map]
    exact (List.map_congr_left fun l _ => String.toList_ofList).trans (List.map_id _)
  rw [bodyLines_tidied, ← String.toList_inj,
    toList_lined (mt List.map_eq_nil_iff.mp (tidyLines_ne_nil _)), hid, tidied,
    String.toList_ofList, tidy_eq]

/-! ### Code is kept -/

theorem isBlankText_ofList (l : List Char) :
    isBlankText (String.ofList l) = decide (trimEnd l = []) := by
  rw [isBlankText, String.toList_ofList, Bool.eq_iff_iff, decide_eq_true_iff, trimEnd_eq_nil_iff]

/-- The lines of code among trimmed lines are those that are not empty. -/
theorem codeLines_of_trimmed (h : ∀ l ∈ ls, trimEnd l = l) :
    codeLines (ls.map String.ofList) = (ls.filter (· ≠ [])).map String.ofList := by
  rw [codeLines, List.filter_map]
  refine congrArg _ (List.filter_congr fun l hl => ?_)
  rw [Function.comp_apply, isBlankText_ofList, h l hl, decide_not]

theorem map_trimmedEnd_codeLines (ls : List (List Char)) :
    (codeLines (ls.map String.ofList)).map trimmedEnd
      = ((ls.map trimEnd).filter (· ≠ [])).map String.ofList := by
  rw [codeLines, List.filter_map, List.filter_map, List.map_map, List.map_map]
  have hfilter : ((fun l => !isBlankText l) ∘ String.ofList)
      = ((fun l => decide (l ≠ [])) ∘ trimEnd) := by
    funext l
    rw [Function.comp_apply, Function.comp_apply, isBlankText_ofList, decide_not]
  have htrim : trimmedEnd ∘ String.ofList = String.ofList ∘ trimEnd := by
    funext l
    rw [Function.comp_apply, trimmedEnd, String.toList_ofList, Function.comp_apply]
  rw [hfilter, htrim]

theorem gapsFrom_isBlankText (n : Nat) (ls : List (List Char)) :
    gapsFrom isBlankText n (ls.map String.ofList) = gapsFrom (· = []) n (ls.map trimEnd) := by
  rw [gapsFrom_map, gapsFrom_map]
  exact gapsFrom_congr fun l _ => isBlankText_ofList l

/-- Tidying keeps the lines of code in order, without the blanks at their ends, and leaves one empty
line between two of them just if there was a blank line between them.  No line of tidied text ends
in a blank, each has a line end behind it, and no two neighbouring ones are empty. -/
theorem tidied_keeps_code (s : String) :
    codeLines (pieces '\n' (tidied s)) = (codeLines (pieces '\n' s)).map trimmedEnd
      ∧ (∀ l ∈ pieces '\n' (tidied s), trimmedEnd l = l)
      ∧ lined (bodyLines (tidied s)) = tidied s
      ∧ (bodyLines (tidied s)).IsChain (fun l m => ¬(l = "" ∧ m = ""))
      ∧ gaps (bodyLines (tidied s)) = (gaps (pieces '\n' s)).map (min 1) := by
  obtain ⟨m, n, hcut⟩ := exists_cut_stripNewlines s.toList
  have hlines : (cut '\n' s.toList).map trimEnd = List.replicate m []
      ++ (cut '\n' (stripNewlines s.toList)).map trimEnd ++ List.replicate n [] := by
    rw [hcut, List.map_append, List.map_append, List.map_replicate, List.map_replicate, trimEnd_nil]
  have htrimmed : ∀ l ∈ tidyLines s.toList, trimEnd l = l := fun l => trimEnd_of_mem_tidyLines
  refine ⟨?_, ?_, lined_bodyLines_tidied s, ?_, ?_⟩
  · have hempty : codeLines [""] = [] := rfl
    rw [pieces_tidied, codeLines, List.filter_append, ← codeLines, ← codeLines, hempty,
      List.append_nil, codeLines_of_trimmed htrimmed, tidyLines, filter_collapse, pieces,
      map_trimmedEnd_codeLines, hlines]
    simp
  · intro l hl
    rw [pieces_tidied, List.mem_append, List.mem_map, List.mem_singleton] at hl
    rcases hl with ⟨l, hl, rfl⟩ | rfl
    · rw [trimmedEnd, String.toList_ofList, htrimmed l hl]
    · rfl
  · rw [bodyLines_tidied, List.isChain_map]
    exact (isChain_collapse false _).imp fun l m h => by
      rwa [String.ofList_eq_empty_iff, String.ofList_eq_empty_iff]
  · have hgaps := gapsFrom_collapse 0 ((cut '\n' (stripNewlines s.toList)).map trimEnd)
    have hid : (tidyLines s.toList).map trimEnd = tidyLines s.toList := by
      rw [List.map_congr_left htrimmed, List.map_id']
    rw [gaps, gaps, bodyLines_tidied, pieces, gapsFrom_isBlankText, gapsFrom_isBlankText, hid,
      hlines, gapsFrom_append_replicate rfl, gapsFrom_replicate_append rfl,
      tail_gapsFrom _ (0 + m) 0, List.map_tail]
    exact congrArg List.tail hgaps

end EntityMapping.Text
