import EntityMapping.Proofs.Text.Tidy.Lines

/-!
# Tidying again

The line ends around a text are stripped before its lines are trimmed, so a line of nothing but
blanks at either end is not stripped: it becomes empty and stays.  With code on other lines, tidied
text then starts or ends with a line end too many, which only tidying again takes away.  So tidied
text ends with one line end, and is what tidying it again gives, just if there is no such line
(`tidied_settles`); what tidying twice gives is always settled.

## Main definitions

* `EndsOnce` — a text ends with exactly one line end.
* `opensBlank`, `closesBlank` — the first or the last line that is not empty is blank.
-/

namespace EntityMapping.Text

/-- A text ends with exactly one line end. -/
def EndsOnce (t : String) : Prop :=
  t.toList.getLast? = some '\n' ∧ t.toList.dropLast.getLast? ≠ some '\n'

instance (t : String) : Decidable (EndsOnce t) := instDecidableAnd

/-- A text that is not blank has blanks alone on the first line that is not empty. -/
def opensBlank (s : String) : Bool :=
  !isBlankText s && ((pieces '\n' s).find? (· ≠ "")).any isBlankText

/-- A text that is not blank has blanks alone on the last line that is not empty. -/
def closesBlank (s : String) : Bool :=
  !isBlankText s && ((pieces '\n' s).reverse.find? (· ≠ "")).any isBlankText

/-- One empty line or none. -/
def emptyLine (there : Bool) : List String := if there then [""] else []

variable {s : String} {l : String} {ls : List String} {lines : List (List Char)}

/-! ### Paragraphs between empty lines -/

theorem collapse_true_replicate (n : Nat) : collapse true (List.replicate n []) = [] := by
  induction n with
  | zero => rfl
  | succ n ih => rw [List.replicate_succ, collapse, if_pos rfl, if_pos rfl, ih]

/-- Of empty lines at most one is left. -/
theorem collapse_of_empty (h : ∀ l ∈ lines, l = []) :
    (collapse false lines).map String.ofList = emptyLine (lines.getLast? = some []) := by
  obtain ⟨n, rfl⟩ : ∃ n, lines = List.replicate n [] :=
    ⟨_, List.eq_replicate_iff.mpr ⟨rfl, h⟩⟩
  cases n with
  | zero => rfl
  | succ n =>
    rw [List.getLast?_replicate, if_neg n.succ_ne_zero, List.replicate_succ, collapse, if_pos rfl,
      if_neg Bool.false_ne_true, collapse_true_replicate]
    rfl

/-- A line in front of paragraphs belongs to the first one. -/
theorem Paragraphs.cons (hl : IsFull l) (h : Paragraphs ls) : Paragraphs (l :: ls) := by
  cases h with
  | single _ hfull => exact .single (List.cons_ne_nil l _) (List.forall_mem_cons.mpr ⟨hl, hfull⟩)
  | before _ hfull hls =>
    exact .before (List.cons_ne_nil l _) (List.forall_mem_cons.mpr ⟨hl, hfull⟩) hls

theorem Paragraphs.cons_empty (hl : IsFull l) (h : Paragraphs ls) : Paragraphs (l :: "" :: ls) :=
  .before (List.cons_ne_nil l []) (List.forall_mem_singleton.mpr hl) h

/-- Of lines that are full or empty, and not all empty, paragraphs are left, with an empty line
before and behind them where there was one. -/
theorem exists_collapse (h : ∀ l ∈ lines, l ≠ [] → IsFull (String.ofList l))
    (hsome : ∃ l ∈ lines, l ≠ []) (blank : Bool) :
    ∃ ps, Paragraphs ps ∧ (collapse blank lines).map String.ofList
      = emptyLine (!blank && lines.head? = some []) ++ ps
        ++ emptyLine (lines.getLast? = some []) := by
  induction lines generalizing blank with
  | nil => simp at hsome
  | cons l r ih =>
    obtain ⟨hl, hr⟩ := List.forall_mem_cons.mp h
    by_cases hempty : l = []
    · have hrest : ∃ m ∈ r, m ≠ [] := by
        obtain ⟨m, hm, hne⟩ := hsome
        exact ⟨m, (List.mem_cons.mp hm).resolve_left fun he => hne (he.trans hempty), hne⟩
      obtain ⟨ps, hps, hcollapse⟩ := ih hr hrest true
      have hlast : (l :: r).getLast? = r.getLast? := by
        obtain ⟨m, hm, -⟩ := hrest
        rw [List.getLast?_cons_of_ne_nil (List.ne_nil_of_mem hm)]
      refine ⟨ps, hps, ?_⟩
      rw [hlast, collapse, if_pos hempty]
      cases blank with
      | true => simpa [emptyLine] using hcollapse
      | false => simpa [emptyLine, hempty] using hcollapse
    · have hfull := hl hempty
      have hlast : (l :: r).getLast? = some [] ↔ r.getLast? = some [] := by
        cases r <;> simp [hempty]
      simp only [hlast, List.head?_cons, Option.some.injEq, hempty, decide_false, Bool.and_false]
      rw [collapse, if_neg hempty, List.map_cons]
      by_cases hrest : ∃ m ∈ r, m ≠ []
      · obtain ⟨ps, hps, hcollapse⟩ := ih hr hrest false
        rw [hcollapse]
        by_cases hhead : r.head? = some []
        · exact ⟨_, hps.cons_empty hfull, by simp [emptyLine, hhead]⟩
        · exact ⟨_, hps.cons hfull, by simp [emptyLine, hhead]⟩
      · have hall : ∀ m ∈ r, m = [] := fun m hm => not_not.mp fun hne => hrest ⟨m, hm, hne⟩
        rw [collapse_of_empty hall]
        exact ⟨[String.ofList l],
          .single (List.cons_ne_nil _ []) (List.forall_mem_singleton.mpr hfull), rfl⟩

/-! ### Where the paragraphs stand -/

theorem isFull_trimEnd {l : List Char} (hline : '\n' ∉ l) (hne : trimEnd l ≠ []) :
    IsFull (String.ofList (trimEnd l)) := by
  rw [IsFull, String.toList_ofList]
  refine ⟨fun h => hline (mem_of_mem_trimEnd h), _, List.getLast?_eq_some_getLast hne, ?_⟩
  exact eq_false_of_ne_true (List.rdropWhile_last_not isBlank l hne)

/-- A text is not blank just if there is a line with something on it between the line ends around
it. -/
theorem isBlankText_eq_false_iff :
    isBlankText s = false ↔ ∃ l ∈ cut '\n' (stripNewlines s.toList), trimEnd l ≠ [] := by
  obtain ⟨m, n, hcut⟩ := exists_cut_stripNewlines s.toList
  have hchars : isBlankText s = false ↔ ∃ c ∈ s.toList, isBlank c = false := by
    rw [isBlankText, List.all_eq_false]
    simp
  rw [hchars]
  constructor
  · rintro ⟨c, hc, hblank⟩
    rw [← joined_cut '\n' s.toList] at hc
    rcases eq_or_mem_of_mem_joined hc with rfl | ⟨l, hl, hcl⟩
    · cases hblank
    · have hempty : l ≠ [] := List.ne_nil_of_mem hcl
      simp only [hcut, List.mem_append, List.mem_replicate, hempty, and_false, or_false,
        false_or] at hl
      refine ⟨l, hl, fun htrim => ?_⟩
      rw [List.all_eq_true.mp (trimEnd_eq_nil_iff.mp htrim) c hcl] at hblank
      cases hblank
  · rintro ⟨l, hl, htrim⟩
    obtain ⟨c, hc, hblank⟩ : ∃ c ∈ l, isBlank c = false := by
      rw [ne_eq, trimEnd_eq_nil_iff, List.all_eq_true] at htrim
      simpa using htrim
    have hmem : l ∈ cut '\n' s.toList := by
      rw [hcut]
      simp [hl]
    exact ⟨c, mem_of_mem_cut hmem hc, hblank⟩

/-- What stripping leaves neither starts nor ends with a line end. -/
theorem ends_stripNewlines {t : List Char} (h : stripNewlines t ≠ []) :
    (∃ c r, stripNewlines t = c :: r ∧ c ≠ '\n')
      ∧ ∃ front c, stripNewlines t = front ++ [c] ∧ c ≠ '\n' := by
  constructor
  · obtain ⟨c, r, hc⟩ := List.exists_cons_of_ne_nil h
    obtain ⟨rest, hrest⟩ : stripNewlines t <+: t.dropWhile (· = '\n') :=
      List.rdropWhile_prefix _ _
    have hhead := List.head?_dropWhile_not (· = '\n') t
    rw [← hrest, hc] at hhead
    exact ⟨c, r, hc, by simpa using hhead⟩
  · have hlast := List.rdropWhile_last_not (· = '\n') (t.dropWhile (· = '\n')) h
    exact ⟨_, _, (List.dropLast_concat_getLast h).symm, fun he => hlast (decide_eq_true he)⟩

/-- Between the line ends around a text that is not blank, the first and the last line are not
empty. -/
theorem exists_ends_cut (h : isBlankText s = false) :
    (∃ u r, cut '\n' (stripNewlines s.toList) = u :: r ∧ u ≠ [])
      ∧ ∃ front u, cut '\n' (stripNewlines s.toList) = front ++ [u] ∧ u ≠ [] := by
  have hne : stripNewlines s.toList ≠ [] := by
    intro hnil
    obtain ⟨l, hl, hcode⟩ := isBlankText_eq_false_iff.mp h
    rw [hnil, cut, List.mem_singleton] at hl
    exact hcode (by rw [hl, trimEnd_nil])
  obtain ⟨⟨c, r, hcons, hc⟩, front, d, hconcat, hd⟩ := ends_stripNewlines hne
  constructor
  · obtain ⟨p, ps, hcut⟩ := exists_cut_cons hc r
    exact ⟨_, _, hcons ▸ hcut, List.cons_ne_nil c p⟩
  · obtain ⟨ps, p, hcut⟩ := exists_cut_concat hd front
    exact ⟨_, _, hconcat ▸ hcut, List.concat_ne_nil d p⟩

theorem any_find?_replicate_append {u : List Char} (hu : u ≠ []) (m : Nat)
    (r : List (List Char)) :
    (((List.replicate m [] ++ u :: r).map String.ofList).find? (· ≠ "")).any isBlankText
      = decide (trimEnd u = []) := by
  have hskip : (List.replicate m (String.ofList [])).find? (· ≠ "") = none := by simp
  have hfirst : decide (String.ofList u ≠ "") = true :=
    decide_eq_true (mt String.ofList_eq_empty_iff.mp hu)
  rw [List.map_append, List.map_replicate, List.find?_append, hskip, Option.none_or,
    List.map_cons, List.find?_cons, hfirst]
  exact isBlankText_ofList u

/-- The body of tidied text is a single empty line, or paragraphs, with an empty line before and
behind them where blank lines open and close the text. -/
theorem exists_paragraphs (h : isBlankText s = false) :
    ∃ ps, Paragraphs ps ∧ bodyLines (tidied s)
      = emptyLine (opensBlank s) ++ ps ++ emptyLine (closesBlank s) := by
  obtain ⟨m, n, hcut⟩ := exists_cut_stripNewlines s.toList
  obtain ⟨⟨u, r, hfirst, hu⟩, front, v, hlast, hv⟩ := exists_ends_cut h
  have hopens : opensBlank s = decide (trimEnd u = []) := by
    rw [opensBlank, h, pieces, hcut, hfirst, List.append_assoc, List.cons_append,
      any_find?_replicate_append hu]
    rfl
  have hcloses : closesBlank s = decide (trimEnd v = []) := by
    rw [closesBlank, h, pieces, ← List.map_reverse, hcut, hlast, List.reverse_append,
      List.reverse_append, List.reverse_concat, List.reverse_replicate, List.cons_append,
      any_find?_replicate_append hv]
    rfl
  have hfull : ∀ l ∈ (cut '\n' (stripNewlines s.toList)).map trimEnd,
      l ≠ [] → IsFull (String.ofList l) := by
    intro _ hl hne
    obtain ⟨l, hmem, rfl⟩ := List.mem_map.mp hl
    exact isFull_trimEnd (notMem_of_mem_cut hmem) hne
  have hsome : ∃ l ∈ (cut '\n' (stripNewlines s.toList)).map trimEnd, l ≠ [] := by
    obtain ⟨l, hl, hne⟩ := isBlankText_eq_false_iff.mp h
    exact ⟨_, List.mem_map_of_mem hl, hne⟩
  have hhead : ((cut '\n' (stripNewlines s.toList)).map trimEnd).head? = some (trimEnd u) := by
    rw [hfirst, List.map_cons, List.head?_cons]
  have hend : ((cut '\n' (stripNewlines s.toList)).map trimEnd).getLast? = some (trimEnd v) := by
    rw [hlast, List.map_append, List.map_singleton, List.getLast?_concat]
  obtain ⟨ps, hps, hbody⟩ := exists_collapse hfull hsome false
  refine ⟨ps, hps, ?_⟩
  rw [bodyLines_tidied, tidyLines, hbody, hopens, hcloses, hhead, hend]
  simp only [Bool.not_false, Bool.true_and, Option.some.injEq]

/-! ### Tidying what is tidied -/

theorem stripNewlines_surrounded (m n : Nat) (t : List Char) :
    stripNewlines (List.replicate m '\n' ++ t ++ List.replicate n '\n') = stripNewlines t := by
  have hends (k : Nat) : ∀ c ∈ List.replicate k '\n', decide (c = '\n') = true :=
    fun c hc => decide_eq_true (List.eq_of_mem_replicate hc)
  -- Where nothing but line ends is left, those behind the text go with the ones before it.
  obtain ⟨k, hk⟩ : ∃ k, (t ++ List.replicate n '\n').dropWhile (· = '\n')
      = t.dropWhile (· = '\n') ++ List.replicate k '\n' := by
    rw [List.dropWhile_append]
    split_ifs with hempty
    · rw [List.isEmpty_iff.mp hempty, List.dropWhile_eq_nil_iff.mpr (hends n)]
      exact ⟨0, rfl⟩
    · exact ⟨n, rfl⟩
  rw [List.append_assoc, stripNewlines, stripNewlines, List.dropWhile_append_of_pos (hends m), hk,
    List.reverse_append, List.reverse_replicate, List.dropWhile_append_of_pos (hends k)]

theorem lined_emptyLine (there : Bool) :
    lined (emptyLine there) = if there then "\n" else "" := by
  cases there <;> rfl

theorem toList_lined_emptyLine (there : Bool) :
    (lined (emptyLine there)).toList = List.replicate there.toNat '\n' := by
  cases there <;> rfl

/-- Tidying takes empty lines around paragraphs away. -/
theorem tidied_lined_surrounded (h : Paragraphs ls) (opens closes : Bool) :
    tidied (lined (emptyLine opens ++ ls ++ emptyLine closes)) = lined ls := by
  rw [tidied, tidy, lined_append, lined_append, String.toList_append, String.toList_append,
    toList_lined_emptyLine, toList_lined_emptyLine, stripNewlines_surrounded]
  exact tidied_lined h

theorem tidied_of_blank (h : isBlankText s = true) : tidied s = "\n" := by
  have hempty : ∀ l ∈ (cut '\n' (stripNewlines s.toList)).map trimEnd, l = [] := by
    intro _ hl
    obtain ⟨l, hmem, rfl⟩ := List.mem_map.mp hl
    exact not_not.mp fun hne =>
      Bool.false_ne_true ((isBlankText_eq_false_iff.mpr ⟨l, hmem, hne⟩).symm.trans h)
  have hne : (cut '\n' (stripNewlines s.toList)).map trimEnd ≠ [] :=
    mt List.map_eq_nil_iff.mp (cut_ne_nil _ _)
  have hbody : bodyLines (tidied s) = [""] := by
    rw [bodyLines_tidied, tidyLines, collapse_of_empty hempty,
      List.getLast?_eq_some_getLast hne, hempty _ (List.getLast_mem hne)]
    rfl
  rw [← lined_bodyLines_tidied, hbody]
  rfl

theorem endsOnce_append_iff {t : String} :
    EndsOnce (t ++ "\n") ↔ t.toList.getLast? ≠ some '\n' := by
  simp [EndsOnce]

/-- Paragraphs end with one line end, and an empty line behind them adds another one. -/
theorem endsOnce_lined_iff (h : Paragraphs ls) (before : String) (closes : Bool) :
    EndsOnce (before ++ lined ls ++ lined (emptyLine closes)) ↔ closes = false := by
  obtain ⟨front, l, rfl, hline, c, hc, hblank⟩ := h.full_last
  rw [lined_append, lined_cons, lined_nil, String.append_empty, ← String.append_assoc,
    ← String.append_assoc, lined_emptyLine]
  cases closes with
  | true =>
    rw [if_pos rfl, endsOnce_append_iff]
    simp
  | false =>
    rw [if_neg Bool.false_ne_true, String.append_empty, endsOnce_append_iff, String.toList_append,
      List.getLast?_append, Option.mem_def.mp hc, Option.some_or, ne_eq, Option.some.injEq]
    refine iff_of_true ?_ rfl
    rintro rfl
    cases hblank

/-- Empty lines around a text make it longer. -/
theorem eq_surrounded_iff (opens closes : Bool) (t : String) :
    t = lined (emptyLine opens) ++ t ++ lined (emptyLine closes)
      ↔ opens = false ∧ closes = false := by
  constructor
  · intro h
    have hlength := congrArg (·.toList.length) h
    simp only [String.toList_append, toList_lined_emptyLine, List.length_append,
      List.length_replicate] at hlength
    exact ⟨Bool.toNat_eq_zero.mp (by omega), Bool.toNat_eq_zero.mp (by omega)⟩
  · rintro ⟨rfl, rfl⟩
    simp [emptyLine]

/-- Tidied text ends with one line end, and is what tidying it again gives, just if no blank lines
close or open the text.  Tidying twice takes away the one line end too many that such lines leave;
after that nothing changes any more. -/
theorem tidied_settles (s : String) :
    (EndsOnce (tidied s) ↔ closesBlank s = false)
      ∧ (tidied (tidied s) = tidied s ↔ opensBlank s = false ∧ closesBlank s = false)
      ∧ tidied s = (if opensBlank s then "\n" else "") ++ tidied (tidied s)
        ++ (if closesBlank s then "\n" else "")
      ∧ EndsOnce (tidied (tidied s))
      ∧ tidied (tidied (tidied s)) = tidied (tidied s) := by
  cases hblank : isBlankText s with
  | true =>
    have hopens : opensBlank s = false := by rw [opensBlank, hblank]; rfl
    have hcloses : closesBlank s = false := by rw [closesBlank, hblank]; rfl
    have htwice : tidied "\n" = "\n" := tidied_of_blank (by decide)
    have honce : EndsOnce "\n" := by decide
    rw [tidied_of_blank hblank, hopens, hcloses, htwice, htwice]
    exact ⟨iff_of_true honce rfl, iff_of_true rfl ⟨rfl, rfl⟩, by decide, honce, rfl⟩
  | false =>
    obtain ⟨ps, hps, hbody⟩ := exists_paragraphs hblank
    have htidied : tidied s
        = lined (emptyLine (opensBlank s) ++ ps ++ emptyLine (closesBlank s)) := by
      rw [← hbody, lined_bodyLines_tidied]
    have htwice : tidied (tidied s) = lined ps := by rw [htidied, tidied_lined_surrounded hps]
    rw [lined_append, lined_append] at htidied
    rw [htwice, htidied, ← lined_emptyLine, ← lined_emptyLine]
    refine ⟨endsOnce_lined_iff hps _ _, eq_surrounded_iff _ _ _, rfl, ?_, tidied_lined hps⟩
    simpa [emptyLine] using (endsOnce_lined_iff hps "" false).mpr rfl

/-- Blanks behind the last line end are stripped only when the text is tidied again. -/
theorem tidied_not_settled :
    tidied "a\n  " = "a\n\n" ∧ ¬EndsOnce (tidied "a\n  ") ∧ tidied (tidied "a\n  ") = "a\n" := by
  decide

end EntityMapping.Text
