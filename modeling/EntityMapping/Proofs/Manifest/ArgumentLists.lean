import EntityMapping.Proofs.Manifest.TypeArguments

/-!
# Lists of type arguments

Where no bracket is open at the end of any of some texts, and none of them has an outer comma, they
are the components of what they are joined to (`components_joined`).  Blanks bring neither brackets
nor commas, so they may stand around the commas, and trimming takes them away again: the arguments
of a reference are got back from the text they are listed in (`typeArguments_intercalate`).

## Main definitions

* `IsArgument` — what can be listed as an argument: a generic reference, nested to any depth.
-/

namespace EntityMapping.Manifest

open Text

/-- A text that can be listed as an argument.  Brackets may be nested, and each comma stands in some
of them. -/
structure IsArgument (s : List Char) : Prop where
  ne_nil : s ≠ []
  /-- As many angle brackets are closed as are opened. -/
  level : IsLevel s
  /-- Before a comma there are not. -/
  inner : ∀ before after, s = before ++ ',' :: after → ¬IsLevel before

variable {s t : List Char} {ps : List (List Char)} {d : Int}

instance (s : List Char) : Decidable (IsLevel s) :=
  inferInstanceAs (Decidable (s.count '<' = s.count '>'))

instance decidableNoOuter : (d : Int) → (s : List Char) → Decidable (NoOuter d s)
  | d, [] => isTrue (noOuter_nil d)
  | d, c :: s =>
    have := decidableNoOuter (d + bracketStep c) s
    decidable_of_iff (¬(c = ',' ∧ d + bracketStep c = 0) ∧ NoOuter (d + bracketStep c) s)
      noOuter_cons_iff.symm

theorem isArgument_iff : IsArgument s ↔ s ≠ [] ∧ IsLevel s ∧ NoOuter 0 s :=
  ⟨fun h => ⟨h.ne_nil, h.level, noOuter_zero_iff.mpr h.inner⟩,
    fun ⟨hne, hlevel, hinner⟩ => ⟨hne, hlevel, noOuter_zero_iff.mp hinner⟩⟩

instance (s : List Char) : Decidable (IsArgument s) := decidable_of_iff _ isArgument_iff.symm

/-! ### Blanks around an argument -/

theorem openBrackets_of_blank (h : s.all isBlank = true) : openBrackets s = 0 := by
  have hopen : '<' ∉ s := fun hmem => absurd (List.all_eq_true.mp h _ hmem) (by decide)
  have hclose : '>' ∉ s := fun hmem => absurd (List.all_eq_true.mp h _ hmem) (by decide)
  rw [openBrackets_eq, List.count_eq_zero_of_not_mem hopen, List.count_eq_zero_of_not_mem hclose]
  rfl

theorem noOuter_of_blank (d : Int) (h : s.all isBlank = true) : NoOuter d s := by
  rintro before after rfl
  have hcomma : isBlank ',' = true := List.all_eq_true.mp h _ (by simp)
  exact absurd hcomma (by decide)

/-- A comma in two texts one after the other is in one of them. -/
theorem NoOuter.append (hs : NoOuter d s) (ht : NoOuter (d + openBrackets s) t) :
    NoOuter d (s ++ t) := by
  intro before after h
  rcases List.append_eq_append_iff.mp h with ⟨rest, rfl, hrest⟩ | ⟨_ | ⟨c, rest⟩, rfl, hrest⟩
  · rw [openBrackets_append, ← Int.add_assoc]
    exact ht rest after hrest
  · rw [List.append_nil] at ht
    have hne := ht [] after hrest.symm
    rwa [openBrackets_nil, Int.add_zero] at hne
  · obtain ⟨rfl, -⟩ := List.cons.inj hrest
    exact hs before rest rfl

/-- The blanks around an argument change neither the brackets nor the commas. -/
theorem IsArgument.of_trim (h : IsArgument (trim s)) : IsLevel s ∧ NoOuter 0 s := by
  obtain ⟨⟨u, v, hs, hu, hv⟩, -⟩ := trim_eq_iff.mp (rfl : trim s = trim s)
  have hlevel : openBrackets (trim s) = 0 := isLevel_iff.mp h.level
  have hinner : NoOuter 0 (trim s) := noOuter_zero_iff.mpr h.inner
  have hopen := openBrackets_of_blank hu
  rw [hs]
  constructor
  · rw [isLevel_iff, openBrackets_append, openBrackets_append, hopen, hlevel,
      openBrackets_of_blank hv]
    rfl
  · refine ((noOuter_of_blank 0 hu).append ?_).append (noOuter_of_blank _ hv)
    rwa [hopen]

/-! ### The list -/

/-- The induction is on the texts: the comma behind a level one without outer commas is an outer
one. -/
theorem components_joined (hne : ps ≠ []) (h : ∀ p ∈ ps, IsLevel p ∧ NoOuter 0 p) :
    Components (joined [','] ps) ps := by
  induction ps with
  | nil => exact absurd rfl hne
  | cons p r ih =>
    obtain ⟨⟨hlevel, hinner⟩, hr⟩ := List.forall_mem_cons.mp h
    by_cases hempty : r = []
    · subst hempty
      exact .single hinner
    · rw [joined_cons _ _ hempty, List.append_assoc, List.singleton_append]
      exact .cons hinner hlevel (ih hempty hr)

theorem splitArguments_joined (h : ∀ p ∈ ps, IsArgument (trim p)) :
    splitArguments (joined [','] ps) = ps.map trim := by
  have hfilter : (ps.map trim).filter (· ≠ []) = ps.map trim := by
    refine List.filter_eq_self.mpr (List.forall_mem_map.mpr fun p hp => ?_)
    exact decide_eq_true (h p hp).ne_nil
  by_cases hempty : ps = []
  · subst hempty
    rfl
  · have hcut : cutTop 0 (joined [','] ps) = ps :=
      components_iff.mp (components_joined hempty fun p hp => (h p hp).of_trim)
    rw [splitArguments, hcut, hfilter]

theorem map_trim_of_forall₂ {pieces args : List String}
    (h : List.Forall₂ (fun p a => Trims p.toList a.toList) pieces args) :
    (pieces.map String.toList).map trim = args.map String.toList := by
  induction h with
  | nil => rfl
  | cons hp _ ih => rw [List.map_cons, List.map_cons, List.map_cons, trim_eq_iff.mpr hp, ih]

/-- The arguments of a reference are those that are listed in it: they are joined by commas, and
there may be blanks around each of them. -/
theorem typeArguments_intercalate {args pieces : List String}
    (hargs : ∀ a ∈ args, IsArgument a.toList)
    (hpieces : List.Forall₂ (fun p a => Trims p.toList a.toList) pieces args) :
    typeArguments (String.intercalate "," pieces) = args := by
  have htrim := map_trim_of_forall₂ hpieces
  have hall : ∀ p ∈ pieces.map String.toList, IsArgument (trim p) := by
    rw [← List.forall_mem_map, htrim]
    exact List.forall_mem_map.mpr hargs
  have hlist : (String.intercalate "," pieces).toList
      = joined [','] (pieces.map String.toList) := by
    rw [String.toList_intercalate, joined_eq_intercalate]
    rfl
  rw [typeArguments, hlist, splitArguments_joined hall, htrim, List.map_map]
  exact List.map_id'' (fun _ => String.ofList_toList) args

/-- Nested arguments with commas of their own, blanks on either side, and between them an argument
that is not generic. -/
theorem typeArguments_intercalate_nested :
    (∀ a ∈ ["Map<int, List<string>>", "Shop.User", "Pair<A,B>"], IsArgument a.toList)
      ∧ List.Forall₂ (fun p a => Trims p.toList a.toList)
        ["Map<int, List<string>> ", "\tShop.User", " Pair<A,B>\n"]
        ["Map<int, List<string>>", "Shop.User", "Pair<A,B>"]
      ∧ typeArguments (String.intercalate ","
          ["Map<int, List<string>> ", "\tShop.User", " Pair<A,B>\n"])
        = ["Map<int, List<string>>", "Shop.User", "Pair<A,B>"] := by
  have hargs : ∀ a ∈ ["Map<int, List<string>>", "Shop.User", "Pair<A,B>"],
      IsArgument a.toList := by decide
  have hpieces : List.Forall₂ (fun p a => Trims p.toList a.toList)
      ["Map<int, List<string>> ", "\tShop.User", " Pair<A,B>\n"]
      ["Map<int, List<string>>", "Shop.User", "Pair<A,B>"] :=
    .cons (trim_eq_iff.mp (by decide)) <| .cons (trim_eq_iff.mp (by decide)) <|
      .cons (trim_eq_iff.mp (by decide)) .nil
  exact ⟨hargs, hpieces, typeArguments_intercalate hargs hpieces⟩

end EntityMapping.Manifest
