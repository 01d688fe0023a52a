import EntityMapping.Manifest.TypeReference
import EntityMapping.Proofs.Text.Pieces
import EntityMapping.Proofs.Text.Trimming

/-!
# Components of type arguments

A comma is an outer one if as many angle brackets are closed as are opened in the text before it.
The components of a text are what stands between its outer commas, and there is one way to cut a
text into them (`components_iff`): where a component ends, no bracket is open, so the brackets can
be counted anew.  The first type argument is the first component that is not blank
(`head?_splitArguments_eq_some_iff`).

## Main definitions

* `IsLevel` — as many angle brackets are closed as are opened in a text.
* `Leads` — a text is what the first components are joined to.
* `Components` — the components of a text.
* `openBrackets` — how many more brackets are opened than closed.
* `NoOuter` — a text has no comma at which no bracket is open.
* `IsFirstArgument` — a text is the first component that is not blank, trimmed.
-/

namespace EntityMapping.Manifest

open Text

/-! ### Components -/

/-- As many angle brackets are closed as are opened in a text. -/
def IsLevel (s : List Char) : Prop := s.count '<' = s.count '>'

/-- A text is what some of the first components, but not all, are joined to. -/
def Leads (before : List Char) (ps : List (List Char)) : Prop :=
  ∃ qs rs, qs ≠ [] ∧ rs ≠ [] ∧ ps = qs ++ rs ∧ before = joined [','] qs

/-- Texts are the components of a text: they are joined to it by commas, and these commas are just
those with a level text before them. -/
structure Components (s : List Char) (ps : List (List Char)) : Prop where
  /-- There is at least one. -/
  ne_nil : ps ≠ []
  /-- The text is what they are joined to. -/
  joined_eq : joined [','] ps = s
  /-- A comma stands between two of them just if the text before it is level. -/
  outer_iff : ∀ before after, s = before ++ ',' :: after → (IsLevel before ↔ Leads before ps)

variable {s p r before after : List Char} {ps : List (List Char)} {d : Int} {c : Char}

theorem not_leads_singleton : ¬Leads before [p] := by
  rintro ⟨qs, rs, hqs, hrs, h, -⟩
  have hlength := congrArg List.length h
  have hqs' := List.length_pos_iff.mpr hqs
  have hrs' := List.length_pos_iff.mpr hrs
  rw [List.length_append, List.length_singleton] at hlength
  omega

/-- What the first components are joined to is the first one, or goes on behind it. -/
theorem leads_cons_iff (hps : ps ≠ []) :
    Leads before (p :: ps)
      ↔ before = p ∨ ∃ rest, before = p ++ ',' :: rest ∧ Leads rest ps := by
  constructor
  · rintro ⟨_ | ⟨q, qs⟩, rs, hqs, hrs, h, rfl⟩
    · exact absurd rfl hqs
    · obtain ⟨rfl, rfl⟩ := List.cons.inj h
      by_cases hempty : qs = []
      · exact Or.inl (by rw [hempty, joined])
      · refine Or.inr ⟨joined [','] qs, ?_, qs, rs, hempty, hrs, rfl, rfl⟩
        rw [joined_cons _ _ hempty, List.append_assoc, List.singleton_append]
  · rintro (rfl | ⟨_, rfl, qs, rs, hqs, hrs, rfl, rfl⟩)
    · exact ⟨[before], ps, List.cons_ne_nil _ [], hps, rfl, rfl⟩
    · refine ⟨p :: qs, rs, List.cons_ne_nil _ _, hrs, rfl, ?_⟩
      rw [joined_cons _ _ hqs, List.append_assoc, List.singleton_append]

/-! ### Counting brackets -/

/-- How many more angle brackets are opened than closed in a text. -/
def openBrackets : List Char → Int
  | [] => 0
  | c :: s => bracketStep c + openBrackets s

@[simp] theorem openBrackets_nil : openBrackets [] = 0 := rfl

@[simp] theorem openBrackets_cons (c : Char) (s : List Char) :
    openBrackets (c :: s) = bracketStep c + openBrackets s := rfl

@[simp] theorem openBrackets_append (s t : List Char) :
    openBrackets (s ++ t) = openBrackets s + openBrackets t := by
  induction s with
  | nil => rw [List.nil_append, openBrackets_nil, Int.zero_add]
  | cons c r ih => rw [List.cons_append, openBrackets_cons, openBrackets_cons, ih, Int.add_assoc]

theorem openBrackets_eq (s : List Char) : openBrackets s = s.count '<' - s.count '>' := by
  induction s with
  | nil => rfl
  | cons c r ih =>
    rw [openBrackets_cons, ih]
    by_cases hopen : c = '<'
    · subst hopen
      have hstep : bracketStep '<' = 1 := rfl
      rw [hstep, List.count_cons_self, List.count_cons_of_ne (by decide)]
      omega
    · by_cases hclose : c = '>'
      · subst hclose
        have hstep : bracketStep '>' = -1 := rfl
        rw [hstep, List.count_cons_self, List.count_cons_of_ne (by decide)]
        omega
      · have hstep : bracketStep c = 0 := by rw [bracketStep, if_neg hopen, if_neg hclose]
        rw [hstep, List.count_cons_of_ne hopen, List.count_cons_of_ne hclose, Int.zero_add]

theorem isLevel_iff : IsLevel s ↔ openBrackets s = 0 := by
  rw [IsLevel, openBrackets_eq]
  omega

/-- Behind a level text and a comma the brackets are counted anew. -/
theorem IsLevel.append_cons_iff (hp : IsLevel p) : IsLevel (p ++ ',' :: s) ↔ IsLevel s := by
  have hcomma : bracketStep ',' = 0 := rfl
  rw [isLevel_iff, isLevel_iff, openBrackets_append, isLevel_iff.mp hp, openBrackets_cons, hcomma,
    Int.zero_add, Int.zero_add]

/-- Where so many brackets are open before a text, it has no comma at which none is. -/
def NoOuter (d : Int) (s : List Char) : Prop :=
  ∀ before after, s = before ++ ',' :: after → d + openBrackets before ≠ 0

theorem noOuter_nil (d : Int) : NoOuter d [] := fun before after h =>
  absurd h.symm (List.append_ne_nil_of_right_ne_nil before (List.cons_ne_nil ',' after))

theorem noOuter_cons_iff :
    NoOuter d (c :: s) ↔ ¬(c = ',' ∧ d + bracketStep c = 0) ∧ NoOuter (d + bracketStep c) s := by
  have hcomma : bracketStep ',' = 0 := rfl
  constructor
  · intro h
    refine ⟨?_, fun before after hs => ?_⟩
    · rintro ⟨rfl, hd⟩
      refine h [] s rfl ?_
      rwa [openBrackets_nil, ← hcomma]
    · have hne := h (c :: before) after (by rw [hs, List.cons_append])
      rwa [openBrackets_cons, ← Int.add_assoc] at hne
  · rintro ⟨hc, hs⟩ before after h
    cases before with
    | nil =>
      obtain ⟨rfl, -⟩ := List.cons.inj h
      rw [openBrackets_nil, ← hcomma]
      exact fun hd => hc ⟨rfl, hd⟩
    | cons b before =>
      obtain ⟨rfl, rfl⟩ := List.cons.inj h
      rw [openBrackets_cons, ← Int.add_assoc]
      exact hs before after rfl

/-! ### Cutting -/

/-- A text without outer commas is put before the first piece of what follows. -/
theorem cutTop_append (hp : NoOuter d p) {q : List Char} {qs : List (List Char)}
    (hr : cutTop (d + openBrackets p) r = q :: qs) : cutTop d (p ++ r) = (p ++ q) :: qs := by
  induction p generalizing d with
  | nil => simpa using hr
  | cons c p ih =>
    obtain ⟨hc, hp⟩ := noOuter_cons_iff.mp hp
    rw [openBrackets_cons, ← Int.add_assoc] at hr
    rw [List.cons_append, cutTop, if_neg hc, ih hp hr]
    rfl

theorem cutTop_of_noOuter (hp : NoOuter d p) : cutTop d p = [p] := by
  have hcut := cutTop_append hp (r := []) rfl
  rwa [List.append_nil] at hcut

/-- The comma behind a text without outer commas ends the first piece if no bracket is open. -/
theorem cutTop_append_cons (hp : NoOuter d p) (hd : d + openBrackets p = 0) (r : List Char) :
    cutTop d (p ++ ',' :: r) = p :: cutTop 0 r := by
  have hcomma : cutTop (d + openBrackets p) (',' :: r) = [] :: cutTop 0 r := by
    rw [hd]
    rfl
  rw [cutTop_append hp hcomma, List.append_nil]

/-- A text has no outer comma, or there is a first one. -/
theorem noOuter_or_exists (d : Int) (s : List Char) :
    NoOuter d s ∨ ∃ p r, s = p ++ ',' :: r ∧ NoOuter d p ∧ d + openBrackets p = 0 := by
  induction s generalizing d with
  | nil => exact Or.inl (noOuter_nil d)
  | cons c s ih =>
    by_cases hc : c = ',' ∧ d + bracketStep c = 0
    · obtain ⟨rfl, hd⟩ := hc
      exact Or.inr ⟨[], s, rfl, noOuter_nil d, hd⟩
    · rcases ih (d + bracketStep c) with hs | ⟨p, r, rfl, hp, hd⟩
      · exact Or.inl (noOuter_cons_iff.mpr ⟨hc, hs⟩)
      · refine Or.inr ⟨c :: p, r, rfl, noOuter_cons_iff.mpr ⟨hc, hp⟩, ?_⟩
        rwa [openBrackets_cons, ← Int.add_assoc]

/-! ### Cutting gives the components -/

theorem noOuter_zero_iff :
    NoOuter 0 p ↔ ∀ before after, p = before ++ ',' :: after → ¬IsLevel before := by
  simp only [NoOuter, Int.zero_add, isLevel_iff, ne_eq]

theorem Components.single (hp : NoOuter 0 p) : Components p [p] where
  ne_nil := List.cons_ne_nil p []
  joined_eq := rfl
  outer_iff before after h :=
    iff_of_false (noOuter_zero_iff.mp hp before after h) not_leads_singleton

theorem Components.cons (hp : NoOuter 0 p) (hlevel : IsLevel p) (h : Components r ps) :
    Components (p ++ ',' :: r) (p :: ps) where
  ne_nil := List.cons_ne_nil p ps
  joined_eq := by
    rw [joined_cons _ _ h.ne_nil, h.joined_eq, List.append_assoc, List.singleton_append]
  outer_iff before after hs := by
    rw [leads_cons_iff h.ne_nil]
    rcases List.append_eq_append_iff.mp hs with ⟨_ | ⟨c, rest⟩, rfl, hr⟩ | ⟨_ | ⟨c, rest⟩, rfl, hr⟩
    · -- The comma ends the first component.
      rw [List.append_nil]
      exact iff_of_true hlevel (Or.inl rfl)
    · -- The comma stands behind the first component and its comma.
      obtain ⟨rfl, rfl⟩ := List.cons.inj hr
      rw [hlevel.append_cons_iff, h.outer_iff rest after rfl]
      constructor
      · exact fun hleads => Or.inr ⟨rest, rfl, hleads⟩
      · rintro (hsame | ⟨rest', hrest, hleads⟩)
        · exact absurd hsame (by simp)
        · obtain ⟨-, rfl⟩ := List.cons.inj (List.append_cancel_left hrest)
          exact hleads
    · rw [List.append_nil] at hlevel
      exact iff_of_true hlevel (Or.inl (List.append_nil before).symm)
    · -- The comma stands in the first component, so it is no outer one.
      obtain ⟨rfl, -⟩ := List.cons.inj hr
      refine iff_of_false (noOuter_zero_iff.mp hp before rest rfl) ?_
      rintro (hsame | ⟨rest', hrest, -⟩)
      · exact absurd hsame (by simp)
      · have hlength := congrArg List.length hrest
        simp only [List.length_append, List.length_cons] at hlength
        omega

theorem components_cutTop (s : List Char) : Components s (cutTop 0 s) := by
  induction hn : s.length using Nat.strong_induction_on generalizing s with
  | _ n ih =>
    rcases noOuter_or_exists 0 s with hs | ⟨p, r, rfl, hp, hd⟩
    · rw [cutTop_of_noOuter hs]
      exact .single hs
    · rw [cutTop_append_cons hp hd]
      rw [Int.zero_add] at hd
      refine .cons hp (isLevel_iff.mpr hd) (ih r.length ?_ r rfl)
      rw [← hn, List.length_append, List.length_cons]
      omega

/-- The first component is level and has no outer comma, and the others are the components of what
follows it. -/
theorem Components.of_cons (hps : ps ≠ []) (h : Components s (p :: ps)) :
    s = p ++ ',' :: joined [','] ps ∧ NoOuter 0 p ∧ IsLevel p
      ∧ Components (joined [','] ps) ps := by
  have hs : s = p ++ ',' :: joined [','] ps := by
    rw [← h.joined_eq, joined_cons _ _ hps, List.append_assoc, List.singleton_append]
  have hlevel : IsLevel p :=
    (h.outer_iff p _ hs).mpr ((leads_cons_iff hps).mpr (Or.inl rfl))
  refine ⟨hs, noOuter_zero_iff.mpr fun before after hp hbefore => ?_, hlevel, hps, rfl,
    fun before after hrest => ?_⟩
  · have hcomma : s = before ++ ',' :: (after ++ ',' :: joined [','] ps) := by
      rw [hs, hp, List.append_assoc, List.cons_append]
    have hlength := congrArg List.length hp
    simp only [List.length_append, List.length_cons] at hlength
    rcases (leads_cons_iff hps).mp ((h.outer_iff _ _ hcomma).mp hbefore) with rfl | ⟨rest, rfl, -⟩
    · omega
    · simp only [List.length_append, List.length_cons] at hlength
      omega
  · have hcomma : s = (p ++ ',' :: before) ++ ',' :: after := by
      rw [hs, hrest, List.append_assoc, List.cons_append]
    rw [← hlevel.append_cons_iff, h.outer_iff _ _ hcomma, leads_cons_iff hps]
    constructor
    · rintro (hsame | ⟨rest, hsame, hleads⟩)
      · exact absurd hsame (by simp)
      · obtain ⟨-, rfl⟩ := List.cons.inj (List.append_cancel_left hsame)
        exact hleads
    · exact fun hleads => Or.inr ⟨before, rfl, hleads⟩

/-- The components of a text are the pieces that it is cut into. -/
theorem components_iff : Components s ps ↔ cutTop 0 s = ps := by
  constructor
  · intro h
    induction ps generalizing s with
    | nil => exact absurd rfl h.ne_nil
    | cons p ps ih =>
      by_cases hps : ps = []
      · subst hps
        obtain rfl : p = s := h.joined_eq
        exact cutTop_of_noOuter (noOuter_zero_iff.mpr fun before after hp hlevel =>
          not_leads_singleton ((h.outer_iff before after hp).mp hlevel))
      · obtain ⟨rfl, hp, hlevel, hrest⟩ := h.of_cons hps
        rw [cutTop_append_cons hp (by rw [Int.zero_add, isLevel_iff.mp hlevel]), ih hrest]
  · rintro rfl
    exact components_cutTop s

/-! ### The first argument -/

/-- A text is the first component that is not blank, without the blanks around it. -/
def IsFirstArgument (s t : List Char) : Prop :=
  ∃ before p after, Components s (before ++ p :: after) ∧ (∀ q ∈ before, q.all isBlank = true)
    ∧ t ≠ [] ∧ Trims p t

theorem head?_splitArguments_eq_some_iff {t : List Char} :
    (splitArguments s).head? = some t ↔ IsFirstArgument s t := by
  rw [splitArguments, List.head?_filter, List.find?_eq_some_iff_append]
  simp only [IsFirstArgument, components_iff, ← trim_eq_iff, List.map_eq_append_iff,
    List.map_eq_cons_iff, decide_eq_true_iff, Bool.not_eq_true', decide_eq_false_iff_not, not_not]
  constructor
  · rintro ⟨ht, _, _, ⟨before, _, hcut, rfl, p, after, rfl, rfl, rfl⟩, hblank⟩
    refine ⟨before, p, after, hcut, fun q hq => ?_, ht, rfl⟩
    exact trim_eq_nil_iff.mp (hblank _ (List.mem_map_of_mem hq))
  · rintro ⟨before, p, after, hcut, hblank, ht, rfl⟩
    refine ⟨ht, _, _, ⟨before, _, hcut, rfl, p, after, rfl, rfl, rfl⟩, fun u hu => ?_⟩
    obtain ⟨q, hq, rfl⟩ := List.mem_map.mp hu
    exact trim_of_blank (hblank q hq)

end EntityMapping.Manifest
