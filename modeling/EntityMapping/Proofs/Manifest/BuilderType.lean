import EntityMapping.Proofs.Manifest.TypeArguments
import EntityMapping.Proofs.Text.Word

/-!
# References to builder types

A reference to a generic type has a name, a text in angle brackets and blanks around both; it can be
cut so in one way only (`genericParts?_eq_some_iff`), as neither blanks nor brackets are characters
of a name and the last bracket is the last character that is not blank.  A reference names an entity
if what follows the last point of its name begins with the name of the builder type and its text in
brackets has a first argument (`builderTypeArgument_eq_iff`).

## Main definitions

* `IsGeneric` — a text is a reference to a generic type.
* `HasArgument` — a reference to a builder type has a first argument.
-/

namespace EntityMapping.Manifest

open Text

/-- A text is a reference to a generic type with a name and a text in angle brackets. -/
def IsGeneric (s name args : List Char) : Prop :=
  ∃ w₁ w₂ w₃, s = w₁ ++ (name ++ (w₂ ++ '<' :: (args ++ '>' :: w₃)))
    ∧ w₁.all isBlank = true ∧ w₂.all isBlank = true ∧ w₃.all isBlank = true
    ∧ name ≠ [] ∧ (∀ c ∈ name, isWordChar c = true ∨ c = '.') ∧ '\n' ∉ args

/-- A reference to a type whose short name begins with the name of the builder type has a first
argument. -/
def HasArgument (typeName builder argument : String) : Prop :=
  ∃ name args short, IsGeneric typeName.toList name args
    ∧ '.' ∉ short ∧ (name = short ∨ ∃ path, name = path ++ '.' :: short)
    ∧ builder.toList <+: short ∧ IsFirstArgument args argument.toList

variable {s name args : List Char} {c : Char}

theorem isTypeNameChar_iff : isTypeNameChar c = true ↔ isWordChar c = true ∨ c = '.' := by
  rw [isTypeNameChar, Bool.or_eq_true, decide_eq_true_iff]

theorem isTypeNameChar_of_isBlank (h : isBlank c = true) : isTypeNameChar c = false := by
  rw [isTypeNameChar, isWordChar_of_isBlank h, Bool.false_or, decide_eq_false_iff_not]
  rintro rfl
  revert h
  decide

theorem isTypeNameChar_less : isTypeNameChar '<' = false := by
  rw [isTypeNameChar, isWordChar_less]
  rfl

theorem isBlank_of_isTypeNameChar (h : isTypeNameChar c = true) : isBlank c = false := by
  rw [Bool.eq_false_iff]
  intro hblank
  rw [isTypeNameChar_of_isBlank hblank] at h
  cases h

/-- No character of a name follows one, if blanks and a bracket do. -/
theorem takeWhile_isTypeNameChar (hname : ∀ c ∈ name, isTypeNameChar c = true) {w : List Char}
    (hw : w.all isBlank = true) (r : List Char) :
    (name ++ (w ++ '<' :: r)).takeWhile isTypeNameChar = name
      ∧ (name ++ (w ++ '<' :: r)).dropWhile isTypeNameChar = w ++ '<' :: r := by
  have hnone : (w ++ '<' :: r).takeWhile isTypeNameChar = []
      ∧ (w ++ '<' :: r).dropWhile isTypeNameChar = w ++ '<' :: r := by
    cases w with
    | nil => simp [isTypeNameChar_less]
    | cons c w =>
      have hc := isTypeNameChar_of_isBlank (List.all_eq_true.mp hw c List.mem_cons_self)
      simp [hc]
  rw [List.takeWhile_append_of_pos hname, List.dropWhile_append_of_pos hname, hnone.1, hnone.2,
    List.append_nil]
  exact ⟨rfl, rfl⟩

theorem isGeneric_of_genericParts? (h : genericParts? s = some (name, args)) :
    IsGeneric s name args := by
  obtain ⟨w₁, hs, hw₁, -⟩ := exists_trimStart s
  unfold genericParts? at h
  dsimp only at h
  split_ifs at h with hname
  split at h
  · rename_i r hrest
    split at h
    · rename_i inner hinner
      split_ifs at h with hline
      obtain ⟨rfl, rfl⟩ := Prod.mk.inj (Option.some.inj h)
      obtain ⟨w₂, hdrop, hw₂, -⟩ :=
        exists_trimStart ((trimStart s).dropWhile isTypeNameChar)
      obtain ⟨w₃, hr, hw₃, -⟩ := exists_trimEnd r
      have hargs : r = inner.reverse ++ '>' :: w₃ := by
        rw [hr, ← (trimEnd r).reverse_reverse, hinner, List.reverse_cons, List.append_assoc,
          List.singleton_append]
      refine ⟨w₁, w₂, w₃, ?_, hw₁, hw₂, hw₃, hname, fun c hc => ?_, ?_⟩
      · rw [← hargs, ← hrest, ← hdrop, List.takeWhile_append_dropWhile, ← hs]
      · exact isTypeNameChar_iff.mp (List.mem_takeWhile_imp hc)
      · exact fun hmem => hline (List.mem_reverse.mp hmem)
    · cases h
  · cases h

theorem IsGeneric.genericParts? (h : IsGeneric s name args) :
    genericParts? s = some (name, args) := by
  obtain ⟨w₁, w₂, w₃, rfl, hw₁, hw₂, hw₃, hne, hname, hline⟩ := h
  have hchars : ∀ c ∈ name, isTypeNameChar c = true := fun c hc =>
    isTypeNameChar_iff.mpr (hname c hc)
  obtain ⟨htake, hdrop⟩ := takeWhile_isTypeNameChar hchars hw₂ (args ++ '>' :: w₃)
  have hstart : trimStart (w₁ ++ (name ++ (w₂ ++ '<' :: (args ++ '>' :: w₃))))
      = name ++ (w₂ ++ '<' :: (args ++ '>' :: w₃)) := by
    refine trimStart_append hw₁ fun c hc => ?_
    rw [List.head?_append_of_ne_nil _ hne] at hc
    exact isBlank_of_isTypeNameChar (hchars c (List.mem_of_head? hc))
  have hless : trimStart (w₂ ++ '<' :: (args ++ '>' :: w₃)) = '<' :: (args ++ '>' :: w₃) :=
    trimStart_append hw₂ fun c hc => by
      obtain rfl := Option.some.inj hc
      rfl
  have hgreater : trimEnd (args ++ '>' :: w₃) = args ++ ['>'] := by
    rw [← List.singleton_append, ← List.append_assoc]
    refine trimEnd_append_blank hw₃ fun c hc => ?_
    rw [List.getLast?_concat] at hc
    obtain rfl := Option.some.inj hc
    rfl
  rw [Manifest.genericParts?, hstart, htake, if_neg hne, hdrop, hless]
  simp only [hgreater, List.reverse_concat]
  rw [if_neg (fun hmem => hline (List.mem_reverse.mp hmem)), List.reverse_reverse]

/-- A reference to a generic type is cut into its parts in the only way. -/
theorem genericParts?_eq_some_iff : genericParts? s = some (name, args) ↔ IsGeneric s name args :=
  ⟨isGeneric_of_genericParts?, IsGeneric.genericParts?⟩

theorem builderArgument?_eq_some_iff {builder argument : List Char} :
    builderArgument? s builder = some argument
      ↔ ∃ name args, IsGeneric s name args ∧ builder <+: afterLast '.' name
        ∧ IsFirstArgument args argument := by
  simp only [← genericParts?_eq_some_iff, ← head?_splitArguments_eq_some_iff]
  unfold builderArgument?
  cases genericParts? s with
  | none => simp
  | some parts =>
    obtain ⟨name, args⟩ := parts
    dsimp only
    constructor
    · intro h
      split_ifs at h with hprefix
      exact ⟨name, args, rfl, List.isPrefixOf_iff_prefix.mp hprefix, h⟩
    · rintro ⟨name', args', hparts, hprefix, h⟩
      obtain ⟨rfl, rfl⟩ := Prod.mk.inj (Option.some.inj hparts)
      rwa [if_pos (List.isPrefixOf_iff_prefix.mpr hprefix)]

/-- A reference gives an argument just if it is one to a generic type, what follows the last point
of its name begins with the name of the builder type, and a component of its text in brackets is
not blank; then it gives the first such component without the blanks around it.  Every other
reference gives none. -/
theorem builderTypeArgument_eq_iff (typeName builder : String) :
    (∀ argument, builderTypeArgument typeName (.text builder) = .ok (some argument)
        ↔ HasArgument typeName builder argument)
      ∧ (builderTypeArgument typeName (.text builder) = .ok none
        ↔ ∀ argument, ¬HasArgument typeName builder argument) := by
  have hargument (argument : String) :
      builderArgument? typeName.toList builder.toList = some argument.toList
        ↔ HasArgument typeName builder argument := by
    rw [builderArgument?_eq_some_iff, HasArgument]
    refine exists_congr fun name => exists_congr fun args => ?_
    constructor
    · rintro ⟨hgeneric, hprefix, hfirst⟩
      obtain ⟨hpoint, hshort⟩ := afterLast_eq_iff.mp rfl
      exact ⟨_, hgeneric, hpoint, hshort, hprefix, hfirst⟩
    · rintro ⟨short, hgeneric, hpoint, hshort, hprefix, hfirst⟩
      obtain rfl := afterLast_eq_iff.mpr ⟨hpoint, hshort⟩
      exact ⟨hgeneric, hprefix, hfirst⟩
  simp only [← hargument, builderTypeArgument]
  cases builderArgument? typeName.toList builder.toList with
  | none => simp
  | some found =>
    constructor
    · intro argument
      rw [Option.map_some, Except.ok.injEq, Option.some.injEq, Option.some.injEq,
        ← String.toList_inj, String.toList_ofList]
    · refine iff_of_false (by simp) fun h => h (String.ofList found) ?_
      rw [String.toList_ofList]

/-- A bracket inside the first argument keeps its comma from ending it. -/
example : builderTypeArgument " Metadata.Builder <,Map<Key, Order> , User> " (.text "Build")
    = .ok (some "Map<Key, Order>") := by
  decide +kernel

end EntityMapping.Manifest
