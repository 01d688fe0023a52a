import EntityMapping.Proofs.Manifest.Places
import EntityMapping.Proofs.Text.Pieces

/-!
# Spellings of attribute names

A name of an attribute may be spelled with a namespace before it and with the ending `Attribute`.
All spellings of a name have one short name (`shortName_of_spells`), so attributes that differ in
that alone are alike but for the names of their annotations, and so are the manifests that hold them
(`manifestAlike_of_respelledTypes`, `manifestAlike_of_respelledDeclarations`).

## Main definitions

* `IsPlainName` — a name without a namespace, blanks around it or the ending.
* `Spells` — a spelling of a plain name.
* `RespelledAttribute` — an attribute with its plain name spelled in another way.
* `RespelledTypes`, `RespelledDeclarations` — manifests with attributes of properties, or of
  declarations, spelled in another way.
* `Annotation.unnamed` — an annotation without its name.
-/

namespace EntityMapping

/-- An annotation without its name. -/
def Annotation.unnamed (a : Annotation) : Annotation := { a with name := "" }

namespace Manifest

open Text

/-- A name that is not empty, has no dot in it and no blanks around it, and does not end in
`Attribute`. -/
structure IsPlainName (n : String) : Prop where
  ne_empty : n ≠ ""
  noDot : '.' ∉ n.toList
  trimmed : trimmed n = n
  noEnding : ¬attributeEnding <:+ n.toList

/-- A text is the empty one or ends in a dot. -/
def IsQualifier (p : String) : Prop := p = "" ∨ ∃ q, p = q ++ "."

/-- A text spells a plain name: after a qualifier it has the name, or the name and the ending. -/
inductive Spells (n : String) : String → Prop
  | qualified {p : String} (hp : IsQualifier p) : Spells n (p ++ n)
  | ended {p : String} (hp : IsQualifier p) : Spells n (p ++ n ++ "Attribute")

/-- An attribute whose plain name is spelled in another way, or which stays as it is. -/
inductive RespelledAttribute : Value → Value → Prop
  | same (v : Value) : RespelledAttribute v v
  | text {n s : String} (hn : IsPlainName n) (hs : Spells n s) :
      RespelledAttribute (.text n) (.text s)
  | object {fs : Fields} {n s : String} (hname : Fields.at? fs "name" = some (.text n))
      (hn : IsPlainName n) (hs : Spells n s) :
      RespelledAttribute (.object fs) (.object (Fields.set fs (.text "name") (.text s)))

/-- A manifest with attributes of properties spelled in another way. -/
def RespelledTypes : Value → Value → Prop :=
  Along Place.propertyAttribute.way RespelledAttribute

/-- A manifest with attributes of declarations spelled in another way. -/
def RespelledDeclarations : Value → Value → Prop :=
  Along Place.declarationAttribute.way RespelledAttribute

/-! ### Trimming -/

/-- A text without blanks at its ends. -/
def IsTrim (s : List Char) : Prop :=
  (∃ c r, s = c :: r ∧ isBlank c = false) ∧ ∃ r c, s = r ++ [c] ∧ isBlank c = false

theorem isTrim_of_trim_eq {s : List Char} (hne : s ≠ []) (h : trim s = s) : IsTrim s := by
  have hend (t : List Char) : (trimEnd t).length ≤ t.length := by
    rw [trimEnd, List.length_reverse, ← t.length_reverse]
    exact (List.dropWhile_sublist _).length_le
  -- Trimming would shorten the text if there were blanks at its start.
  have hstart : trimStart s = s := by
    refine (List.dropWhile_sublist _).eq_of_length_le ?_
    calc s.length = (trim s).length := by rw [h]
      _ ≤ (trimStart s).length := hend _
  rw [trim, hstart] at h
  constructor
  · obtain ⟨c, r, rfl⟩ := List.exists_cons_of_ne_nil hne
    have hc := List.dropWhile_eq_self_iff.mp hstart (Nat.succ_pos _)
    exact ⟨c, r, rfl, by simpa using hc⟩
  · obtain ⟨r, c, rfl⟩ : ∃ r c, s = r ++ [c] :=
      ⟨_, _, (List.dropLast_concat_getLast hne).symm⟩
    have hreverse : (r ++ [c]).reverse.dropWhile isBlank = (r ++ [c]).reverse := by
      rw [← List.reverse_inj, List.reverse_reverse]
      exact h
    rw [List.reverse_concat] at hreverse
    have hc := List.dropWhile_eq_self_iff.mp hreverse (Nat.succ_pos _)
    exact ⟨r, c, rfl, by simpa using hc⟩

theorem trimEnd_append {s : List Char} (h : IsTrim s) (t : List Char) :
    trimEnd (t ++ s) = t ++ s := by
  obtain ⟨-, r, c, rfl, hc⟩ := h
  rw [← List.append_assoc, trimEnd, List.reverse_concat,
    List.dropWhile_cons_of_neg (by rw [hc]; exact Bool.false_ne_true), ← List.reverse_concat,
    List.reverse_reverse]

/-- What follows the last dot, after trimming, of a text with a qualifier before it. -/
theorem afterLast_trim_append {p w : List Char} (hp : p = [] ∨ ∃ q, p = q ++ ['.']) (hw : IsTrim w)
    (hdot : '.' ∉ w) : afterLast '.' (trim (p ++ w)) = w := by
  rcases hp with rfl | ⟨q, rfl⟩
  · obtain ⟨⟨c, r, rfl, hc⟩, -⟩ := id hw
    have hstart : trimStart (c :: r) = c :: r :=
      List.dropWhile_cons_of_neg (by rw [hc]; exact Bool.false_ne_true)
    rw [List.nil_append, trim, hstart, ← List.nil_append (c :: r), trimEnd_append hw]
    exact afterLast_of_notMem hdot
  · -- The dot is not blank, so trimming at the start leaves it.
    obtain ⟨q', hq'⟩ : ∃ q', trimStart (q ++ ['.'] ++ w) = q' ++ '.' :: w := by
      rw [List.append_assoc, List.singleton_append, trimStart, List.dropWhile_append]
      split
      · exact ⟨[], rfl⟩
      · exact ⟨_, rfl⟩
    rw [trim, hq', ← List.singleton_append, ← List.append_assoc, trimEnd_append hw,
      List.append_assoc, List.singleton_append, afterLast_append_cons hdot]

/-! ### Short names -/

theorem IsPlainName.isTrim {n : String} (hn : IsPlainName n) : IsTrim n.toList := by
  refine isTrim_of_trim_eq (fun he => hn.ne_empty (by simpa using he)) ?_
  have htrim := congrArg String.toList hn.trimmed
  rwa [Text.trimmed, String.toList_ofList] at htrim

theorem IsPlainName.isTrim_ended {n : String} (hn : IsPlainName n) :
    IsTrim (n.toList ++ attributeEnding) := by
  obtain ⟨⟨c, r, hcons, hc⟩, -⟩ := hn.isTrim
  exact ⟨⟨c, r ++ attributeEnding, by rw [hcons, List.cons_append], hc⟩,
    n.toList ++ "Attribut".toList, 'e', by rw [List.append_assoc]; rfl, by decide⟩

theorem IsQualifier.toList_cases {p : String} (hp : IsQualifier p) :
    p.toList = [] ∨ ∃ q, p.toList = q ++ ['.'] := by
  rcases hp with rfl | ⟨q, rfl⟩
  · exact .inl rfl
  · exact .inr ⟨q.toList, by rw [String.toList_append]; rfl⟩

/-- Every spelling of a plain name has the name as its short name. -/
theorem shortName_of_spells {n s : String} (hn : IsPlainName n) (hs : Spells n s) :
    shortName s = n := by
  cases hs with
  | @qualified p hp =>
    have hlast : afterLast '.' (trim (p ++ n).toList) = n.toList := by
      rw [String.toList_append]
      exact afterLast_trim_append hp.toList_cases hn.isTrim hn.noDot
    have hending : ¬(attributeEnding.isSuffixOf n.toList ∧ n.toList ≠ attributeEnding) :=
      fun h => hn.noEnding (List.isSuffixOf_iff_suffix.mp h.1)
    rw [shortName, shortChars, hlast, if_neg hending, String.ofList_toList]
  | @ended p hp =>
    have hdot : '.' ∉ n.toList ++ attributeEnding := by
      rw [List.mem_append]
      exact not_or.mpr ⟨hn.noDot, by decide⟩
    have hlast : afterLast '.' (trim (p ++ n ++ "Attribute").toList)
        = n.toList ++ attributeEnding := by
      rw [String.toList_append, String.toList_append, List.append_assoc]
      exact afterLast_trim_append hp.toList_cases hn.isTrim_ended hdot
    have hending : attributeEnding.isSuffixOf (n.toList ++ attributeEnding)
        ∧ n.toList ++ attributeEnding ≠ attributeEnding := by
      refine ⟨List.isSuffixOf_iff_suffix.mpr (List.suffix_append _ _), fun he => hn.ne_empty ?_⟩
      simpa using he
    rw [shortName, shortChars, hlast, if_pos hending, List.length_append, Nat.add_sub_cancel,
      List.take_left, String.ofList_toList]

theorem IsPlainName.shortName {n : String} (hn : IsPlainName n) : shortName n = n := by
  have hs : Spells n ("" ++ n) := .qualified (.inl rfl)
  rw [String.empty_append] at hs
  exact shortName_of_spells hn hs

/-! ### Attributes and manifests -/

variable {v v' m m' : Value}

theorem attributeAlike_of_respelled (h : RespelledAttribute v v') :
    AttributeAlike Annotation.unnamed v v' := by
  cases h with
  | same => exact AttributeAlike.refl _ v
  | text hn hs =>
    have hshort := hn.shortName.trans (shortName_of_spells hn hs).symm
    refine ⟨hshort, .ok ?_⟩
    simp only [attributeName, Annotation.unnamed, hshort]
  | @object fs n s hname hn hs =>
    have hsame := sameBut_set fs "name" (.text s)
    have hold : attributeName (.object fs) = n := by
      rw [attributeName, textAt, hname]
      rfl
    have hnew : attributeName (.object (Fields.set fs (.text "name") (.text s))) = s := by
      rw [attributeName, textAt, at?_set_self]
      rfl
    have hshort : shortName n = shortName s :=
      hn.shortName.trans (shortName_of_spells hn hs).symm
    refine ⟨by rw [hold, hnew, hshort], ?_⟩
    simp only [ parseAnnotation, hold, hnew, hshort, ← hsame.valueAt (k := "arguments") (by decide),
      ← hsame.valueAt (k := "named_arguments") (by decide)]
    split
    · exact .ok rfl
    · exact .error _ _

/-- Attributes of properties that are spelled in another way leave the manifest alike but for the
names of annotations. -/
theorem manifestAlike_of_respelledTypes (h : RespelledTypes m m') :
    ManifestAlike Annotation.unnamed m m' :=
  manifestAlike_of_along .propertyAttribute (fun _ _ => attributeAlike_of_respelled) h

/-- So do attributes of declarations. -/
theorem manifestAlike_of_respelledDeclarations (h : RespelledDeclarations m m') :
    ManifestAlike Annotation.unnamed m m' :=
  manifestAlike_of_along .declarationAttribute (fun _ _ => attributeAlike_of_respelled) h

end Manifest

end EntityMapping
