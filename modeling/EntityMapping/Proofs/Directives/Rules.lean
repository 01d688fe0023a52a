import EntityMapping.Directive
import Mathlib.Data.List.Nodup
import Mathlib.Tactic.Common

/-!
# The rules of directives

The directives of a property are known from the first annotations of the kinds that count: which of
them are there, which values they carry and in which order they stand.  The greatest length can come
from two annotations, or else it is the default length; in the last case it stands in another place
(`resolveDirectives_follows`).

## Main definitions

* `Property.IsFirst` — an annotation is the first one of a kind.
* `Property.GivesType`, `Property.GivesLength`, `Property.GivesName` — what annotations say.
* `DirectiveKind.order` — the fixed order, in which the greatest length has two places.
* `Follows` — directives follow the rules for a property.
-/

namespace EntityMapping

/-! ### First annotations -/

namespace Property

/-- An annotation is the first one of a kind. -/
def IsFirst (p : Property) (kind : AnnotationKind) (a : Annotation) : Prop :=
  a.kind = kind ∧ ∃ before after, p.annotations = before ++ a :: after ∧ ∀ b ∈ before, b.kind ≠ kind

/-- The first column annotation names a column type. -/
def GivesType (p : Property) (s : String) : Prop :=
  ∃ a, p.IsFirst .column a ∧ Fields.at? a.named "TypeName" = some (.text s)

/-- The first annotation of a kind has one argument, which is a value other than null. -/
def GivesArgument (p : Property) (kind : AnnotationKind) (v : Value) : Prop :=
  ∃ a, p.IsFirst kind a ∧ a.arguments = [v] ∧ v ≠ .null

/-- The annotations give a greatest length: the first greatest length does, or else the first text
length. -/
def GivesLength (p : Property) (v : Value) : Prop :=
  p.GivesArgument .maxLength v
    ∨ (∀ w, ¬p.GivesArgument .maxLength w) ∧ p.GivesArgument .stringLength v

/-- The column is named after a text: the first argument of the first column annotation, if that is
a text, and else the name of the property. -/
def GivesName (p : Property) (source : Option String) : Prop :=
  (∃ a s r, p.IsFirst .column a ∧ a.arguments = .text s :: r ∧ source = some s)
    ∨ (∀ a s r, p.IsFirst .column a → a.arguments ≠ .text s :: r) ∧ source = p.name

variable {p : Property} {kind : AnnotationKind} {a : Annotation}

theorem findAnnotation_eq_some_iff : p.findAnnotation kind = some a ↔ p.IsFirst kind a := by
  simp [ findAnnotation, IsFirst, List.find?_eq_some_iff_append]

theorem not_isFirst (h : p.findAnnotation kind = none) : ¬p.IsFirst kind a := by
  rw [← findAnnotation_eq_some_iff, h]
  exact Option.some_ne_none a ∘ Eq.symm

theorem IsFirst.unique {b : Annotation} (ha : p.IsFirst kind a) (hb : p.IsFirst kind b) :
    a = b := by
  rw [← findAnnotation_eq_some_iff] at ha hb
  exact Option.some.inj (ha.symm.trans hb)

theorem IsFirst.exists_iff (ha : p.IsFirst kind a) {P : Annotation → Prop} :
    (∃ b, p.IsFirst kind b ∧ P b) ↔ P a := by
  refine ⟨?_, fun h => ⟨a, ha, h⟩⟩
  rintro ⟨b, hb, h⟩
  rwa [ha.unique hb]

theorem hasAnnotation_iff : p.hasAnnotation kind = true ↔ ∃ a ∈ p.annotations, a.kind = kind := by
  simp [ hasAnnotation, findAnnotation]

theorem columnType?_eq_some_iff {s : String} : columnType? p = some s ↔ p.GivesType s := by
  unfold columnType?
  cases hfind : p.findAnnotation .column with
  | none => simp [GivesType, not_isFirst hfind]
  | some a =>
    rw [GivesType, (findAnnotation_eq_some_iff.mp hfind).exists_iff]
    dsimp only
    split <;> simp_all

theorem singleArgument?_eq_some_iff {v : Value} :
    singleArgument? p kind = some v ↔ p.GivesArgument kind v := by
  unfold singleArgument?
  cases hfind : p.findAnnotation kind with
  | none => simp [GivesArgument, not_isFirst hfind]
  | some a =>
    rw [GivesArgument, (findAnnotation_eq_some_iff.mp hfind).exists_iff]
    dsimp only
    split <;> grind

theorem annotatedLength?_eq_some_iff {v : Value} :
    annotatedLength? p = some v ↔ p.GivesLength v := by
  have hnone : singleArgument? p .maxLength = none ↔ ∀ w, ¬p.GivesArgument .maxLength w := by
    simp only [Option.eq_none_iff_forall_ne_some, ne_eq, singleArgument?_eq_some_iff]
  rw [annotatedLength?, GivesLength, ← hnone, ← singleArgument?_eq_some_iff,
    ← singleArgument?_eq_some_iff]
  cases singleArgument? p .maxLength <;> simp

theorem annotatedLength?_eq_none_iff : annotatedLength? p = none ↔ ∀ v, ¬p.GivesLength v := by
  simp only [Option.eq_none_iff_forall_ne_some, ne_eq, annotatedLength?_eq_some_iff]

theorem eq_columnSource_iff {source : Option String} :
    source = columnSource p ↔ p.GivesName source := by
  unfold columnSource
  cases hfind : p.findAnnotation .column with
  | none => simp [GivesName, not_isFirst hfind]
  | some a =>
    have ha := findAnnotation_eq_some_iff.mp hfind
    have hiff : p.GivesName source ↔ (∃ s r, a.arguments = .text s :: r ∧ source = some s)
        ∨ (∀ s r, a.arguments ≠ .text s :: r) ∧ source = p.name := by
      rw [← ha.exists_iff (P := fun b => ∃ s r, b.arguments = .text s :: r ∧ source = some s)]
      refine or_congr (by simp only [exists_and_left]) (and_congr_left fun _ => ?_)
      refine ⟨fun h s r => h a s r ha, fun h b s r hb => ?_⟩
      rw [← ha.unique hb]
      exact h s r
    rw [hiff]
    dsimp only [ Annotation.firstArgument]
    cases a.arguments with
    | nil => simp
    | cons v r => cases v <;> simp

end Property

/-! ### The rules -/

namespace DirectiveKind

/-- The order of directives, in which the greatest length has two places. -/
def order : List DirectiveKind :=
  [.columnType, .required, .maxLength, .concurrencyToken, .rowVersion, .maxLength, .columnName]

/-- The order of directives where annotations give the greatest length. -/
def orderGiven : List DirectiveKind :=
  [.columnType, .required, .maxLength, .concurrencyToken, .rowVersion, .columnName]

/-- The order of directives where no annotation gives a greatest length. -/
def orderDefault : List DirectiveKind :=
  [.columnType, .required, .concurrencyToken, .rowVersion, .maxLength, .columnName]

theorem nodup_orderGiven : orderGiven.Nodup := by decide

theorem nodup_orderDefault : orderDefault.Nodup := by decide

theorem orderGiven_sublist : orderGiven.Sublist order := by decide

theorem orderDefault_sublist : orderDefault.Sublist order := by decide

end DirectiveKind

/-- Directives follow the rules for a property and a default length: which of them are there, with
which values, and in which order. -/
structure Follows (p : Property) (length : Value) (ds : List Directive) : Prop where
  columnType_iff : ∀ v, ⟨.columnType, v⟩ ∈ ds ↔ ∃ s, p.GivesType s ∧ v = .text s
  required_iff : ∀ v, ⟨.required, v⟩ ∈ ds ↔ (∃ a ∈ p.annotations, a.kind = .required) ∧ v = .null
  maxLength_iff : ∀ v, ⟨.maxLength, v⟩ ∈ ds ↔
    p.GivesLength v ∨ (∀ w, ¬p.GivesLength w) ∧ p.type = .string ∧ v = length
  concurrencyToken_iff : ∀ v, ⟨.concurrencyToken, v⟩ ∈ ds ↔
    (∃ a ∈ p.annotations, a.kind = .concurrencyCheck) ∧ v = .null
  rowVersion_iff : ∀ v, ⟨.rowVersion, v⟩ ∈ ds ↔
    (∃ a ∈ p.annotations, a.kind = .timestamp) ∧ v = .null
  columnName_iff : ∀ v, ⟨.columnName, v⟩ ∈ ds ↔
    ∃ source, p.GivesName source ∧ v = nameValue (source.map storageName)
  given : (∃ v, p.GivesLength v) → (ds.map (·.kind)).Sublist DirectiveKind.orderGiven
  default : (∀ v, ¬p.GivesLength v) → (ds.map (·.kind)).Sublist DirectiveKind.orderDefault

variable {p : Property} {length : Value} {ds es : List Directive}

/-- Lists whose items stand in one order without repeats are equal if they have the same items. -/
private theorem eq_of_map_sublist {α β : Type} {f : α → β} {order : List β} (h : order.Nodup)
    {l m : List α} (hl : (l.map f).Sublist order) (hm : (m.map f).Sublist order)
    (hmem : ∀ a, a ∈ l ↔ a ∈ m) : l = m := by
  induction order generalizing l m with
  | nil =>
    rw [List.sublist_nil, List.map_eq_nil_iff] at hl hm
    rw [hl, hm]
  | cons b r ih =>
    obtain ⟨hb, hr⟩ := List.nodup_cons.mp h
    -- An item with the first image stands first, and is the only one with that image.
    have hfirst {l : List α} (hl : (l.map f).Sublist (b :: r)) :
        ((l.map f).Sublist r ∧ ∀ a ∈ l, f a ≠ b)
          ∨ ∃ a t, l = a :: t ∧ f a = b ∧ (t.map f).Sublist r ∧ ∀ c ∈ t, f c ≠ b := by
      have hnot {t : List α} (ht : (t.map f).Sublist r) : ∀ c ∈ t, f c ≠ b := by
        rintro c hc rfl
        exact hb (ht.subset (List.mem_map_of_mem hc))
      rcases List.sublist_cons_iff.mp hl with hl | ⟨t, ht, hsub⟩
      · exact Or.inl ⟨hl, hnot hl⟩
      · obtain ⟨a, t, rfl, ha, rfl⟩ := List.map_eq_cons_iff.mp ht
        exact Or.inr ⟨a, t, rfl, ha, hsub, hnot hsub⟩
    rcases hfirst hl with ⟨hl, hnl⟩ | ⟨a, t, rfl, ha, ht, hnt⟩ <;>
      rcases hfirst hm with ⟨hm, hnm⟩ | ⟨c, u, rfl, hc, hu, hnu⟩
    · exact ih hr hl hm hmem
    · exact absurd hc (hnl c ((hmem c).mpr List.mem_cons_self))
    · exact absurd ha (hnm a ((hmem a).mp List.mem_cons_self))
    · obtain rfl : a = c := by
        rcases List.mem_cons.mp ((hmem a).mp List.mem_cons_self) with heq | hmem
        · exact heq
        · exact absurd ha (hnu a hmem)
      have htail : ∀ x, x ∈ t ↔ x ∈ u := by
        intro x
        by_cases hx : f x = b
        · exact iff_of_false (fun h => hnt x h hx) fun h => hnu x h hx
        · have hne : x ≠ a := fun h => hx (h ▸ ha)
          simpa [hne] using hmem x
      rw [ih hr ht hu htail]

theorem mem_resolveDirectives {d : Directive} :
    d ∈ resolveDirectives p length ↔
      (∃ s, p.GivesType s ∧ d = ⟨.columnType, .text s⟩)
      ∨ ((∃ a ∈ p.annotations, a.kind = .required) ∧ d = ⟨.required, .null⟩)
      ∨ (∃ v, p.GivesLength v ∧ d = ⟨.maxLength, v⟩)
      ∨ ((∃ a ∈ p.annotations, a.kind = .concurrencyCheck) ∧ d = ⟨.concurrencyToken, .null⟩)
      ∨ ((∃ a ∈ p.annotations, a.kind = .timestamp) ∧ d = ⟨.rowVersion, .null⟩)
      ∨ ((∀ v, ¬p.GivesLength v) ∧ p.type = .string ∧ d = ⟨.maxLength, length⟩)
      ∨ ∃ source, p.GivesName source ∧ d = ⟨.columnName, nameValue (source.map storageName)⟩ := by
  simp only [resolveDirectives, List.mem_append, Option.mem_toList, Option.map_eq_some_iff,
    List.mem_ite_nil_right, List.mem_singleton, Property.columnType?_eq_some_iff,
    Property.hasAnnotation_iff, Property.annotatedLength?_eq_some_iff, Option.isNone_iff_eq_none,
    Property.annotatedLength?_eq_none_iff, ← Property.eq_columnSource_iff, exists_eq_left,
    or_assoc, and_assoc, eq_comm (a := d)]

private theorem map_kind_option {α : Type} {o : Option α} {f : α → Directive}
    {kind : DirectiveKind} (h : ∀ a, (f a).kind = kind) :
    ((o.map f).toList.map (·.kind)).Sublist [kind] := by
  cases o <;> simp [h]

private theorem map_kind_ite {c : Prop} {_ : Decidable c} {d : Directive} :
    ((if c then [d] else []).map (·.kind)).Sublist [d.kind] := by
  split_ifs <;> simp

/-- The directives of a property follow the rules. -/
theorem follows_resolveDirectives : Follows p length (resolveDirectives p length) where
  columnType_iff v := by simp [mem_resolveDirectives]
  required_iff v := by simp [mem_resolveDirectives]
  maxLength_iff v := by simp [mem_resolveDirectives]
  concurrencyToken_iff v := by simp [mem_resolveDirectives]
  rowVersion_iff v := by simp [mem_resolveDirectives]
  columnName_iff v := by simp [mem_resolveDirectives]
  given := by
    rintro ⟨v, hv⟩
    rw [← Property.annotatedLength?_eq_some_iff] at hv
    have hdefault : ¬((annotatedLength? p).isNone ∧ p.type = .string) := by simp [hv]
    have horder : DirectiveKind.orderGiven = [.columnType] ++ [.required] ++ [.maxLength]
      ++ [.concurrencyToken] ++ [.rowVersion] ++ [.columnName] := rfl
    rw [resolveDirectives, if_neg hdefault, List.append_nil, horder]
    simp only [List.map_append]
    refine .append (.append (.append (.append (.append ?_ ?_) ?_) ?_) ?_) (.refl _)
    · exact map_kind_option fun _ => rfl
    · exact map_kind_ite
    · exact map_kind_option fun _ => rfl
    · exact map_kind_ite
    · exact map_kind_ite
  default hnone := by
    rw [← Property.annotatedLength?_eq_none_iff] at hnone
    have horder : DirectiveKind.orderDefault = [.columnType] ++ [.required]
      ++ [.concurrencyToken] ++ [.rowVersion] ++ [.maxLength] ++ [.columnName] := rfl
    rw [resolveDirectives, hnone, Option.map_none, Option.toList_none, List.append_nil, horder]
    simp only [List.map_append]
    refine .append (.append (.append (.append (.append ?_ ?_) ?_) ?_) ?_) (.refl _)
    · exact map_kind_option fun _ => rfl
    · exact map_kind_ite
    · exact map_kind_ite
    · exact map_kind_ite
    · exact map_kind_ite

/-- Directives that follow the rules stand in one of two orders without repeats. -/
theorem exists_order (p : Property) (length : Value) :
    ∃ order : List DirectiveKind, (∀ es, Follows p length es → (es.map (·.kind)).Sublist order)
      ∧ order.Nodup ∧ order.Sublist DirectiveKind.order := by
  by_cases hgiven : ∃ v, p.GivesLength v
  · exact ⟨_, fun _ hes => hes.given hgiven, DirectiveKind.nodup_orderGiven,
      DirectiveKind.orderGiven_sublist⟩
  · exact ⟨_, fun _ hes => hes.default (not_exists.mp hgiven), DirectiveKind.nodup_orderDefault,
      DirectiveKind.orderDefault_sublist⟩

/-- There is only one list of directives that follows the rules. -/
theorem Follows.unique (h : Follows p length ds) (h' : Follows p length es) : ds = es := by
  obtain ⟨order, hsub, hnodup, horder⟩ := exists_order p length
  refine eq_of_map_sublist hnodup (hsub ds h) (hsub es h') fun ⟨kind, value⟩ => ?_
  have hnone {l : List Directive} {keyword : String} (hl : (l.map (·.kind)).Sublist order) :
      ⟨.other keyword, value⟩ ∉ l := by
    intro hmem
    have hother : DirectiveKind.other keyword ∈ DirectiveKind.order :=
      (hl.trans horder).subset (List.mem_map_of_mem hmem)
    simp [DirectiveKind.order] at hother
  cases kind with
  | columnType => rw [h.columnType_iff, h'.columnType_iff]
  | required => rw [h.required_iff, h'.required_iff]
  | maxLength => rw [h.maxLength_iff, h'.maxLength_iff]
  | concurrencyToken => rw [h.concurrencyToken_iff, h'.concurrencyToken_iff]
  | rowVersion => rw [h.rowVersion_iff, h'.rowVersion_iff]
  | columnName => rw [h.columnName_iff, h'.columnName_iff]
  | other keyword => exact iff_of_false (hnone (hsub ds h)) (hnone (hsub es h'))

/-- The directives of a property are the only ones that follow the rules.  They stand in the fixed
order, the greatest length at most once, and the column name is the last one and the only one of its
kind. -/
theorem resolveDirectives_follows (p : Property) (length : Value) :
    (∀ ds, Follows p length ds ↔ ds = resolveDirectives p length)
      ∧ ((resolveDirectives p length).map (·.kind)).Sublist DirectiveKind.order
      ∧ ((resolveDirectives p length).map (·.kind)).count .maxLength ≤ 1
      ∧ ∃ others source, p.GivesName source
        ∧ resolveDirectives p length
          = others ++ [⟨.columnName, nameValue (source.map storageName)⟩]
        ∧ ∀ d ∈ others, d.kind ≠ .columnName := by
  have hfollows : Follows p length (resolveDirectives p length) := follows_resolveDirectives
  obtain ⟨order, hsub, hnodup, horder⟩ := exists_order p length
  have hkinds := hsub _ hfollows
  refine ⟨fun ds => ⟨fun h => h.unique hfollows, fun h => h ▸ hfollows⟩, hkinds.trans horder,
    List.nodup_iff_count_le_one.mp (hkinds.nodup hnodup) _, _, columnSource p,
    Property.eq_columnSource_iff.mp rfl, rfl, ?_⟩
  -- The kinds do not repeat, and the last one is that of the column name.
  intro d hd hkind
  have hdistinct := hkinds.nodup hnodup
  rw [resolveDirectives, List.map_append, List.nodup_append] at hdistinct
  exact hdistinct.2.2 _ (List.mem_map_of_mem hd) .columnName (List.mem_singleton_self _) hkind

end EntityMapping
