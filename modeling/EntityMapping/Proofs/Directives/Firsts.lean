import EntityMapping.Proofs.Directives.Rules
import Mathlib.Logic.Relation

/-!
# What directives depend on

The directives of a property depend on its name, its type and what the first annotations of the
kinds that count say (`resolveDirectives_congr`).  All that leaves those as they are leaves the
directives as they are: other annotations may come, go and move, a kind may be repeated, and
annotations of different kinds may change places (`resolveDirectives_eq_of_firsts`).

## Main definitions

* `Annotation.SaysSame` — two annotations have the same arguments.
* `Property.AgreesOn` — the first annotations of a kind say the same.
* `IdleEdit` — an edit of annotations that leaves the first ones of the kinds that count.
-/

namespace EntityMapping

/-! ### First annotations that say the same -/

/-- Two annotations have the same arguments, those with names in any order. -/
def Annotation.SaysSame (a b : Annotation) : Prop :=
  a.arguments = b.arguments ∧ ∀ name, Fields.at? a.named name = Fields.at? b.named name

/-- The first annotations of a kind say the same, or both properties have none. -/
def Property.AgreesOn (p q : Property) (kind : AnnotationKind) : Prop :=
  (∀ a, p.IsFirst kind a → ∃ b, q.IsFirst kind b ∧ a.SaysSame b)
    ∧ ∀ b, q.IsFirst kind b → ∃ a, p.IsFirst kind a ∧ a.SaysSame b

variable {p q : Property} {kind : AnnotationKind}

theorem Property.agreesOn_iff :
    p.AgreesOn q kind
      ↔ Option.Rel Annotation.SaysSame (p.findAnnotation kind) (q.findAnnotation kind) := by
  simp only [AgreesOn, ← findAnnotation_eq_some_iff]
  cases p.findAnnotation kind <;> cases q.findAnnotation kind <;> simp

theorem Property.AgreesOn.find_cases (h : p.AgreesOn q kind) :
    p.findAnnotation kind = none ∧ q.findAnnotation kind = none
      ∨ ∃ a b, p.findAnnotation kind = some a ∧ q.findAnnotation kind = some b
        ∧ a.SaysSame b := by
  rw [agreesOn_iff] at h
  revert h
  cases p.findAnnotation kind <;> cases q.findAnnotation kind <;> simp

theorem Property.AgreesOn.hasAnnotation_eq (h : p.AgreesOn q kind) :
    p.hasAnnotation kind = q.hasAnnotation kind := by
  unfold hasAnnotation
  obtain ⟨hp, hq⟩ | ⟨a, b, hp, hq, -⟩ := h.find_cases <;> rw [hp, hq]
  rfl

theorem Property.AgreesOn.singleArgument?_eq (h : p.AgreesOn q kind) :
    singleArgument? p kind = singleArgument? q kind := by
  unfold singleArgument?
  obtain ⟨hp, hq⟩ | ⟨a, b, hp, hq, hsame⟩ := h.find_cases <;> rw [hp, hq]
  simp only [hsame.1]

theorem Property.AgreesOn.columnType?_eq (h : p.AgreesOn q .column) :
    columnType? p = columnType? q := by
  unfold columnType?
  obtain ⟨hp, hq⟩ | ⟨a, b, hp, hq, hsame⟩ := h.find_cases <;> rw [hp, hq]
  simp only [hsame.2]

theorem Property.AgreesOn.columnSource_eq (hname : p.name = q.name) (h : p.AgreesOn q .column) :
    columnSource p = columnSource q := by
  unfold columnSource
  obtain ⟨hp, hq⟩ | ⟨a, b, hp, hq, hsame⟩ := h.find_cases <;> rw [hp, hq]
  · exact hname
  · simp only [ Annotation.firstArgument, hsame.1, hname]

/-- The directives of a property depend on its name, its type and what the first annotations of the
kinds that count say. -/
theorem resolveDirectives_congr (hname : p.name = q.name) (htype : p.type = q.type)
    (h : ∀ kind, kind ≠ .other → p.AgreesOn q kind) (length : Value) :
    resolveDirectives p length = resolveDirectives q length := by
  have hcolumn : p.AgreesOn q .column := h _ (by decide)
  have hlength : annotatedLength? p = annotatedLength? q := by
    rw [annotatedLength?, annotatedLength?, (h .maxLength (by decide)).singleArgument?_eq,
      (h .stringLength (by decide)).singleArgument?_eq]
  rw [resolveDirectives, resolveDirectives, hcolumn.columnType?_eq,
    hcolumn.columnSource_eq hname, hlength, htype, (h .required (by decide)).hasAnnotation_eq,
    (h .concurrencyCheck (by decide)).hasAnnotation_eq, (h .timestamp (by decide)).hasAnnotation_eq]

/-! ### Edits -/

/-- An edit of annotations that leaves the first ones of the kinds that count: another annotation
comes in, one of a kind that is there before it comes in, or two of different kinds change places.
Both ways and one after another, such edits also take annotations away, move and replace them. -/
inductive IdleEdit : List Annotation → List Annotation → Prop
  | other (l r : List Annotation) {a : Annotation} (h : a.kind = .other) :
      IdleEdit (l ++ r) (l ++ a :: r)
  | later (l r : List Annotation) {a b : Annotation} (ha : a ∈ l) (h : b.kind = a.kind) :
      IdleEdit (l ++ r) (l ++ b :: r)
  | swap (l r : List Annotation) {a b : Annotation} (h : a.kind ≠ b.kind) :
      IdleEdit (l ++ a :: b :: r) (l ++ b :: a :: r)

variable {as bs : List Annotation}

theorem IdleEdit.find?_eq (h : IdleEdit as bs) (hkind : kind ≠ .other) :
    as.find? (·.kind = kind) = bs.find? (·.kind = kind) := by
  cases h with
  | other l r ha => simp [List.find?_append, ha, hkind.symm]
  | @later l r a b ha hb =>
    rw [List.find?_append, List.find?_append]
    by_cases hb' : b.kind = kind
    · -- The annotation that is there before is found first.
      have hfound : (l.find? (·.kind = kind)).isSome :=
        List.find?_isSome.mpr ⟨a, ha, decide_eq_true (hb.symm.trans hb')⟩
      rw [Option.or_of_isSome hfound, Option.or_of_isSome hfound]
    · rw [List.find?_cons_of_neg (by simpa using hb')]
  | @swap l r a b hab =>
    rw [List.find?_append, List.find?_append]
    by_cases ha : a.kind = kind
    · have hb : b.kind ≠ kind := fun hb => hab (ha.trans hb.symm)
      simp [ha, hb]
    · simp [ha, List.find?_cons]

theorem find?_eq_of_eqvGen (h : Relation.EqvGen IdleEdit as bs) (hkind : kind ≠ .other) :
    as.find? (·.kind = kind) = bs.find? (·.kind = kind) := by
  induction h with
  | rel _ _ h => exact h.find?_eq hkind
  | refl => rfl
  | symm _ _ _ ih => exact ih.symm
  | trans _ _ _ _ _ ih ih' => exact ih.trans ih'

theorem Property.agreesOn_of_find?_eq
    (h : p.annotations.find? (·.kind = kind) = q.annotations.find? (·.kind = kind)) :
    p.AgreesOn q kind := by
  have hrefl (a : Annotation) : a.SaysSame a := ⟨rfl, fun _ => rfl⟩
  have hiff (a : Annotation) : p.IsFirst kind a ↔ q.IsFirst kind a := by
    rw [← findAnnotation_eq_some_iff, ← findAnnotation_eq_some_iff, findAnnotation, h,
      findAnnotation]
  exact ⟨fun a ha => ⟨a, (hiff a).mp ha, hrefl a⟩, fun a ha => ⟨a, (hiff a).mpr ha, hrefl a⟩⟩

/-- The directives of a property depend on its name, its type and what the first annotations of the
kinds that count say; so edits that leave those change nothing. -/
theorem resolveDirectives_eq_of_firsts {p q : Property} (hname : p.name = q.name)
    (htype : p.type = q.type) (h : ∀ kind, kind ≠ .other → p.AgreesOn q kind) (length : Value) :
    resolveDirectives p length = resolveDirectives q length
      ∧ ∀ as bs, Relation.EqvGen IdleEdit p.annotations as →
        Relation.EqvGen IdleEdit q.annotations bs →
        resolveDirectives { p with annotations := as } length
          = resolveDirectives { q with annotations := bs } length := by
  have hedited (p : Property) (as : List Annotation)
      (has : Relation.EqvGen IdleEdit p.annotations as) :
      resolveDirectives p length = resolveDirectives { p with annotations := as } length :=
    resolveDirectives_congr (p := p) (q := { p with annotations := as }) rfl rfl
      (fun _ hkind => Property.agreesOn_of_find?_eq (find?_eq_of_eqvGen has hkind)) length
  have hsame := resolveDirectives_congr hname htype h length
  exact ⟨hsame, fun as bs has hbs => by rw [← hedited p as has, hsame, hedited q bs hbs]⟩

namespace Property.Sample

/-- A column with a name and a type. -/
def column : Annotation where
  kind := .column
  name := "Column"
  arguments := [.text "HomePage"]
  named := [(.text "TypeName", .text "varchar"), (.text "Order", .int 2)]

/-- A greatest length. -/
def maxLength (n : Int) : Annotation where
  kind := .maxLength
  name := "MaxLength"
  arguments := [.int n]

/-- An annotation that does not count. -/
def display : Annotation := { kind := .other, name := "Display" }

/-- A property with a column and a greatest length. -/
def address : Property where
  name := some "Address"
  type := .string
  annotations := [column, maxLength 120]

/-- The same property as declared elsewhere: in another order, with a repeated length and with an
annotation that does not count. -/
def redeclaredAddress : Property where
  name := some "Address"
  type := .string
  annotations := [maxLength 120, display, { column with
    name := "ColumnAttribute", named := column.named.reverse }, maxLength 80]

end Property.Sample

open Property.Sample in
/-- Both declarations give the same directives, also when the repeated length is taken away from the
one and an annotation that does not count is put into the other. -/
theorem resolveDirectives_eq_of_firsts_address :
    resolveDirectives address (.int 255) = resolveDirectives redeclaredAddress (.int 255)
      ∧ resolveDirectives
          { address with annotations := [column, display, maxLength 120] } (.int 255)
        = resolveDirectives
          { redeclaredAddress with annotations := redeclaredAddress.annotations.dropLast }
          (.int 255) := by
  have hcolumn (name : String) :
      Fields.at? column.named name = Fields.at? column.named.reverse name := by
    by_cases hname : name = "TypeName"
    · subst hname
      rfl
    · simp [Fields.at?, Fields.get?, column, Key.same, Ne.symm hname]
  have hagree : ∀ kind, kind ≠ .other → address.AgreesOn redeclaredAddress kind := by
    intro kind hkind
    rw [Property.agreesOn_iff]
    cases kind with
    | column => exact .some ⟨rfl, hcolumn⟩
    | maxLength => exact .some ⟨rfl, fun _ => rfl⟩
    | other => exact absurd rfl hkind
    | required | stringLength | concurrencyCheck | timestamp => exact .none
  obtain ⟨hsame, hedited⟩ :=
    resolveDirectives_eq_of_firsts (p := address) (q := redeclaredAddress) rfl rfl hagree (.int 255)
  refine ⟨hsame, hedited _ _ (.rel _ _ ?_) (.symm _ _ (.rel _ _ ?_))⟩
  · exact .other [column] [maxLength 120] rfl
  · exact .later (a := maxLength 120) redeclaredAddress.annotations.dropLast []
      List.mem_cons_self rfl

end EntityMapping
