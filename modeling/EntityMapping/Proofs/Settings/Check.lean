import EntityMapping.Generation.Run
import EntityMapping.Proofs.CSharp.Chains
import EntityMapping.Proofs.Directives.Rules
import EntityMapping.Proofs.Generation.Bundled
import EntityMapping.Proofs.Outcome
import EntityMapping.Registry
import EntityMapping.Settings.Check

/-!
# What settings without warnings generate

Settings without warnings have an identifier for the name of the shared base, and for every entity
whose name is one the name of its configuration is another one.  Greatest lengths that come from the
default are called with a positive number.  There are two exceptions (`wellFormed_of_check`).  A
suffix is only asked for an identifier if it counts as true, and of what counts as false the empty
list, the empty object and the zeros with a fraction have a text that no identifier ends in.  And a
truth value counts as a whole number, so that the default length can be `True`.

## Main definitions

* `Value.IsHollow` — a suffix is not asked for an identifier, but its text does not end any.
* `TakesDefault` — a directive configures the default length.
* `CSharp.IsLengthCall` — a call sets a greatest length.

## Main results

* `Settings.check_eq_ok_nil_iff` — when there are no warnings.
* `wellFormed_of_check` — what is well-formed then.
-/

namespace EntityMapping

open Text

/-! ### Settings without warnings -/

/-- There are no warnings just if the settings can be asked and each of them is as it should be. -/
theorem Settings.check_eq_ok_nil_iff {s : Settings} :
    s.check = .ok [] ↔ s.baseClassName.isIdentifier = .ok true
      ∧ (s.entitySuffix.truthy = true → s.entitySuffix.isIdentifier = .ok true)
      ∧ s.namespaceName.isNamespace = .ok true ∧ s.defaultStringLength.isPositiveInt = true := by
  -- A warning stands for each of four answers that is not as it should be.
  have hnone (good : Bool) (k : Setting) :
      (if good then none else some (warningOn s k)) = none ↔ good = true := by
    cases good <;> simp
  rw [check]
  cases s.entitySuffix.truthy with
  | false =>
    simp only [Bool.false_eq_true, if_false, false_imp_iff, true_and, pure_bind, bind_eq_ok,
      pure_eq_ok, List.filterMap_eq_nil_iff, List.forall_mem_cons, hnone]
    grind
  | true =>
    simp only [if_true, true_imp_iff, bind_eq_ok, pure_eq_ok, List.filterMap_eq_nil_iff,
      List.forall_mem_cons, hnone]
    grind

theorem Value.isIdentifier_eq_ok_true_iff {v : Value} :
    v.isIdentifier = .ok true ↔ ∃ s, v = .text s ∧ Text.isIdentifier s = true := by
  cases v <;> simp [Value.isIdentifier]

/-! ### Names -/

namespace Text

/-- Whatever starts an identifier may stand inside one. -/
theorem all_isIdentContinue {s : String} (h : isIdentifier s = true) :
    s.toList.all isIdentContinue = true := by
  unfold isIdentifier at h
  cases hs : s.toList with
  | nil => rfl
  | cons c r =>
    rw [hs, Bool.and_eq_true] at h
    rw [List.all_cons, h.2, isIdentContinue, h.1]
    rfl

/-- What is put to an identifier makes another one just if all of it may stand inside one. -/
theorem isIdentifier_append {s t : String} (h : isIdentifier s = true) :
    isIdentifier (s ++ t) = t.toList.all isIdentContinue := by
  unfold isIdentifier at h
  cases hs : s.toList with
  | nil =>
    rw [hs] at h
    cases h
  | cons c r =>
    rw [hs, Bool.and_eq_true] at h
    rw [isIdentifier, String.toList_append, hs, List.cons_append]
    dsimp only
    rw [List.all_append, h.1, h.2, Bool.true_and, Bool.true_and]

end Text

/-- A value counts as false, and its text does not end any identifier. -/
def Value.IsHollow : Value → Prop
  | .float x => x.isZero = true
  | .list items => items = []
  | .object fields => fields = []
  | _ => False

/-- A suffix without a warning may stand inside an identifier unless it is hollow. -/
theorem isIdentContinue_display_iff {v : Value}
    (h : v.truthy = true → v.isIdentifier = .ok true) :
    v.display.toList.all isIdentContinue = true ↔ ¬v.IsHollow := by
  -- Apart from texts, only what counts as false is left.
  have hfalse {e : Fault} (he : v.isIdentifier = .error e) : v.truthy = false := by
    refine Bool.eq_false_iff.mpr fun htrue => ?_
    have htext := h htrue
    rw [he] at htext
    cases htext
  cases v with
  | null => exact iff_of_true (by decide +kernel) id
  | bool b =>
    obtain rfl : b = false := hfalse rfl
    exact iff_of_true (by decide +kernel) id
  | int n =>
    obtain rfl : n = 0 := by simpa [Value.truthy] using hfalse rfl
    exact iff_of_true (by decide +kernel) id
  | float x =>
    have hzero : x.isZero = true := by simpa [Value.truthy] using hfalse rfl
    refine iff_of_false (fun hall => ?_) (not_not.mpr hzero)
    have hpoint : isIdentContinue '.' = false := by decide +kernel
    cases x with
    | nan => cases hzero
    | infinite => cases hzero
    | finite negative m q =>
      obtain rfl : m = 0 := by simpa [Decimal.Binary64.isZero] using hzero
      have hmem : '.' ∈ (Value.float (.finite negative 0 q)).display.toList := by
        cases negative <;> simp [Value.display, Value.shown, Decimal.Binary64.text]
      exact Bool.false_ne_true (hpoint.symm.trans (List.all_eq_true.mp hall '.' hmem))
  | text s =>
    refine iff_of_true ?_ id
    by_cases hs : s = ""
    · subst hs
      rfl
    · have htrue : (Value.text s).truthy = true := by simpa [Value.truthy] using hs
      exact all_isIdentContinue (Except.ok.inj (h htrue))
  | list items =>
    obtain rfl : items = [] := by simpa [Value.truthy] using hfalse rfl
    exact iff_of_false (by decide +kernel) (not_not.mpr rfl)
  | object fields =>
    obtain rfl : fields = [] := by simpa [Value.truthy] using hfalse rfl
    exact iff_of_false (by decide +kernel) (not_not.mpr rfl)

/-! ### Lengths -/

/-- A directive configures the default length: that of a text property without a length of its own,
or that of an audit field. -/
inductive TakesDefault (length : Value) : Directive → Prop
  | property {p : Property} {d : Directive} (hnone : ∀ v, ¬p.GivesLength v)
      (hd : d ∈ resolveDirectives p length) (hkind : d.kind = .maxLength) : TakesDefault length d
  | field {f : AuditField} {d : Directive} (hd : d ∈ auditDirectives f length)
      (hkind : d.kind = .maxLength) : TakesDefault length d

/-- A call sets a greatest length: the digits of a positive number stand between its brackets. -/
def CSharp.IsLengthCall (call : String) : Prop :=
  ∃ n ds, 0 < n ∧ natural? ds = some n ∧ call = ".HasMaxLength(" ++ String.ofList ds ++ ")"

/-- The value of such a directive is the default length itself. -/
theorem TakesDefault.eq {length : Value} {d : Directive} (h : TakesDefault length d) :
    d = ⟨.maxLength, length⟩ := by
  obtain ⟨kind, value⟩ := d
  cases h with
  | @property p _ hnone hd hkind =>
    obtain rfl : kind = .maxLength := hkind
    rcases (follows_resolveDirectives.maxLength_iff value).mp hd with hgiven | ⟨-, -, rfl⟩
    · exact absurd hgiven (hnone value)
    · rfl
  | field hd hkind =>
    obtain rfl : kind = .maxLength := hkind
    simp only [auditDirectives, List.mem_append, List.mem_singleton] at hd
    rcases hd with hd | hd
    · split_ifs at hd
      · exact List.mem_singleton.mp hd
      · simp at hd
    · cases hd

theorem takesDefault_text (length : Value) : TakesDefault length ⟨.maxLength, length⟩ :=
  @TakesDefault.field length ⟨"string", "Name"⟩ _ List.mem_cons_self rfl

/-- A positive default length is called as such unless it is a truth value. -/
theorem isLengthCall_iff {v : Value} (h : v.isPositiveInt = true) :
    CSharp.IsLengthCall (".HasMaxLength(" ++ v.display ++ ")") ↔ v ≠ .bool true := by
  cases v with
  | bool b =>
    obtain rfl : b = true := h
    refine iff_of_false ?_ (not_not.mpr rfl)
    rintro ⟨n, ds, -, hds, hcall⟩
    simp only [← String.toList_inj, String.toList_append, String.toList_ofList,
      List.append_left_inj, List.append_right_inj] at hcall
    -- The text of a truth value does not spell any number.
    have hnone : CSharp.natural? (Value.bool true).display.toList = none := rfl
    rw [hcall, hds] at hnone
    cases hnone
  | int n =>
    refine iff_of_true ?_ nofun
    obtain ⟨m, rfl⟩ := Int.eq_ofNat_of_zero_le (Int.le_of_lt (of_decide_eq_true h))
    refine ⟨m, Nat.toDigits 10 m, ?_, CSharp.natural?_eq_some_iff.mpr rfl, ?_⟩
    · exact Int.natCast_pos.mp (of_decide_eq_true h)
    · rw [← CSharp.toList_intText_ofNat, String.ofList_toList]
      rfl
  | null | float | text | list | object => cases h

/-! ### What is generated -/

variable {g : Generator}

/-- Settings without warnings name the shared base with an identifier, and an entity whose name is
an identifier gets a configuration whose name is another one, unless the suffix is hollow.  Greatest
lengths that come from the default are called with a positive number, unless the default is a truth
value. -/
theorem wellFormed_of_check (hcheck : g.settings.check = .ok []) :
    (∃ base, g.baseName = .text base ∧ isIdentifier base = true
        ∧ ∀ lines space a, g.baseArtifact lines space = .ok a → a.name = .text base)
      ∧ (∀ entity : EntityType, isIdentifier entity.name = true →
        (isIdentifier (g.entityArtifactName entity.name) = true
          ↔ ¬g.settings.entitySuffix.IsHollow)
        ∧ ∀ space eligible baseSpace a, g.entityArtifact entity space eligible baseSpace = .ok a →
          a.name = .text (g.entityArtifactName entity.name))
      ∧ ((∀ d, TakesDefault g.settings.defaultStringLength d →
          ∃ call, CSharp.call d = .ok call ∧ CSharp.IsLengthCall call)
        ↔ g.settings.defaultStringLength ≠ .bool true) := by
  obtain ⟨hbase, hsuffix, -, hlength⟩ := Settings.check_eq_ok_nil_iff.mp hcheck
  refine ⟨?_, fun entity hname => ⟨?_, ?_⟩, ?_⟩
  · obtain ⟨base, hname, hident⟩ := Value.isIdentifier_eq_ok_true_iff.mp hbase
    refine ⟨base, hname, hident, fun lines space a ha => ?_⟩
    obtain ⟨fields, -, htext⟩ := bind_eq_ok.mp ha
    obtain ⟨text, -, hkey⟩ := bind_eq_ok.mp htext
    rw [Generator.baseName, hname] at hkey
    cases hkey
    rfl
  · rw [Generator.entityArtifactName, Settings.entityArtifactName, isIdentifier_append hname]
    exact isIdentContinue_display_iff hsuffix
  · intro space eligible baseSpace a ha
    obtain ⟨text, -, htext⟩ := bind_eq_ok.mp ha
    cases htext
    rfl
  · rw [← isLengthCall_iff hlength]
    constructor
    · intro h
      obtain ⟨call, hcall, hform⟩ := h _ (takesDefault_text _)
      cases hcall
      exact hform
    · intro h d hd
      obtain rfl := hd.eq
      exact ⟨_, rfl, h⟩

/-- Settings are checked without warnings if only the suffix and the default length are not those of
new settings, and nothing is wrong with these two. -/
theorem Settings.check_of_suffix_length {suffix length : Value}
    (hsuffix : suffix.truthy = true → suffix.isIdentifier = .ok true)
    (hlength : length.isPositiveInt = true) :
    Settings.check { entitySuffix := suffix, defaultStringLength := length } = .ok [] := by
  have hbase : isIdentifier "AuditEntityConfiguration" = true := by decide +kernel
  exact check_eq_ok_nil_iff.mpr ⟨congrArg Except.ok hbase, hsuffix, rfl, hlength⟩

/-- With a suffix and a length of their own, names and lengths are well-formed. -/
theorem wellFormed_of_check_map :
    isIdentifier ((Generator.bundled .csharp
        { entitySuffix := .text "Map", defaultStringLength := .int 40 }).entityArtifactName "User")
      = true
      ∧ ∃ call, CSharp.call ⟨.maxLength, .int 40⟩ = .ok call ∧ CSharp.IsLengthCall call := by
  have hsuffix : isIdentifier "Map" = true := by decide +kernel
  have hname : isIdentifier "User" = true := by decide +kernel
  have hcheck : Settings.check { entitySuffix := .text "Map", defaultStringLength := .int 40 }
      = .ok [] :=
    Settings.check_of_suffix_length (fun _ => congrArg Except.ok hsuffix) rfl
  obtain ⟨-, hentity, hlengths⟩ :=
    @wellFormed_of_check (.bundled .csharp
      { entitySuffix := .text "Map", defaultStringLength := .int 40 }) hcheck
  exact ⟨(hentity ⟨"User", some "", []⟩ hname).1.mpr id,
    hlengths.mpr nofun _ (takesDefault_text (.int 40))⟩

/-- An empty list as the suffix and a truth value as the default length give no warnings either. -/
theorem check_passes_illFormed :
    (Settings.check { entitySuffix := .list [] } = .ok []
        ∧ (Generator.bundled .csharp { entitySuffix := .list [] }).entityArtifactName "User"
          = "User[]"
        ∧ isIdentifier "User" = true ∧ isIdentifier "User[]" = false)
      ∧ Settings.check { defaultStringLength := .bool true } = .ok []
      ∧ (resolveDirectives ⟨some "Name", .string, [], "", true, false⟩ (.bool true)).head?
        = some ⟨.maxLength, .bool true⟩
      ∧ CSharp.call ⟨.maxLength, .bool true⟩ = .ok ".HasMaxLength(True)"
      ∧ ¬CSharp.IsLengthCall ".HasMaxLength(True)" := by
  have hsuffix : isIdentifier "CommonConfiguration" = true := by decide +kernel
  refine ⟨⟨?_, rfl, by decide +kernel, by decide +kernel⟩, ?_, rfl, rfl, ?_⟩
  · exact Settings.check_of_suffix_length nofun rfl
  · exact Settings.check_of_suffix_length (fun _ => congrArg Except.ok hsuffix) rfl
  · exact fun h => (@isLengthCall_iff (.bool true) rfl).mp h rfl

end EntityMapping
