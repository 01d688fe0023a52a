import EntityMapping.Value.Basic
import Mathlib.Data.List.Nodup

/-!
# Values inside values

Lists and objects hold further values.  What is proved of a value whenever it holds of the values
directly inside it holds of all values (`Value.partsInduction`); a property may also be asked of a
value together with everything inside it (`Value.Everywhere`).

## Main definitions

* `Value.parts` — the values directly inside a value.
* `Value.Everywhere` — a property of a value and of everything inside it.
* `Fields.Named` — the keys are texts, and none repeats.
* `Value.IsDocument`, `Value.IsPlain` — values as documents hold them, and those without binary64
  numbers.
-/

namespace EntityMapping

/-- The keys of an object, in order. -/
def Fields.keys (fs : Fields) : List Key := fs.map Prod.fst

/-- The keys of an object are texts, and none repeats. -/
structure Fields.Named (fs : Fields) : Prop where
  text : ∀ k ∈ Fields.keys fs, ∃ s, k = .text s
  nodup : (Fields.keys fs).Nodup

theorem Fields.named_nil : Fields.Named [] := ⟨by simp [Fields.keys], List.nodup_nil⟩

theorem Fields.Named.of_cons {f : Key × Value} {fs : Fields} (h : Fields.Named (f :: fs)) :
    Fields.Named fs where
  text k hk := h.text k (List.mem_cons_of_mem _ hk)
  nodup := h.nodup.of_cons

namespace Value

/-- The values directly inside a value: the items of a list, and the values of an object's
fields. -/
def parts : Value → List Value
  | .list items => items
  | .object fields => fields.map Prod.snd
  | _ => []

theorem sizeOf_lt_of_mem_parts {v w : Value} (h : w ∈ v.parts) : sizeOf w < sizeOf v := by
  cases v with
  | list items =>
    have hlt : sizeOf w < sizeOf items := List.sizeOf_lt_of_mem h
    simp only [Value.list.sizeOf_spec]
    omega
  | object fields =>
    obtain ⟨⟨k, w'⟩, hmem, rfl⟩ := List.mem_map.mp h
    have hlt : sizeOf (k, w') < sizeOf fields := List.sizeOf_lt_of_mem hmem
    simp only [Value.object.sizeOf_spec, Prod.mk.sizeOf_spec] at hlt ⊢
    omega
  | _ => cases h

/-- What holds of each value that has it everywhere directly inside holds of all values. -/
@[elab_as_elim]
theorem partsInduction {motive : Value → Prop} (v : Value)
    (parts : ∀ v : Value, (∀ w ∈ v.parts, motive w) → motive v) : motive v :=
  parts v fun w _ => partsInduction w parts
termination_by sizeOf v
decreasing_by exact sizeOf_lt_of_mem_parts ‹_›

/-- A property holds of a value and of everything inside it. -/
inductive Everywhere (P : Value → Prop) : Value → Prop
  | intro {v : Value} (here : P v) (inside : ∀ w ∈ v.parts, Everywhere P w) : Everywhere P v

namespace Everywhere

variable {P Q : Value → Prop} {v w : Value}

theorem here (h : Everywhere P v) : P v := by
  cases h
  assumption

theorem inside (h : Everywhere P v) (hw : w ∈ v.parts) : Everywhere P w := by
  cases h with
  | intro _ hinside => exact hinside w hw

theorem mono (hPQ : ∀ v, P v → Q v) (h : Everywhere P v) : Everywhere Q v := by
  induction h with
  | intro hhere _ ih => exact .intro (hPQ _ hhere) ih

end Everywhere

/-- A value as a document can hold it: the keys of its objects are texts and do not repeat. -/
def IsDocument : Value → Prop :=
  Everywhere fun v => ∀ fields, v = .object fields → Fields.Named fields

/-- A value of a document without binary64 numbers. -/
def IsPlain : Value → Prop :=
  Everywhere fun v => (∀ x, v ≠ .float x) ∧ ∀ fields, v = .object fields → Fields.Named fields

theorem IsPlain.isDocument {v : Value} (h : v.IsPlain) : v.IsDocument := h.mono fun _ hv => hv.2

theorem isDocument_of_parts_eq_nil {v : Value} (hparts : v.parts = [])
    (hv : ∀ fields, v = .object fields → Fields.Named fields) : v.IsDocument :=
  .intro hv (by simp [hparts])

theorem isDocument_list {items : List Value} (h : ∀ v ∈ items, v.IsDocument) :
    (Value.list items).IsDocument :=
  .intro (fun _ he => by cases he) h

theorem isDocument_object {fields : Fields} (hnamed : Fields.Named fields)
    (h : ∀ f ∈ fields, f.2.IsDocument) : (Value.object fields).IsDocument := by
  refine .intro ?_ ?_
  · rintro _ ⟨rfl⟩
    exact hnamed
  · intro w hw
    obtain ⟨f, hf, rfl⟩ := List.mem_map.mp hw
    exact h f hf

theorem isPlain_of_parts_eq_nil {v : Value} (hparts : v.parts = []) (hfloat : ∀ x, v ≠ .float x)
    (hobject : ∀ fields, v ≠ .object fields) : v.IsPlain :=
  .intro ⟨hfloat, fun fields h => absurd h (hobject fields)⟩ (by simp [hparts])

theorem isPlain_null : Value.null.IsPlain := isPlain_of_parts_eq_nil rfl (by simp) (by simp)

theorem isPlain_bool (b : Bool) : (Value.bool b).IsPlain :=
  isPlain_of_parts_eq_nil rfl (by simp) (by simp)

theorem isPlain_int (n : Int) : (Value.int n).IsPlain :=
  isPlain_of_parts_eq_nil rfl (by simp) (by simp)

theorem isPlain_text (s : String) : (Value.text s).IsPlain :=
  isPlain_of_parts_eq_nil rfl (by simp) (by simp)

theorem isPlain_list {items : List Value} (h : ∀ v ∈ items, v.IsPlain) :
    (Value.list items).IsPlain :=
  .intro ⟨by simp, by simp⟩ h

theorem isPlain_object {fields : Fields} (hnamed : Fields.Named fields)
    (h : ∀ f ∈ fields, f.2.IsPlain) : (Value.object fields).IsPlain := by
  refine .intro ⟨by simp, fun gs hgs => ?_⟩ fun w hw => ?_
  · obtain rfl := Value.object.inj hgs
    exact hnamed
  · obtain ⟨f, hf, rfl⟩ := List.mem_map.mp hw
    exact h f hf

/-! ### Depth -/

theorem depth_le_depthOfItems {v : Value} {items : List Value} (h : v ∈ items) :
    v.depth ≤ depthOfItems items := by
  induction items with
  | nil => cases h
  | cons w r ih =>
    rw [depthOfItems]
    rcases List.mem_cons.mp h with rfl | h
    · exact Nat.le_max_left _ _
    · exact Nat.le_trans (ih h) (Nat.le_max_right _ _)

theorem depth_le_depthOfFields {v : Value} {fields : Fields} (h : v ∈ fields.map Prod.snd) :
    v.depth ≤ depthOfFields fields := by
  induction fields with
  | nil => cases h
  | cons f r ih =>
    obtain ⟨k, w⟩ := f
    rw [depthOfFields]
    rcases List.mem_cons.mp h with rfl | h
    · exact Nat.le_max_left _ _
    · exact Nat.le_trans (ih h) (Nat.le_max_right _ _)

/-- What is inside a value is less deep. -/
theorem depth_lt_of_mem_parts {v w : Value} (h : w ∈ v.parts) : w.depth < v.depth := by
  cases v with
  | list items =>
    rw [depth]
    exact Nat.lt_succ_of_le (depth_le_depthOfItems h)
  | object fields =>
    rw [depth]
    exact Nat.lt_succ_of_le (depth_le_depthOfFields h)
  | _ => cases h

theorem depthOfFields_le {fields : Fields} {n : Nat} (h : ∀ f ∈ fields, f.2.depth ≤ n) :
    depthOfFields fields ≤ n := by
  induction fields with
  | nil => exact Nat.zero_le n
  | cons f r ih =>
    obtain ⟨k, v⟩ := f
    rw [depthOfFields]
    have hrest : depthOfFields r ≤ n := ih fun f hf => h f (List.mem_cons_of_mem _ hf)
    exact Nat.max_le.mpr ⟨h (k, v) List.mem_cons_self, hrest⟩

end Value

end EntityMapping
