import EntityMapping.Json.Reader
import EntityMapping.Proofs.Value.Fields

/-!
# What reading a document can give

A value that was read is a scalar or empty, or it was put together from items or fields that were
read: `readValue_eq_ok`, `readItems_eq_ok` and `readFields_eq_ok` take a successful reading apart.
By induction on the fuel all keys are texts, and no object repeats one
(`isDocument_of_read`).
-/

namespace EntityMapping.Json

open Text

variable {room fuel : Nat} {s rest : List Char}

/-- Nothing is inside a value, and it is no object with fields. -/
def IsBare (v : Value) : Prop := v.parts = [] ∧ ∀ fields, v = .object fields → fields = []

theorem IsBare.isDocument {v : Value} (h : IsBare v) : v.IsDocument :=
  Value.isDocument_of_parts_eq_nil h.1 fun fields hv => h.2 fields hv ▸ Fields.named_nil

theorem isBare_of_mem_words {w : String × Value} (h : w ∈ words) : IsBare w.2 := by
  simp only [words, List.mem_cons, List.not_mem_nil, or_false] at h
  rcases h with rfl | rfl | rfl | rfl | rfl | rfl <;>
    exact ⟨rfl, fun fields hv => by cases hv⟩

theorem isBare_of_readWord? {found : Value × List Char} (h : readWord? s = some found) :
    IsBare found.1 := by
  obtain ⟨w, hw, hfound⟩ := List.exists_of_findSome?_eq_some h
  dsimp only at hfound
  split at hfound
  · obtain rfl := Option.some.inj hfound
    exact isBare_of_mem_words hw
  · cases hfound

/-- A number is a whole number or a binary64 number. -/
theorem isBare_of_readNumber {v : Value} (h : readNumber s = .ok (v, rest)) : IsBare v := by
  have hint (n : Int) : IsBare (.int n) := ⟨rfl, fun fields hv => by cases hv⟩
  have hfloat (x : Decimal.Binary64) : IsBare (.float x) := ⟨rfl, fun fields hv => by cases hv⟩
  unfold readNumber at h
  dsimp only at h
  split at h
  · cases h
  · split at h
    · split at h
      · cases h
      · obtain ⟨rfl, -⟩ := Prod.mk.inj (Except.ok.inj h)
        exact hint _
    · obtain ⟨rfl, -⟩ := Prod.mk.inj (Except.ok.inj h)
      exact hfloat _

/-- A value that was read is bare, or was put together from items or fields that were read. -/
theorem readValue_eq_ok {v : Value} (h : readValue room (fuel + 1) s = .ok (v, rest)) :
    IsBare v
      ∨ (∃ inner r items, v = .list items ∧ readItems inner fuel r = .ok (items, rest))
      ∨ ∃ inner r fields, v = .object (Fields.ofPairs fields)
          ∧ readFields inner fuel r = .ok (fields, rest) := by
  unfold readValue at h
  split at h
  · split at h
    · obtain ⟨rfl, -⟩ := Prod.mk.inj (Except.ok.inj h)
      exact Or.inl ⟨rfl, fun fields hv => by cases hv⟩
    · cases h
  · split at h
    · cases h
    · split at h
      · obtain ⟨rfl, -⟩ := Prod.mk.inj (Except.ok.inj h)
        exact Or.inl ⟨rfl, fun fields hv => by cases hv⟩
      · split at h
        · rename_i items _ hitems
          obtain ⟨rfl, rfl⟩ := Prod.mk.inj (Except.ok.inj h)
          exact Or.inr (Or.inl ⟨_, _, items, rfl, hitems⟩)
        · cases h
  · split at h
    · cases h
    · split at h
      · obtain ⟨rfl, -⟩ := Prod.mk.inj (Except.ok.inj h)
        exact Or.inl ⟨rfl, fun fields hv => (Value.object.inj hv).symm⟩
      · split at h
        · rename_i fields _ hfields
          obtain ⟨rfl, rfl⟩ := Prod.mk.inj (Except.ok.inj h)
          exact Or.inr (Or.inr ⟨_, _, fields, rfl, hfields⟩)
        · cases h
  · split at h
    · rename_i found hword
      obtain rfl := Except.ok.inj h
      exact Or.inl (isBare_of_readWord? hword)
    · exact Or.inl (isBare_of_readNumber h)

/-- Items that were read are a value that was read, and the items after it. -/
theorem readItems_eq_ok {vs : List Value} (h : readItems room (fuel + 1) s = .ok (vs, rest)) :
    ∃ v mid tail, readValue room fuel s = .ok (v, mid) ∧ vs = v :: tail
      ∧ (tail = [] ∨ ∃ r, readItems room fuel r = .ok (tail, rest)) := by
  unfold readItems at h
  split at h
  · cases h
  · rename_i v mid hv
    split at h
    · obtain ⟨rfl, -⟩ := Prod.mk.inj (Except.ok.inj h)
      exact ⟨v, mid, [], hv, rfl, Or.inl rfl⟩
    · split at h
      · rename_i tail _ htail
        obtain ⟨rfl, rfl⟩ := Prod.mk.inj (Except.ok.inj h)
        exact ⟨v, mid, tail, hv, rfl, Or.inr ⟨_, htail⟩⟩
      · cases h
    · cases h

/-- Fields that were read are a text key with a value that was read, and the fields after it. -/
theorem readFields_eq_ok {fs : List (Key × Value)}
    (h : readFields room (fuel + 1) s = .ok (fs, rest)) :
    ∃ name v r mid tail, readValue room fuel r = .ok (v, mid) ∧ fs = (.text name, v) :: tail
      ∧ (tail = [] ∨ ∃ r, readFields room fuel r = .ok (tail, rest)) := by
  unfold readFields at h
  split at h
  · split at h
    · cases h
    · split at h
      · split at h
        · cases h
        · rename_i v mid hv
          dsimp only at h
          split at h
          · obtain ⟨rfl, -⟩ := Prod.mk.inj (Except.ok.inj h)
            exact ⟨_, v, _, mid, [], hv, rfl, Or.inl rfl⟩
          · split at h
            · rename_i tail _ htail
              obtain ⟨rfl, rfl⟩ := Prod.mk.inj (Except.ok.inj h)
              exact ⟨_, v, _, mid, tail, hv, rfl, Or.inr ⟨_, htail⟩⟩
            · cases h
          · cases h
      · cases h
  · cases h

private theorem isDocument_of_fuel (fuel : Nat) :
    (∀ {room s v rest}, readValue room fuel s = .ok (v, rest) → v.IsDocument)
      ∧ (∀ {room s vs rest}, readItems room fuel s = .ok (vs, rest) → ∀ v ∈ vs, v.IsDocument)
      ∧ ∀ {room s fs rest}, readFields room fuel s = .ok (fs, rest) →
          ∀ f ∈ fs, (∃ name, f.1 = .text name) ∧ f.2.IsDocument := by
  induction fuel with
  | zero =>
    refine ⟨fun h => ?_, fun h => ?_, fun h => ?_⟩ <;>
      simp [readValue, readItems, readFields] at h
  | succ fuel ih =>
    obtain ⟨ihValue, ihItems, ihFields⟩ := ih
    refine ⟨fun h => ?_, fun h => ?_, fun h => ?_⟩
    · rcases readValue_eq_ok h with
        hbare | ⟨_, _, items, rfl, hitems⟩ | ⟨_, _, fields, rfl, hfields⟩
      · exact hbare.isDocument
      · exact Value.isDocument_list (ihItems hitems)
      · have hread := ihFields hfields
        have htext : ∀ k ∈ Fields.keys fields, ∃ name, k = Key.text name := by
          intro k hk
          obtain ⟨f, hf, rfl⟩ := List.mem_map.mp hk
          exact (hread f hf).1
        refine Value.isDocument_object (Fields.named_ofPairs htext) fun f hf => ?_
        rcases Fields.mem_of_mem_update htext hf with hnil | hmem
        · cases hnil
        · exact (hread f hmem).2
    · obtain ⟨v, _, tail, hv, rfl, htail⟩ := readItems_eq_ok h
      rw [List.forall_mem_cons]
      refine ⟨ihValue hv, ?_⟩
      rcases htail with rfl | ⟨_, htail⟩
      · simp
      · exact ihItems htail
    · obtain ⟨name, v, _, _, tail, hv, rfl, htail⟩ := readFields_eq_ok h
      rw [List.forall_mem_cons]
      refine ⟨⟨⟨name, rfl⟩, ihValue hv⟩, ?_⟩
      rcases htail with rfl | ⟨_, htail⟩
      · simp
      · exact ihFields htail

/-- The keys in a document are texts, and no object repeats one. -/
theorem isDocument_of_read {v : Value} (h : read s = .ok v) : v.IsDocument := by
  unfold read at h
  split at h
  · cases h
  · split at h
    · cases h
    · rename_i hv
      split at h
      · obtain rfl := Except.ok.inj h
        exact (isDocument_of_fuel _).1 hv
      · cases h

end EntityMapping.Json
