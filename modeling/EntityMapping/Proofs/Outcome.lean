import EntityMapping.Failure
import Mathlib.Data.List.Forall2

/-!
# Outcomes of chained uses

When a chain of uses that may fail gives a result, every use in it gave one.  The causes of one part
of the program are carried over into `Failure`; that changes no result.

A use may also keep a state, which it leaves behind when it fails; a chain of such uses goes on from
the state that the last one left (`run_bind`).
-/

namespace EntityMapping

variable {ε ε' α β : Type}

theorem exists_eq_ok {x : Except ε α} (h : x.toOption.isSome = true) : ∃ a, x = .ok a := by
  cases x with
  | error e => cases h
  | ok a => exact ⟨a, rfl⟩

theorem bind_eq_ok {x : Except ε α} {f : α → Except ε β} {b : β} :
    (x >>= f) = .ok b ↔ ∃ a, x = .ok a ∧ f a = .ok b := by
  cases x with
  | error e => simp [bind, Except.bind]
  | ok a => simp [bind, Except.bind]

theorem bind_eq_error {x : Except ε α} {f : α → Except ε β} {e : ε} :
    (x >>= f) = .error e ↔ x = .error e ∨ ∃ a, x = .ok a ∧ f a = .error e := by
  cases x with
  | error e => simp [bind, Except.bind]
  | ok a => simp [bind, Except.bind]

theorem exists_bind_eq_error {x : Except ε α} {f : α → Except ε β} :
    (∃ e, (x >>= f) = .error e)
      ↔ (∃ e, x = .error e) ∨ (∃ a, x = .ok a ∧ ∃ e, f a = .error e) := by
  simp only [bind_eq_error, exists_or]
  refine or_congr_right ⟨?_, ?_⟩
  · rintro ⟨e, a, ha, he⟩
    exact ⟨a, ha, e, he⟩
  · rintro ⟨a, ha, e, he⟩
    exact ⟨e, a, ha, he⟩

theorem exists_eq_ok_iff {x : Except ε α} : (∃ a, x = .ok a) ↔ ¬∃ e, x = .error e := by
  cases x <;> simp

theorem pure_eq_ok {a b : α} : (pure a : Except ε α) = .ok b ↔ a = b := by
  simp [pure, Except.pure]

theorem pure_ne_error {a : α} {e : ε} : (pure a : Except ε α) ≠ .error e := by
  simp [pure, Except.pure]

theorem mapError_eq_ok {f : ε → ε'} {x : Except ε α} {a : α} :
    x.mapError f = .ok a ↔ x = .ok a := by
  cases x <;> simp [Except.mapError]

theorem liftM_fault_eq_ok {x : Except Fault α} {a : α} :
    (liftM x : Except Failure α) = .ok a ↔ x = .ok a := mapError_eq_ok

theorem liftM_generatorError_eq_ok {x : Except GeneratorError α} {a : α} :
    (liftM x : Except Failure α) = .ok a ↔ x = .ok a := mapError_eq_ok

theorem exists_of_mapError_eq_error {f : ε → ε'} {x : Except ε α} {e : ε'}
    (h : x.mapError f = .error e) : ∃ e₀, x = .error e₀ ∧ e = f e₀ := by
  cases x with
  | error e₀ => exact ⟨e₀, rfl, (Except.error.inj h).symm⟩
  | ok a => cases h

/-- Uses of the items of a list give results just if each use does. -/
theorem mapM_eq_ok {f : α → Except ε β} {l : List α} {bs : List β} :
    l.mapM f = .ok bs ↔ List.Forall₂ (fun a b => f a = .ok b) l bs := by
  induction l generalizing bs with
  | nil =>
    rw [List.mapM_nil, pure_eq_ok, List.forall₂_nil_left_iff]
    exact eq_comm
  | cons a r ih =>
    simp only [List.mapM_cons, bind_eq_ok, pure_eq_ok, List.forall₂_cons_left_iff]
    constructor
    · rintro ⟨b, hb, bs', hbs, rfl⟩
      exact ⟨b, bs', hb, ih.mp hbs, rfl⟩
    · rintro ⟨b, bs', hb, hbs, rfl⟩
      exact ⟨b, hb, bs', ih.mpr hbs, rfl⟩

/-- What stands on the right in related lists has something on the left. -/
theorem exists_of_mem_right {R : α → β → Prop} {l : List α} {m : List β} {b : β}
    (h : List.Forall₂ R l m) (hb : b ∈ m) : ∃ a ∈ l, R a b := by
  induction h with
  | nil => cases hb
  | cons hab _ ih =>
    rcases List.mem_cons.mp hb with rfl | hb
    · exact ⟨_, List.mem_cons_self, hab⟩
    · obtain ⟨a, ha, hab⟩ := ih hb
      exact ⟨a, List.mem_cons_of_mem _ ha, hab⟩

theorem exists_mapM_eq_ok {f : α → Except ε β} {l : List α} (h : ∀ a ∈ l, ∃ b, f a = .ok b) :
    ∃ bs, l.mapM f = .ok bs := by
  induction l with
  | nil => exact ⟨[], rfl⟩
  | cons a r ih =>
    obtain ⟨b, hb⟩ := h a List.mem_cons_self
    obtain ⟨bs, hbs⟩ := ih fun c hc => h c (List.mem_cons_of_mem _ hc)
    exact ⟨b :: bs, by rw [List.mapM_cons, hb, hbs]; rfl⟩

/-- Uses of the items of a list fail as the first one that fails. -/
theorem mapM_eq_error {f : α → Except ε β} {l : List α} {e : ε} :
    l.mapM f = .error e
      ↔ ∃ before a after, l = before ++ a :: after ∧ (∀ b ∈ before, ∃ c, f b = .ok c)
        ∧ f a = .error e := by
  induction l with
  | nil =>
    rw [List.mapM_nil]
    refine iff_of_false pure_ne_error ?_
    rintro ⟨before, a, after, h, -⟩
    exact List.append_ne_nil_of_right_ne_nil before (List.cons_ne_nil a after) h.symm
  | cons a r ih =>
    rw [List.mapM_cons, bind_eq_error]
    simp only [bind_eq_error, ih, pure_ne_error, and_false, exists_false, or_false]
    constructor
    · rintro (ha | ⟨b, hb, before, c, after, rfl, hbefore, hc⟩)
      · exact ⟨[], a, r, rfl, List.forall_mem_nil _, ha⟩
      · exact ⟨a :: before, c, after, rfl, List.forall_mem_cons.mpr ⟨⟨b, hb⟩, hbefore⟩, hc⟩
    · rintro ⟨before, c, after, h, hbefore, hc⟩
      cases before with
      | nil =>
        obtain ⟨rfl, -⟩ := List.cons.inj h
        exact Or.inl hc
      | cons d before =>
        obtain ⟨rfl, rfl⟩ := List.cons.inj h
        obtain ⟨⟨b, hb⟩, hbefore⟩ := List.forall_mem_cons.mp hbefore
        exact Or.inr ⟨b, hb, before, c, after, rfl, hbefore, hc⟩

/-- Several outcomes give results just if each is one. -/
theorem sequence_eq_ok {l : List (Except ε α)} {as : List α} :
    l.mapM id = .ok as ↔ l = as.map .ok := by
  rw [mapM_eq_ok]
  constructor
  · intro h
    induction h with
    | nil => rfl
    | cons ha _ ih => rw [List.map_cons, ← ih, ← ha, id]
  · rintro rfl
    rw [List.forall₂_map_left_iff, List.forall₂_same]
    intro a _
    rfl

/-- Of several outcomes the first failure counts. -/
theorem sequence_error (as : List α) (e : ε) (r : List (Except ε α)) :
    (as.map Except.ok ++ Except.error e :: r).mapM (id : Except ε α → Except ε α) = .error e := by
  induction as with
  | nil => rfl
  | cons a as ih =>
    rw [List.map_cons, List.cons_append, List.mapM_cons, ih]
    rfl

/-! ### Uses that keep a state -/

section State

variable {σ : Type} {m : ExceptT ε (StateM σ) α} {f : α → ExceptT ε (StateM σ) β} {s s' : σ}

theorem run_pure (a : α) (s : σ) : (pure a : ExceptT ε (StateM σ) α).run s = (.ok a, s) := rfl

theorem run_throw (e : ε) (s : σ) : (throw e : ExceptT ε (StateM σ) α).run s = (.error e, s) := rfl

theorem run_bind (m : ExceptT ε (StateM σ) α) (f : α → ExceptT ε (StateM σ) β) (s : σ) :
    (m >>= f).run s = match m.run s with
      | (.ok a, s') => (f a).run s'
      | (.error e, s') => (.error e, s') := by
  have h : (m >>= f).run s = (ExceptT.bindCont f (m.run s).1).run (m.run s).2 := rfl
  rw [h]
  rcases m.run s with ⟨_ | _, _⟩ <;> rfl

theorem run_bind_of_ok {a : α} (h : m.run s = (.ok a, s')) : (m >>= f).run s = (f a).run s' := by
  rw [run_bind, h]

theorem run_bind_of_error {e : ε} (h : m.run s = (.error e, s')) :
    (m >>= f).run s = (.error e, s') := by
  rw [run_bind, h]

theorem run_bind_eq_ok {b : β} :
    (m >>= f).run s = (.ok b, s') ↔ ∃ a t, m.run s = (.ok a, t) ∧ (f a).run t = (.ok b, s') := by
  constructor
  · intro h
    rcases hm : m.run s with ⟨e | a, t⟩
    · rw [run_bind_of_error hm] at h
      cases h
    · rw [run_bind_of_ok hm] at h
      exact ⟨a, t, rfl, h⟩
  · rintro ⟨a, t, hm, h⟩
    rw [run_bind_of_ok hm, h]

theorem run_bind_eq_error {e : ε} :
    (m >>= f).run s = (.error e, s')
      ↔ m.run s = (.error e, s') ∨ ∃ a t, m.run s = (.ok a, t) ∧ (f a).run t = (.error e, s') := by
  constructor
  · intro h
    rcases hm : m.run s with ⟨e' | a, t⟩
    · rw [run_bind_of_error hm] at h
      cases h
      exact Or.inl rfl
    · rw [run_bind_of_ok hm] at h
      exact Or.inr ⟨a, t, rfl, h⟩
  · rintro (hm | ⟨a, t, hm, h⟩)
    · exact run_bind_of_error hm
    · rw [run_bind_of_ok hm, h]

end State

end EntityMapping
