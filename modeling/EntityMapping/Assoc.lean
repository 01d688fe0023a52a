/-!
# Association lists

Lists of keys with values, in the order in which the keys were first set.
-/

namespace EntityMapping.Assoc

variable {α β : Type} [DecidableEq α]

/-- The value of a key. -/
def get? (k : α) (l : List (α × β)) : Option β := l.lookup k

/-- Whether a key is there. -/
def has (k : α) (l : List (α × β)) : Bool := (get? k l).isSome

/-- Sets the value of a key: a key that is there keeps its place, a new one comes last. -/
def set (k : α) (v : β) : List (α × β) → List (α × β)
  | [] => [(k, v)]
  | (j, w) :: r => if j = k then (j, v) :: r else (j, w) :: set k v r

/-- Removes a key. -/
def erase (k : α) (l : List (α × β)) : List (α × β) := l.filter fun f => f.1 ≠ k

@[simp] theorem get?_empty (k : α) : get? k ([] : List (α × β)) = none := rfl

theorem get?_cons (k j : α) (w : β) (r : List (α × β)) :
    get? k ((j, w) :: r) = if j = k then some w else get? k r := by
  by_cases h : j = k
  · simp [get?, h]
  · have h' : ¬k = j := fun e => h e.symm
    simp [get?, h, List.lookup_cons, beq_eq_false_iff_ne.2 h']

@[simp] theorem get?_set_same (k : α) (v : β) (l : List (α × β)) : get? k (set k v l) = some v := by
  induction l with
  | nil => simp [set, get?_cons]
  | cons f r ih =>
    obtain ⟨j, w⟩ := f
    by_cases h : j = k
    · simp [set, h, get?_cons]
    · simp [set, h, get?_cons, ih]

theorem get?_set_of_ne {k j : α} (v : β) (l : List (α × β)) (h : j ≠ k) :
    get? j (set k v l) = get? j l := by
  have h' : ¬k = j := fun e => h e.symm
  induction l with
  | nil => simp [set, get?_cons, h']
  | cons f r ih =>
    obtain ⟨i, w⟩ := f
    by_cases hi : i = k
    · simp [set, hi, get?_cons, h']
    · simp [set, hi, get?_cons, ih]

@[simp] theorem get?_erase_same (k : α) (l : List (α × β)) : get? k (erase k l) = none := by
  induction l with
  | nil => rfl
  | cons f r ih =>
    obtain ⟨j, w⟩ := f
    by_cases h : j = k
    · simpa [erase, h] using ih
    · simpa [erase, h, get?_cons] using ih

theorem get?_erase_of_ne {k j : α} (l : List (α × β)) (h : j ≠ k) :
    get? j (erase k l) = get? j l := by
  induction l with
  | nil => rfl
  | cons f r ih =>
    obtain ⟨i, w⟩ := f
    by_cases hi : i = k
    · have h' : ¬k = j := fun e => h e.symm
      simpa [erase, hi, get?_cons, h'] using ih
    · simpa [erase, hi, get?_cons] using congrArg (fun o => if i = j then some w else o) ih

end EntityMapping.Assoc
