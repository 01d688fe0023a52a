/-!
# Texts cut into pieces

A text is cut at every occurrence of a separator character; putting the separator back between the
pieces gives the text again.
-/

namespace EntityMapping.Text

/-- The pieces between the occurrences of `sep`; a text without it is one piece. -/
def cut (sep : Char) : List Char → List (List Char)
  | [] => [[]]
  | c :: r =>
    if c = sep then [] :: cut sep r
    else
      match cut sep r with
      | [] => [[c]]
      | p :: ps => (c :: p) :: ps

/-- The pieces with `sep` between neighbours. -/
def joined (sep : List Char) : List (List Char) → List Char
  | [] => []
  | [p] => p
  | p :: q :: ps => p ++ sep ++ joined sep (q :: ps)

/-- What follows the last occurrence of `sep`, or the whole text. -/
def afterLast (sep : Char) (s : List Char) : List Char :=
  (s.reverse.takeWhile (· ≠ sep)).reverse

/-- The pieces of a string. -/
def pieces (sep : Char) (s : String) : List String := (cut sep s.toList).map String.ofList

theorem cut_ne_nil (sep : Char) (s : List Char) : cut sep s ≠ [] := by
  induction s with
  | nil => simp [cut]
  | cons c r ih =>
    simp only [cut]
    split
    · simp
    · split <;> simp

/-- Cutting loses nothing. -/
theorem joined_cut (sep : Char) (s : List Char) : joined [sep] (cut sep s) = s := by
  induction s with
  | nil => rfl
  | cons c r ih =>
    simp only [cut]
    cases h : cut sep r with
    | nil => exact absurd h (cut_ne_nil sep r)
    | cons p ps =>
      rw [h] at ih
      split
      · rename_i hc
        rw [joined]
        simp [ih, hc]
      · cases ps with
        | nil => simp_all [joined]
        | cons q qs => simp_all [joined]

end EntityMapping.Text
