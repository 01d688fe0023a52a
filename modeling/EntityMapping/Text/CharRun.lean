/-!
# Runs of characters

A character class is a list of runs of code points.  A run has a first and a last code point and a
step, since in many alphabets upper and lower case alternate.
-/

namespace EntityMapping.Text

/-- The code points `first`, `first + step`, … up to `last`. -/
structure CharRun where
  /-- The least code point of the run. -/
  first : Nat
  /-- No code point of the run is greater. -/
  last : Nat
  /-- The distance of neighbours in the run. -/
  step : Nat
deriving DecidableEq, Repr

/-- Whether a code point belongs to the run. -/
def CharRun.covers (r : CharRun) (n : Nat) : Bool :=
  r.first ≤ n && n ≤ r.last && (n - r.first) % r.step == 0

/-- Whether a character belongs to one of the runs. -/
def inRuns (rs : List CharRun) (c : Char) : Bool :=
  rs.any (·.covers c.toNat)

@[simp] theorem inRuns_nil (c : Char) : inRuns [] c = false := rfl

theorem inRuns_append (rs ts : List CharRun) (c : Char) :
    inRuns (rs ++ ts) c = (inRuns rs c || inRuns ts c) := by
  simp [inRuns]

end EntityMapping.Text
