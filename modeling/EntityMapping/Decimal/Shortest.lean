import EntityMapping.Decimal.Binary64

/-!
# Shortest digits

The fewest decimal digits that read back as a given positive number `m · 2 ^ q`.  The decimals that
read back fill an interval around the number, whose ends belong to it iff `m` is even.  On the grid
of decimals with a given number of digits only the two neighbours of the number matter: if any point
of the grid lies in the interval, one of them does.  The first grid with such a point gives the
digits; of two points the nearer one counts.
-/

namespace EntityMapping.Decimal

/-- The number `digits · 10 ^ exponent`. -/
structure Digits where
  /-- The significant digits. -/
  digits : Nat
  /-- The power of ten they are multiplied with. -/
  exponent : Int
deriving DecidableEq, Repr

/-- A positive number and the interval of what reads back as it, as numerators over `den`. -/
structure Neighbourhood where
  /-- The common denominator. -/
  den : Nat
  /-- The numerator of the lower end. -/
  low : Nat
  /-- The numerator of the number. -/
  mid : Nat
  /-- The numerator of the upper end. -/
  high : Nat
  /-- Whether the ends belong to the interval. -/
  closed : Bool

/-- The neighbourhood of `m · 2 ^ q`.  Below a power of two the next number is twice as near. -/
def neighbourhood (m : Nat) (q : Int) : Neighbourhood :=
  let below := if m = twoTo 52 ∧ leastExponent < q then 1 else 2
  let up := twoTo q.toNat
  { den := 4 * twoTo (-q).toNat
    low := (4 * m - below) * up
    mid := 4 * m * up
    high := (4 * m + 2) * up
    closed := m % 2 == 0 }

/-- Whether `c · 10 ^ k` lies in the interval. -/
def Neighbourhood.holds (v : Neighbourhood) (c : Nat) (k : Int) : Bool :=
  let point := c * tenTo k.toNat * v.den
  let unit := tenTo (-k).toNat
  if v.closed then v.low * unit ≤ point && point ≤ v.high * unit
  else v.low * unit < point && point < v.high * unit

/-- The decimal exponent of the number: `10 ^ e ≤ number < 10 ^ (e + 1)`. -/
def Neighbourhood.magnitude (v : Neighbourhood) : Int :=
  let e : Int := (Binary64.digitCount v.mid : Int) - Binary64.digitCount v.den
  if v.den * tenTo e.toNat ≤ v.mid * tenTo (-e).toNat then e else e - 1

/-- The point of the grid of `10 ^ k` that reads back, if there is one. -/
def Neighbourhood.onGrid (v : Neighbourhood) (k : Int) : Option Digits :=
  let num := v.mid * tenTo (-k).toNat
  let den := v.den * tenTo k.toNat
  let c := num / den
  let twice := 2 * (num % den)
  let down := v.holds c k
  let up := v.holds (c + 1) k
  if down ∧ (¬up ∨ twice < den ∨ (twice = den ∧ c % 2 = 0)) then some ⟨c, k⟩
  else if up then some ⟨c + 1, k⟩
  else none

/-- Removes zeros at the end of the digits, at most `fuel` of them. -/
def Digits.stripZeros : Nat → Digits → Digits
  | 0, d => d
  | fuel + 1, d =>
    if d.digits ≠ 0 ∧ d.digits % 10 = 0 then stripZeros fuel ⟨d.digits / 10, d.exponent + 1⟩ else d

/-- The fewest digits that read back as `m · 2 ^ q`, for `0 < m`.  Seventeen always do. -/
def shortest (m : Nat) (q : Int) : Digits :=
  let v := neighbourhood m q
  let e := v.magnitude
  let grids := (List.range 17).map fun (p : Nat) => e - (p : Int)
  match grids.findSome? v.onGrid with
  | some d => d.stripZeros 17
  | none => ⟨m, 0⟩

end EntityMapping.Decimal
