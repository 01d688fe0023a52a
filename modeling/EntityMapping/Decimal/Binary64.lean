/-!
# Binary64 numbers

Binary floating-point numbers of 64 bits as exact values: a finite number is `± m · 2 ^ q` with
`m < 2 ^ 53` and `q ≥ -1074`, where `m ≥ 2 ^ 52` or `q = -1074`.  A decimal is read as the nearest
number; of two equally near ones, the one with even `m` is taken.  All arithmetic is on `Nat`.
-/

namespace EntityMapping.Decimal

/-- A binary floating-point number of 64 bits. -/
inductive Binary64 where
  /-- No number. -/
  | nan
  /-- What overflows. -/
  | infinite (negative : Bool)
  /-- The number `± m · 2 ^ q`. -/
  | finite (negative : Bool) (m : Nat) (q : Int)
deriving DecidableEq, Repr, Inhabited

/-- The least exponent of two. -/
def leastExponent : Int := -1074

/-- The greatest exponent of two. -/
def greatestExponent : Int := 971

/-- A power of two. -/
def twoTo (n : Nat) : Nat := Nat.pow 2 n

/-- A power of ten. -/
def tenTo (n : Nat) : Nat := Nat.pow 10 n

/-- The quotient `num / den` rounded to the nearest whole number, a tie to the even one. -/
def roundDiv (num den : Nat) : Nat :=
  let low := num / den
  let twice := 2 * (num % den)
  if twice < den ∨ (twice = den ∧ low % 2 = 0) then low else low + 1

/-- The number `num / den · 2 ^ (-q)` as a fraction. -/
def scaleDown (num den : Nat) (q : Int) : Nat × Nat :=
  if 0 ≤ q then (num, den * twoTo q.toNat) else (num * twoTo (-q).toNat, den)

namespace Binary64

/-- The number nearest to `± num / den`, where neither is zero. -/
def ofRatio (negative : Bool) (num den : Nat) : Binary64 :=
  let guess : Int := max leastExponent ((num.log2 : Int) - den.log2 - 53)
  let q : Int :=
    let (a, b) := scaleDown num den guess
    if twoTo 53 * b ≤ a then guess + 1 else guess
  let (a, b) := scaleDown num den q
  let m := roundDiv a b
  let (m, q) := if m = twoTo 53 then (twoTo 52, q + 1) else (m, q)
  if greatestExponent < q then .infinite negative else .finite negative m q

/-- The number of decimal digits of `n`; zero has one. -/
def digitCount (n : Nat) : Nat := (Nat.toDigits 10 n).length

/-- The number nearest to `± digits · 10 ^ exponent`. -/
def ofDecimal (negative : Bool) (digits : Nat) (exponent : Int) : Binary64 :=
  if digits = 0 then .finite negative 0 leastExponent
  else
    let magnitude : Int := digitCount digits + exponent
    if 310 < magnitude then .infinite negative
    else if magnitude < -330 then .finite negative 0 leastExponent
    else if 0 ≤ exponent then ofRatio negative (digits * tenTo exponent.toNat) 1
    else ofRatio negative digits (tenTo (-exponent).toNat)

/-- Whether the number is a zero of either sign. -/
def isZero : Binary64 → Bool
  | .finite _ m _ => m == 0
  | _ => false

/-- Whether the number is the whole number `n`. -/
def isWhole (x : Binary64) (n : Int) : Bool :=
  match x with
  | .finite negative m q =>
    let magnitude : Option Nat :=
      if 0 ≤ q then some (m * twoTo q.toNat)
      else if m % twoTo (-q).toNat = 0 then some (m / twoTo (-q).toNat)
      else none
    match magnitude with
    | some k => (if negative then -(k : Int) else k) == n
    | none => false
  | _ => false

/-- Whether two numbers count as the same: both zeros are one number, and so is `nan`. -/
def same (x y : Binary64) : Bool := x == y || (x.isZero && y.isZero)

/-- Whether `x < y`; `nan` is not comparable. -/
def precedes (x y : Binary64) : Bool :=
  match x, y with
  | .nan, _ | _, .nan => false
  | .infinite a, .infinite b => a && !b
  | .infinite a, .finite .. => a
  | .finite .., .infinite b => !b
  | .finite a m q, .finite b n r =>
    let shift := min q r
    let left : Int := m * twoTo (q - shift).toNat
    let right : Int := n * twoTo (r - shift).toNat
    (if a then -left else left) < (if b then -right else right)

end Binary64

end EntityMapping.Decimal
