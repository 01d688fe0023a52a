import EntityMapping.Decimal.Shortest

/-!
# Writing numbers

A binary64 number is written with its shortest digits: positionally, always with a fraction, when
its decimal exponent is at least -4 and below 16, else with an exponent of at least two digits.
-/

namespace EntityMapping.Decimal

/-- How a binary64 number is written. -/
structure NumberFormat where
  /-- The least decimal exponent that is written positionally. -/
  leastPositional : Int
  /-- The least decimal exponent from which numbers are not written positionally any more. -/
  firstExponential : Int
  /-- The least number of digits of an exponent. -/
  exponentWidth : Nat
  /-- The text of what is no number. -/
  nan : String
  /-- The text of positive infinity. -/
  infinity : String

/-- The format of numbers in texts: `0.0001`, `1e-05`, `1e+16`, `nan`, `inf`. -/
def plainFormat : NumberFormat := ⟨-4, 16, 2, "nan", "inf"⟩

/-- The format of numbers in documents: as in texts, but `NaN` and `Infinity`. -/
def documentFormat : NumberFormat := { plainFormat with nan := "NaN", infinity := "Infinity" }

/-- A decimal exponent with its sign and enough digits. -/
def exponentText (width : Nat) (e : Int) : List Char :=
  let ds := Nat.toDigits 10 e.natAbs
  (if e < 0 then '-' else '+') :: (List.replicate (width - ds.length) '0' ++ ds)

/-- A positive number with its point. -/
def digitsText (format : NumberFormat) (d : Digits) : List Char :=
  let ds := Nat.toDigits 10 d.digits
  let point : Int := ds.length + d.exponent
  if format.leastPositional ≤ point - 1 ∧ point - 1 < format.firstExponential then
    if point ≤ 0 then ['0', '.'] ++ List.replicate (-point).toNat '0' ++ ds
    else if (ds.length : Int) ≤ point then
      ds ++ List.replicate (point - ds.length).toNat '0' ++ ['.', '0']
    else ds.take point.toNat ++ '.' :: ds.drop point.toNat
  else
    let fraction := if ds.length = 1 then [] else '.' :: ds.drop 1
    ds.take 1 ++ fraction ++ 'e' :: exponentText format.exponentWidth (point - 1)

/-- A binary64 number in a format. -/
def Binary64.text (format : NumberFormat) : Binary64 → String
  | .nan => format.nan
  | .infinite negative => (if negative then "-" else "") ++ format.infinity
  | .finite negative m q =>
    let magnitude := if m = 0 then ['0', '.', '0'] else digitsText format (shortest m q)
    String.ofList (if negative then '-' :: magnitude else magnitude)

/-- The greatest number of digits of a whole number in a document. -/
def maxDigits : Nat := 4300

/-- A whole number in decimal. -/
def intText (n : Int) : String :=
  String.ofList ((if n < 0 then ['-'] else []) ++ Nat.toDigits 10 n.natAbs)

end EntityMapping.Decimal
