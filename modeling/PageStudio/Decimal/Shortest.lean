import PageStudio.Decimal.Binary

/-!
# Shortest digits

The fewest decimal digits that identify a floating-point number. A decimal identifies the number
when it lies among the reals that round to it: between the two points halfway to the neighbours,
ends included exactly when `m` is even. The search tries one digit, then two, and so on, on the grid
of that many digits; of two hits the nearer one is taken, and the even one of two equally near.
-/

namespace PageStudio.Decimal

/-- The decimal `digits · 10^exp`. -/
structure Digits where
  digits : Nat
  exp : Int
deriving DecidableEq, Repr

/-- Compares `a · 10^i` with `b · 2^j`. -/
def compareScaled (a : Nat) (i : Int) (b : Nat) (j : Int) : Ordering :=
  compare (a * Nat.pow 10 i.toNat * Nat.pow 2 (-j).toNat)
    (b * Nat.pow 2 j.toNat * Nat.pow 10 (-i).toNat)

/-- Whether the value below is only half as far away as the value above: just above a power of two,
unless the numbers below are as dense. -/
def Magnitude.narrowBelow (v : Magnitude) : Bool := v.m == leadingOne && v.q != -1074

/-- Whether a decimal lies among the reals that round to the magnitude. -/
def Magnitude.identifiedBy (v : Magnitude) (d : Digits) : Bool :=
  let low := if v.narrowBelow then 4 * v.m - 1 else 4 * v.m - 2
  let ends := v.m % 2 == 0
  let atLow := compareScaled d.digits d.exp low (v.q - 2)
  let atHigh := compareScaled d.digits d.exp (4 * v.m + 2) (v.q - 2)
  (atLow == .gt || (ends && atLow == .eq)) && (atHigh == .lt || (ends && atHigh == .eq))

/-- The least `k` with `m · 2^q < 10^k`, for a positive magnitude. No magnitude has more than 400
zeros behind its decimal point. -/
def Magnitude.scale (v : Magnitude) : Int :=
  let (num, den) := v.ratio 400
  ((Nat.toDigits 10 (num / den)).length : Int) - 400

/-- The decimal with `n` digits that identifies the magnitude, if there is one. -/
def Magnitude.onGrid? (v : Magnitude) (n : Nat) : Option Digits :=
  let exp := v.scale - n
  let (num, den) := v.ratio (-exp)
  let low := num / den
  let below : Digits := ⟨low, exp⟩
  let above : Digits := ⟨low + 1, exp⟩
  match v.identifiedBy below, v.identifiedBy above with
  | true, true => some ⟨roundDiv num den .toEven, exp⟩
  | true, false => some below
  | false, true => some above
  | false, false => none

/-- A decimal whose last digit is not zero, of the same value. -/
def Digits.stripped (d : Digits) : Digits :=
  let zeros := ((Nat.toDigits 10 d.digits).reverse.takeWhile (· == '0')).length
  if d.digits = 0 then d else ⟨d.digits / Nat.pow 10 zeros, d.exp + zeros⟩

/-- The fewest digits that identify a positive magnitude. Seventeen always do; the exact value
stands in where none were found. -/
def Magnitude.shortest (v : Magnitude) : Digits :=
  match (List.range 17).findSome? fun n => v.onGrid? (n + 1) with
  | some d => d.stripped
  | none => Digits.stripped ⟨v.m * Nat.pow 2 v.q.toNat * Nat.pow 5 (-v.q).toNat, min v.q 0⟩

end PageStudio.Decimal
