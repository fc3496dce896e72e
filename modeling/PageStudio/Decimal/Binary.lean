/-!
# Binary numbers taken apart

A finite floating-point number is a sign and a magnitude `m · 2^q` with natural `m`. Everything that
is written about such a number is computed from these, in exact arithmetic.
-/

namespace PageStudio.Decimal

/-- The magnitude `m · 2^q`. -/
structure Magnitude where
  m : Nat
  q : Int
deriving DecidableEq, Repr

/-- The one in front of the 52 stored bits of a normal number. -/
def leadingOne : Nat := 0x10000000000000

/-- The magnitude of a finite number. -/
def magnitude (x : Float) : Magnitude :=
  let bits := x.toBits
  let exponent := ((bits >>> 52) &&& 0x7FF).toNat
  let fraction := (bits &&& 0xFFFFFFFFFFFFF).toNat
  if exponent = 0 then ⟨fraction, -1074⟩ else ⟨leadingOne + fraction, (exponent : Int) - 1075⟩

/-- Whether the sign bit is set; the negative zero is negative. -/
def isNegative (x : Float) : Bool := x.toBits >>> 63 == 1

/-- Which integer a number halfway between two is rounded to. -/
inductive Tie where
  | toEven
  | awayFromZero
deriving DecidableEq, Repr

/-- The integer nearest to `num / den`. -/
def roundDiv (num den : Nat) (tie : Tie) : Nat :=
  let low := num / den
  match compare (2 * (num % den)) den, tie with
  | .lt, _ => low
  | .gt, _ => low + 1
  | .eq, .awayFromZero => low + 1
  | .eq, .toEven => if low % 2 = 0 then low else low + 1

/-- The numerator and the denominator of `m · 2^q · 10^e`. -/
def Magnitude.ratio (v : Magnitude) (e : Int) : Nat × Nat :=
  (v.m * Nat.pow 2 v.q.toNat * Nat.pow 10 e.toNat,
    Nat.pow 2 (-v.q).toNat * Nat.pow 10 (-e).toNat)

end PageStudio.Decimal
