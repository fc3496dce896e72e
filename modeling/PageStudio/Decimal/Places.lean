import PageStudio.Decimal.Binary
import PageStudio.Text.Piece

/-!
# Numbers to a fixed number of places

`fixed` writes a number with a given number of decimals, and `brief` is the form that lengths are
written in: at most four decimals, and none that are zero at the end.
-/

namespace PageStudio.Decimal

/-- The nearest integral number; a half goes away from zero. Infinities and NaN stay. -/
def toIntegral (x : Float) : Float :=
  if x.isFinite then
    let (num, den) := (magnitude x).ratio 0
    let n := Float.ofNat (roundDiv num den .awayFromZero)
    if isNegative x then -n else n
  else x

/-- Decimal digits, with zeros in front up to a least length. -/
def padded (width n : Nat) : List Char :=
  let digits := Nat.toDigits 10 n
  List.replicate (width - digits.length) '0' ++ digits

/-- A number with `places` decimals, rounded from its exact value; a half goes to the even
neighbour. `places` is positive. -/
def fixed (places : Nat) (x : Float) : List Char :=
  let sign := if isNegative x then ['-'] else []
  if x.isNaN then "NaN".toList
  else if x.isInf then sign ++ "inf".toList
  else
    let (num, den) := (magnitude x).ratio places
    let digits := padded (places + 1) (roundDiv num den .toEven)
    sign ++ digits.take (digits.length - places) ++ '.' :: digits.drop (digits.length - places)

/-- A text without the given character at its back. -/
def dropBackWhile (c : Char) (s : List Char) : List Char :=
  (s.reverse.dropWhile (· == c)).reverse

/-- A number rounded to four decimals, a half away from zero, without zeros at the end. Both zeros
are written `0`. -/
def brief (x : Float) : String :=
  let rounded := toIntegral (x * 10000) / 10000
  if rounded == 0 then "0"
  else String.ofList (dropBackWhile '.' (dropBackWhile '0' (fixed 4 rounded)))

end PageStudio.Decimal
