/-!
# Reading decimals

The floating-point number nearest to a decimal, and the shapes of decimal texts.
-/

namespace PageStudio.Decimal

/-- Whether a character is one of the ten ASCII digits. -/
def isDigit (c : Char) : Bool := '0' ≤ c && c ≤ '9'

/-- The value of a digit. -/
def digitValue (c : Char) : Nat := c.toNat - 48

/-- The value of a row of digits. -/
def natOfDigits (s : List Char) : Nat := s.foldl (fun n c => 10 * n + digitValue c) 0

/-- A natural number below `bound` written in digits, with an optional plus sign in front. -/
def readNatural? (bound : Nat) (s : List Char) : Option Nat :=
  let digits := match s with
    | '+' :: rest => rest
    | _ => s
  if digits.isEmpty || !digits.all isDigit then none
  else if natOfDigits digits < bound then some (natOfDigits digits) else none

/-- The magnitude written as digits with at most one point among them and at least one digit. -/
def readMagnitude? (s : List Char) : Option Float :=
  let whole := s.takeWhile isDigit
  match s.dropWhile isDigit with
  | [] => if whole.isEmpty then none else some (Float.ofScientific (natOfDigits whole) false 0)
  | '.' :: part =>
    if part.all isDigit && !(whole.isEmpty && part.isEmpty) then
      some (Float.ofScientific (natOfDigits (whole ++ part)) true part.length)
    else none
  | _ => none

/-- A magnitude with an optional sign in front. -/
def readSigned? : List Char → Option Float
  | '-' :: rest => (readMagnitude? rest).map fun x => -x
  | '+' :: rest => readMagnitude? rest
  | s => readMagnitude? s

end PageStudio.Decimal
