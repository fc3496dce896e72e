import PageStudio.Decimal.Places
import PageStudio.Decimal.Reading
import PageStudio.Text.Blank

/-!
# Lengths

A length is a number and a unit, such as `12.5px`. The unit is a percent sign, letters, or nothing.
-/

namespace PageStudio.Style

/-- A number with a unit. -/
structure Length where
  number : Float
  unit : String
deriving DecidableEq, Inhabited

namespace Length

/-- Whether a character can stand in a number behind its sign. -/
def isNumeral (c : Char) : Bool := Decimal.isDigit c || c = '.'

/-- A text cut behind the longest beginning that can be a number. -/
def cut : List Char → List Char × List Char
  | [] => ([], [])
  | c :: rest =>
    if c = '-' || c = '+' then (c :: rest.takeWhile isNumeral, rest.dropWhile isNumeral)
    else ((c :: rest).takeWhile isNumeral, (c :: rest).dropWhile isNumeral)

/-- Whether a character can stand in a unit. -/
def isUnit (c : Char) : Bool := c.isAlpha || c = '%'

/-- The length that a text says. Blanks around it do not count. -/
def ofText? (s : String) : Option Length :=
  let (number, unit) := cut (Text.trim s.toList)
  if unit.all isUnit then
    (Decimal.readSigned? number).map fun x => ⟨x, String.ofList unit⟩
  else none

def toText (l : Length) : String := Decimal.brief l.number ++ l.unit

/-- A length with a unit, multiplied; none for a number without a unit and for what is no length. -/
def scale? (factor : Float) (s : String) : Option String :=
  match ofText? s with
  | none => none
  | some l => if l.unit.isEmpty then none else some (toText { l with number := l.number * factor })

end Length

end PageStudio.Style
