import PageStudio.Decimal.Shortest
import PageStudio.Json.Value

/-!
# Writing JSON

`compact` writes a value without white space, `pretty` with one member or item a line, indented by
two blanks a level. Floating-point numbers are written with the fewest digits that identify them:
positionally from 10^-5 up to below 10^16, otherwise with a signed exponent.
-/

namespace PageStudio.Json

open Decimal

/-- One hexadecimal digit in lower case. -/
def hexDigit (n : Nat) : Char := Char.ofNat (if n < 10 then 48 + n else 87 + n)

/-- The written form of one character inside quotes. -/
def escapeChar (c : Char) : List Char :=
  if c = '"' then ['\\', '"']
  else if c = '\\' then ['\\', '\\']
  else if c = '\n' then ['\\', 'n']
  else if c = '\r' then ['\\', 'r']
  else if c = '\t' then ['\\', 't']
  else if c = '\x08' then ['\\', 'b']
  else if c = '\x0c' then ['\\', 'f']
  else if c.toNat < 32 then ['\\', 'u', '0', '0', hexDigit (c.toNat / 16), hexDigit (c.toNat % 16)]
  else [c]

/-- A text in quotes. -/
def quoted (s : String) : List Char := '"' :: (s.toList.flatMap escapeChar ++ ['"'])

/-- The layout of decimal digits: positional for a leading digit that stands for 10^-5 to 10^15,
with `.0` behind an integral number, otherwise one digit, the others behind a point, and the
exponent with its sign. -/
def layOut (d : Digits) : List Char :=
  let digits := Nat.toDigits 10 d.digits
  let lead : Int := d.exp + digits.length - 1
  if -5 ≤ lead && lead < 16 then
    if 0 ≤ d.exp then digits ++ List.replicate d.exp.toNat '0' ++ ['.', '0']
    else if 0 ≤ lead then digits.take (lead.toNat + 1) ++ '.' :: digits.drop (lead.toNat + 1)
    else '0' :: '.' :: List.replicate (-lead - 1).toNat '0' ++ digits
  else
    let fraction := match digits.drop 1 with
      | [] => []
      | rest => '.' :: rest
    let exponent := (if lead < 0 then '-' else '+') :: Nat.toDigits 10 lead.natAbs
    digits.take 1 ++ fraction ++ 'e' :: exponent

/-- A floating-point number. What is not finite is written `null`. -/
def floatText (x : Float) : List Char :=
  if x.isFinite then
    let sign := if isNegative x then ['-'] else []
    if (magnitude x).m = 0 then sign ++ ['0', '.', '0'] else sign ++ layOut (magnitude x).shortest
  else "null".toList

/-- The written form of a number. -/
def Number.text : Number → List Char
  | .natural n => Nat.toDigits 10 n
  | .negative n => '-' :: Nat.toDigits 10 n
  | .float x => floatText x

mutual
/-- A value without white space. -/
def compactText : Json → List Char
  | .null => "null".toList
  | .bool b => (if b then "true" else "false").toList
  | .number n => n.text
  | .string s => quoted s
  | .array items => '[' :: (compactItems true items ++ [']'])
  | .object members => '\x7b' :: (compactMembers true members ++ ['\x7d'])

/-- The items, with a comma in front of each but the first. -/
def compactItems (first : Bool) : List Json → List Char
  | [] => []
  | v :: rest => (if first then [] else [',']) ++ compactText v ++ compactItems false rest

/-- The members, with a comma in front of each but the first. -/
def compactMembers (first : Bool) : List (String × Json) → List Char
  | [] => []
  | (k, v) :: rest =>
    (if first then [] else [',']) ++ quoted k ++ ':' :: compactText v ++ compactMembers false rest
end

/-- A new line indented by a number of levels. -/
def newLine (level : Nat) : List Char := '\n' :: List.replicate (2 * level) ' '

mutual
/-- A value with one member or item a line, inside `level` levels. Empty containers stay on one
line. -/
def prettyText (level : Nat) : Json → List Char
  | .null => "null".toList
  | .bool b => (if b then "true" else "false").toList
  | .number n => n.text
  | .string s => quoted s
  | .array [] => ['[', ']']
  | .array (v :: rest) =>
    '[' :: (prettyItems (level + 1) true (v :: rest) ++ newLine level ++ [']'])
  | .object [] => ['\x7b', '\x7d']
  | .object (m :: rest) =>
    '\x7b' :: (prettyMembers (level + 1) true (m :: rest) ++ newLine level ++ ['\x7d'])

/-- The items, each on its own line. -/
def prettyItems (level : Nat) (first : Bool) : List Json → List Char
  | [] => []
  | v :: rest =>
    (if first then [] else [',']) ++ newLine level ++ prettyText level v ++
      prettyItems level false rest

/-- The members, each on its own line. -/
def prettyMembers (level : Nat) (first : Bool) : List (String × Json) → List Char
  | [] => []
  | (k, v) :: rest =>
    (if first then [] else [',']) ++ newLine level ++ quoted k ++
      ':' :: ' ' :: prettyText level v ++ prettyMembers level false rest
end

/-- A value on one line. -/
def compact (v : Json) : String := String.ofList (compactText v)

/-- A value over several lines. -/
def pretty (v : Json) : String := String.ofList (prettyText 0 v)

end PageStudio.Json
