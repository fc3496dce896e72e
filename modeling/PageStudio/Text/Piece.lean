/-!
# Pieces of texts

Cutting a text at a separator or into lines, taking a known beginning or end off it, and finding a
text inside another or replacing it there. All functions work on lists of characters.
-/

namespace PageStudio.Text

/-- Whether a character may stand in a plain name, be it of a file or of an attribute: the letters,
the digits and the hyphen of ASCII may. -/
def isNameChar (c : Char) : Bool := c.isAlphanum || c = '-'

/-- The pieces between separators read from the front, `piece` being the one that has begun,
backwards. -/
def splitFrom (sep : Char) (piece : List Char) : List Char → List (List Char)
  | [] => [piece.reverse]
  | c :: rest =>
    if c = sep then piece.reverse :: splitFrom sep [] rest else splitFrom sep (c :: piece) rest

/-- The pieces of a text between separators: one more than there are separators. -/
def splitAt (sep : Char) (s : List Char) : List (List Char) := splitFrom sep [] s

/-- The lines read from the front, `line` being the one that has begun, backwards. A line ends
before its line feed and before a carriage return right in front of that; a text that ends with a
line feed has no further line. -/
def linesFrom (line : List Char) : List Char → List (List Char)
  | [] => if line.isEmpty then [] else [line.reverse]
  | '\n' :: rest =>
    (match line with
      | '\r' :: short => short.reverse
      | _ => line.reverse) :: linesFrom [] rest
  | c :: rest => linesFrom (c :: line) rest

/-- The lines of a text. -/
def lines (s : List Char) : List (List Char) := linesFrom [] s

/-- What follows a known beginning. -/
def dropFront? : (front s : List Char) → Option (List Char)
  | [], s => some s
  | _ :: _, [] => none
  | a :: front, b :: s => if a = b then dropFront? front s else none

/-- What precedes a known end. -/
def dropBack? (back s : List Char) : Option (List Char) :=
  (dropFront? back.reverse s.reverse).map List.reverse

/-- Whether one text occurs inside another. -/
def occursIn (part : List Char) : List Char → Bool
  | [] => part.isEmpty
  | c :: rest => (dropFront? part (c :: rest)).isSome || occursIn part rest

/-- What follows the last place where one text occurs inside another. -/
def afterLast? (part : List Char) : List Char → Option (List Char)
  | [] => dropFront? part []
  | c :: rest =>
    match afterLast? part rest with
    | some found => some found
    | none => dropFront? part (c :: rest)

/-- A text read from the front with `new` in place of each `part`, where `skip` characters of the
last one found are still to be passed over. -/
def replaceFrom (part new : List Char) : (skip : Nat) → List Char → List Char
  | _, [] => []
  | skip + 1, _ :: rest => replaceFrom part new skip rest
  | 0, c :: rest =>
    if (dropFront? part (c :: rest)).isSome then
      new ++ replaceFrom part new (part.length - 1) rest
    else c :: replaceFrom part new 0 rest

/-- A text with another one in place of each part of it that reads `part`, which is not empty. The
parts are looked for from the front and do not overlap. -/
def replace (part new s : List Char) : List Char := replaceFrom part new 0 s

/-- A text with a separator between its pieces. -/
def joinWith (sep : List Char) (pieces : List (List Char)) : List Char :=
  sep.intercalate pieces

end PageStudio.Text
