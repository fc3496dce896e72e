import PageStudio.Text.Blank
import PageStudio.Text.CaseTable

/-!
# Lower case

The lower-case form of a text. One letter depends on its neighbours: the capital sigma at the end of
a word becomes `ς`, elsewhere `σ`. One letter becomes two: the capital I with a dot becomes `i`
followed by a combining dot.
-/

namespace PageStudio.Text

/-- The lower-case partner of a character, or the character itself. -/
def lowerChar (c : Char) : Char :=
  match caseRuns.find? fun r => r.holds c.toNat with
  | some r => Char.ofNat (c.toNat + r.shift).toNat
  | none => c

/-- Whether the first character that counts for letter case is a cased one. -/
def meetsCased (s : List Char) : Bool :=
  match s.dropWhile fun c => inRanges caseIgnorableRanges c.toNat with
  | [] => false
  | c :: _ => inRanges casedRanges c.toNat

/-- The lower-case form of the text that follows `before`, which is read backwards. -/
def lowerAfter (before : List Char) : List Char → List Char
  | [] => []
  | c :: rest =>
    let here :=
      if c = 'Σ' then [if meetsCased before && !meetsCased rest then 'ς' else 'σ']
      else if c = 'İ' then ['i', '\u0307']
      else if c.toNat < 128 then [c.toLower]
      else [lowerChar c]
    here ++ lowerAfter (c :: before) rest

/-- The lower-case form of a text. -/
def lower (s : List Char) : List Char := lowerAfter [] s

end PageStudio.Text
