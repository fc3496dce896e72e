import PageStudio.Json.Reading
import PageStudio.Text.Piece

/-!
# Links

A node may lead to a page of its own document or to an address elsewhere. Both are stored in one
text: a page is written `page:` and its id.
-/

namespace PageStudio

open Json

/-- Where a node leads to. -/
inductive Link where
  | external (address : String)
  | page (id : String)
deriving DecidableEq, Inhabited

namespace Link

/-- What the stored form of a link to a page starts with. -/
def pageMark : List Char := "page:".toList

/-- The link of a stored form. -/
def ofText (s : String) : Link :=
  match Text.dropFront? pageMark s.toList with
  | some id => .page (String.ofList id)
  | none => .external s

/-- The stored form. -/
def toText : Link → String
  | .external address => address
  | .page id => String.ofList (pageMark ++ id.toList)

def toJson (l : Link) : Json := .string l.toText

def read (v : Source) : Option Link := (Reader.text v).map ofText

end Link

end PageStudio
