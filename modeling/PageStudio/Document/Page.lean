import PageStudio.Json.Reading

/-!
# Pages

What a document says about a page beside its layout, and changes of it.
-/

namespace PageStudio

open Json

/-- A page of a document. -/
structure Page where
  id : String
  name : String
  seoTitle : Option String := none
  seoDescription : Option String := none
  customJs : Option String := none
  customHeadContent : Option String := none
deriving DecidableEq, Inhabited

namespace Page

/-- A page with a title and a description made from its name. -/
def titled (id name : String) : Page where
  id
  name
  seoTitle := some name
  seoDescription := some ("This is the " ++ name ++ " page.")

/-- The title that a browser shows: the name, where there is no other. -/
def title (p : Page) : String := p.seoTitle.getD p.name

def toJson (p : Page) : Json :=
  ofFields [
    ("id", some (.string p.id)),
    ("name", some (.string p.name)),
    ("seoTitle", p.seoTitle.map .string),
    ("seoDescription", p.seoDescription.map .string),
    ("customJs", p.customJs.map .string),
    ("customHeadContent", p.customHeadContent.map .string)]

def read (v : Source) : Option Page := do
  let fields ← Fields.read?
    ["id", "name", "seoTitle", "seoDescription", "customJs", "customHeadContent"] v
  let id ← fields.required "id" Reader.text
  let name ← fields.required "name" Reader.text
  let seoTitle ← fields.optional "seoTitle" Reader.text
  let seoDescription ← fields.optional "seoDescription" Reader.text
  let customJs ← fields.optional "customJs" Reader.text
  let customHeadContent ← fields.optional "customHeadContent" Reader.text
  return { id, name, seoTitle, seoDescription, customJs, customHeadContent }

end Page

/-- A change of some of the properties of a page. Its id never changes, and no property is taken
away. -/
structure PagePatch where
  name : Option String := none
  seoTitle : Option String := none
  seoDescription : Option String := none
  customJs : Option String := none
  customHeadContent : Option String := none
deriving DecidableEq, Inhabited

namespace PagePatch

/-- The page with what the patch has in place of what it had. -/
def apply (patch : PagePatch) (p : Page) : Page where
  id := p.id
  name := patch.name.getD p.name
  seoTitle := patch.seoTitle <|> p.seoTitle
  seoDescription := patch.seoDescription <|> p.seoDescription
  customJs := patch.customJs <|> p.customJs
  customHeadContent := patch.customHeadContent <|> p.customHeadContent

def toJson (p : PagePatch) : Json :=
  ofFields [
    ("name", p.name.map .string),
    ("seoTitle", p.seoTitle.map .string),
    ("seoDescription", p.seoDescription.map .string),
    ("customJs", p.customJs.map .string),
    ("customHeadContent", p.customHeadContent.map .string)]

def read (v : Source) : Option PagePatch := do
  let fields ← Fields.read?
    ["name", "seoTitle", "seoDescription", "customJs", "customHeadContent"] v
  let name ← fields.optional "name" Reader.text
  let seoTitle ← fields.optional "seoTitle" Reader.text
  let seoDescription ← fields.optional "seoDescription" Reader.text
  let customJs ← fields.optional "customJs" Reader.text
  let customHeadContent ← fields.optional "customHeadContent" Reader.text
  return { name, seoTitle, seoDescription, customJs, customHeadContent }

end PagePatch

end PageStudio
