import PageStudio.Json.Reading

/-!
# Theme and settings

What all pages of a project share: their font and colours, and text that the author puts into each
of them.
-/

namespace PageStudio

open Json

/-- The font and the colours of all pages. -/
structure Theme where
  fontFamily : String := "Inter, sans-serif"
  /-- A hexadecimal colour or a name from the palette of colours. -/
  bodyBackground : String := "bg-white"
  /-- A hexadecimal colour or a name from the palette of colours. -/
  bodyColor : String := "text-gray-900"
deriving DecidableEq, Inhabited

namespace Theme

def toJson (t : Theme) : Json :=
  .object [("fontFamily", .string t.fontFamily), ("bodyBackground", .string t.bodyBackground),
    ("bodyColor", .string t.bodyColor)]

/-- Reads a theme. All its fields must be there. -/
def read (v : Source) : Option Theme := do
  let fields ← Fields.read? ["fontFamily", "bodyBackground", "bodyColor"] v
  let fontFamily ← fields.required "fontFamily" Reader.text
  let bodyBackground ← fields.required "bodyBackground" Reader.text
  let bodyColor ← fields.required "bodyColor" Reader.text
  return { fontFamily, bodyBackground, bodyColor }

end Theme

/-- Text that goes into every page. -/
structure Settings where
  globalJs : Option String := none
  globalHeadContent : Option String := none
deriving DecidableEq, Inhabited

namespace Settings

def toJson (s : Settings) : Json :=
  ofFields [("globalJs", s.globalJs.map .string),
    ("globalHeadContent", s.globalHeadContent.map .string)]

/-- Reads settings. -/
def read (v : Source) : Option Settings := do
  let fields ← Fields.read? ["globalJs", "globalHeadContent"] v
  let globalJs ← fields.optional "globalJs" Reader.text
  let globalHeadContent ← fields.optional "globalHeadContent" Reader.text
  return { globalJs, globalHeadContent }

end Settings

end PageStudio
