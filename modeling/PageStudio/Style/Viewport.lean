import PageStudio.Json.Reading

/-!
# Viewports

A viewport is a named size of the screen that pages are made for. The first viewport of a list is
the reference: the others take their styles from it where they have none of their own.
-/

namespace PageStudio.Style

open Json

/-- A named screen size. -/
structure Viewport where
  name : String
  width : UInt32
  height : UInt32
  /-- Styles for this viewport apply up to this width. -/
  breakpoint : UInt32
deriving DecidableEq, Inhabited

namespace Viewport

/-- The name of the reference viewport where no list says another. -/
def referenceName : String := "Desktop"

/-- The large screen. -/
def desktop : Viewport := ⟨referenceName, 1280, 720, 1280⟩

/-- The middle screen. -/
def tablet : Viewport := ⟨"Tablet", 768, 1024, 1024⟩

/-- The small screen. -/
def mobile : Viewport := ⟨"Mobile", 375, 667, 767⟩

/-- The built-in viewports. -/
def builtIn : List Viewport := [desktop, tablet, mobile]

/-- The first viewport of a name. -/
def find? (viewports : List Viewport) (name : String) : Option Viewport :=
  viewports.find? fun v => v.name == name

def toJson (v : Viewport) : Json :=
  .object [("name", .string v.name), ("width", .number (.natural v.width.toNat)),
    ("height", .number (.natural v.height.toNat)),
    ("breakpoint", .number (.natural v.breakpoint.toNat))]

def read (v : Source) : Option Viewport := do
  let fields ← Fields.read? ["name", "width", "height", "breakpoint"] v
  let name ← fields.required "name" Reader.text
  let width ← fields.required "width" Reader.word32
  let height ← fields.required "height" Reader.word32
  let breakpoint ← fields.required "breakpoint" Reader.word32
  return { name, width, height, breakpoint }

end Viewport

end PageStudio.Style
