import PageStudio.Json.Reading
import PageStudio.Style.Property

/-!
# Style layers

A layer gives values to some of the style properties. What a node looks like in one viewport is a
layer, and another one for the time that a pointer rests on it.
-/

namespace PageStudio.Style

open Json

/-- The values of some properties, in the order of the properties. -/
abbrev Layer := Dict Property String

namespace Layer

/-- A layer over another: its own values win, and those it lacks are the other's. -/
def atop (upper lower : Layer) : Layer := lower.union upper

/-- A layer with one more value. -/
def set (layer : Layer) (p : Property) (value : String) : Layer := layer.insert p value

/-- The written form: an object with the properties in order. -/
def toJson (layer : Layer) : Json := .object (layer.entries.map fun e => (e.1.key, .string e.2))

/-- Reads a layer. Only the names of properties are allowed as members. -/
def read : Reader Layer := Reader.dict Property.ofKey? Reader.text

end Layer

/-- What a node looks like in one viewport. -/
structure Appearance where
  base : Layer := ∅
  hover : Option Layer := none
deriving DecidableEq, Inhabited

namespace Appearance

/-- The written form. A missing hover layer is left out. -/
def toJson (a : Appearance) : Json :=
  ofFields [("base", some a.base.toJson), ("hover", a.hover.map Layer.toJson)]

/-- Reads an appearance. Both layers may be missing. -/
def read (v : Source) : Option Appearance := do
  let fields ← Fields.read? ["base", "hover"] v
  let base ← fields.withDefault "base" Layer.read ∅
  let hover ← fields.optional "hover" Layer.read
  return { base, hover }

end Appearance

end PageStudio.Style
