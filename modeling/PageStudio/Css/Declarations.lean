import PageStudio.Css.Sheet
import PageStudio.Style.Layer
import PageStudio.Style.Token

/-!
# Declarations of a layer

Literals are declared as they are, tokens by what they stand for, and other values not at all. A
border takes its colour from the layer.
-/

namespace PageStudio.Css

open Style

/-- The colour of a border without one of its own. -/
def defaultBorderColor : String := "#6b7280"

/-- The colour of a border: a literal or a token. -/
def borderColor (color : Option String) : String :=
  match color with
  | none => defaultBorderColor
  | some c => if isLiteral c then c else (valueOf? .borderColor c).getD defaultBorderColor

/-- The declarations of a border whose value is `value`. -/
def border (value : String) (color : Option String) : List Declaration :=
  if value == "none" || value == "border-none" then [("border", "none")]
  else
    ("border", "1px solid " ++ borderColor color) ::
      if Text.occursIn "dashed".toList value.toList then [("border-style", "dashed")] else []

/-- The declaration of a property whose value has no blanks around it. -/
def declaration? (p : Property) (value : String) : Option Declaration :=
  if isLiteral value then some (p.cssName, value)
  else
    match meaning? p value with
    | some (.value literal) => some (p.cssName, literal)
    | some (.declaration name literal) => some (name, literal)
    | none => none

/-- A value without the blanks around it. -/
def trimmed (value : String) : String := String.ofList (Text.trim value.toList)

/-- The declarations of one property. The colour of a border has none of its own. -/
def propertyDeclarations (layer : Layer) (p : Property) (value : String) : List Declaration :=
  let value := trimmed value
  if value.isEmpty then []
  else
    match p with
    | .borderColor => []
    | .border => border value (layer.get? .borderColor)
    | p => (declaration? p value).toList

/-- The declarations of a layer, in the order of the properties. -/
def declarations (layer : Layer) : List Declaration :=
  layer.entries.flatMap fun e => propertyDeclarations layer e.1 e.2

end PageStudio.Css
