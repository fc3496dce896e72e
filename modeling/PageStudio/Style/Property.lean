import PageStudio.Dict

/-!
# Style properties

The eighteen visual properties that a node can carry. Their order is the order in which style sheets
declare them.
-/

namespace PageStudio.Style

/-- A visual property. -/
inductive Property where
  | top
  | left
  | zIndex
  | padding
  | margin
  | width
  | height
  | minHeight
  | backgroundColor
  | textColor
  | barColor
  | fontSize
  | fontWeight
  | textDecoration
  | border
  | borderColor
  | borderRadius
  | boxShadow
deriving DecidableEq, Repr

namespace Property

/-- All properties in order. -/
def all : List Property :=
  [.top, .left, .zIndex, .padding, .margin, .width, .height, .minHeight, .backgroundColor,
   .textColor, .barColor, .fontSize, .fontWeight, .textDecoration, .border, .borderColor,
   .borderRadius, .boxShadow]

/-- The place of a property among all. -/
def index : Property → Nat
  | .top => 0
  | .left => 1
  | .zIndex => 2
  | .padding => 3
  | .margin => 4
  | .width => 5
  | .height => 6
  | .minHeight => 7
  | .backgroundColor => 8
  | .textColor => 9
  | .barColor => 10
  | .fontSize => 11
  | .fontWeight => 12
  | .textDecoration => 13
  | .border => 14
  | .borderColor => 15
  | .borderRadius => 16
  | .boxShadow => 17

/-- The name of a property in stored documents. -/
def key : Property → String
  | .top => "top"
  | .left => "left"
  | .zIndex => "zIndex"
  | .padding => "padding"
  | .margin => "margin"
  | .width => "width"
  | .height => "height"
  | .minHeight => "minHeight"
  | .backgroundColor => "backgroundColor"
  | .textColor => "textColor"
  | .barColor => "barColor"
  | .fontSize => "fontSize"
  | .fontWeight => "fontWeight"
  | .textDecoration => "textDecoration"
  | .border => "border"
  | .borderColor => "borderColor"
  | .borderRadius => "borderRadius"
  | .boxShadow => "boxShadow"

/-- The property with a name in stored documents. -/
def ofKey? (name : String) : Option Property := all.find? fun p => p.key == name

/-- The name of the declaration that a property is written to. -/
def cssName : Property → String
  | .top => "top"
  | .left => "left"
  | .zIndex => "z-index"
  | .padding => "padding"
  | .margin => "margin"
  | .width => "width"
  | .height => "height"
  | .minHeight => "min-height"
  | .backgroundColor => "background-color"
  | .textColor => "color"
  | .barColor => "--bar-color"
  | .fontSize => "font-size"
  | .fontWeight => "font-weight"
  | .textDecoration => "text-decoration"
  | .border => "border"
  | .borderColor => "border-color"
  | .borderRadius => "border-radius"
  | .boxShadow => "box-shadow"

/-- Whether a property shrinks and grows with the width of the viewport. -/
def isScaled : Property → Bool
  | .top | .left | .width | .height | .fontSize => true
  | _ => false

/-- A property is its place. -/
theorem index_inj {p q : Property} (h : p.index = q.index) : p = q := by
  cases p <;> cases q <;> simp_all [index]

/-- A property is found by its stored name. -/
theorem ofKey?_key (p : Property) : ofKey? p.key = some p := by
  cases p <;> decide

instance : KeyOrder Property where
  same := inferInstance
  before p q := decide (p.index < q.index)
  irrefl _ := by simp
  trans _ _ _ h₁ h₂ := by simp at *; omega
  connected _ _ h₁ h₂ := by
    simp at h₁ h₂
    exact index_inj (by omega)

end Property

end PageStudio.Style
