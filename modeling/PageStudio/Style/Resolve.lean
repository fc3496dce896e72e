import PageStudio.Node.Tree
import PageStudio.Style.Length

/-!
# Styles in a viewport

What a node looks like in a viewport. Where the node has styles for it, those lie over the ones of
the reference viewport; where it has none, it looks as in the reference viewport with its place,
size and font scaled to the width.
-/

namespace PageStudio.Style

namespace Layer

/-- A layer with its scaled properties multiplied. What is no length with a unit stays as it is. -/
def scale (factor : Float) (layer : Layer) : Layer :=
  layer.mapWithKey fun p value =>
    if p.isScaled then (Length.scale? factor value).getD value else value

end Layer

/-- A hover layer over another, where both may be missing. -/
def hoverAtop : (upper lower : Option Layer) → Option Layer
  | some upper, some lower => some (upper.atop lower)
  | some upper, none => some upper
  | none, lower => lower

/-- An appearance over another. -/
def Appearance.atop (upper lower : Appearance) : Appearance where
  base := upper.base.atop lower.base
  hover := hoverAtop upper.hover lower.hover

/-- The name of the reference viewport of a list. -/
def referenceOf (viewports : List Viewport) : String :=
  match viewports with
  | [] => Viewport.referenceName
  | v :: _ => v.name

/-- How much wider a viewport is than the reference; none where the reference has no width. -/
def scaleOf? (target : Viewport) (viewports : List Viewport) : Option Float :=
  let width := match viewports with
    | [] => target.width
    | v :: _ => v.width
  if width = 0 then none else some (Float.ofNat target.width.toNat / Float.ofNat width.toNat)

/-- What a node looks like in a viewport, the reference being the first of a list. -/
def resolve (n : Node) (target : Viewport) (viewports : List Viewport) : Appearance :=
  let styles := n.element.styles
  let reference := (styles.get? (referenceOf viewports)).getD {}
  match styles.get? target.name with
  | some own => own.atop reference
  | none =>
    if target.name == referenceOf viewports then reference
    else
      match scaleOf? target viewports with
      | none => reference
      | some factor => { reference with base := reference.base.scale factor }

end PageStudio.Style
