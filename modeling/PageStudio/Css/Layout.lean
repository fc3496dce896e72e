import PageStudio.Css.Declarations
import PageStudio.Node.Tree

/-!
# The style sheet of a layout

Every node gets the rules of its styles, for each viewport in turn, and those that its kind needs
whatever its styles are. The rules for the reference viewport hold at every width.
-/

namespace PageStudio.Css

open Style

/-- The selector of a node. -/
def selector (id : String) : String := "#" ++ id

/-- The rule of a base layer, which also places the node. None without declarations. -/
def baseRule (id : String) (layer : Layer) : List Rule :=
  match declarations layer with
  | [] => []
  | ds => [⟨selector id, ("position", "absolute") :: ds⟩]

/-- The rule of a hover layer. None without declarations. -/
def hoverRule (id : String) (layer : Layer) : List Rule :=
  match declarations layer with
  | [] => []
  | ds => [⟨selector id ++ ":hover", ds⟩]

/-- The rules of an appearance. -/
def appearanceRules (id : String) (a : Appearance) : List Rule :=
  baseRule id a.base ++ (a.hover.map (hoverRule id)).getD []

/-- The rules of a node for one viewport. -/
def viewportRules (e : Element) (v : Viewport) : List Rule :=
  ((e.styles.get? v.name).map (appearanceRules e.id)).getD []

/-- The rules of a node for a viewport that is not the reference, where there are any. -/
def narrowItems (e : Element) (v : Viewport) : Sheet :=
  match viewportRules e v with
  | [] => []
  | rules => [.upToWidth v.breakpoint.toNat rules]

/-- The rules of the styles of a node. Styles for viewports that are not listed have none. -/
def styleItems (e : Element) (viewports : List Viewport) : Sheet :=
  match viewports with
  | [] => []
  | reference :: others =>
    (viewportRules e reference).map .rule ++ others.flatMap (narrowItems e)

/-- A progress in percent, kept between 0 and 100. -/
def clampedPercent (x : Float) : Float := if x < 0 then 0 else if x > 100 then 100 else x

/-- The rules that the kind of a node needs. -/
def kindRules (e : Element) : List Rule :=
  match e.kind with
  | .progressBar =>
    [⟨selector e.id ++ " .progress-bar-inner",
      [("width", Decimal.brief (clampedPercent (e.content.progress.getD 0)) ++ "%"),
       ("height", "100%"),
       ("background-color", "var(--bar-color, #2563eb)"),
       ("border-radius", "inherit"),
       ("transition", "width 0.3s ease")]⟩]
  | .alert =>
    [⟨selector e.id,
      [("display", "flex"), ("align-items", "flex-start"), ("gap", "0.75rem")]⟩]
  | .spinner =>
    [⟨selector e.id,
      [("border", "4px solid #4b5563"), ("border-top-color", "#3b82f6"), ("border-radius", "50%"),
       ("animation", "spin 1s linear infinite")]⟩]
  | _ => []

/-- The rules of one node. -/
def elementItems (viewports : List Viewport) (e : Element) : Sheet :=
  styleItems e viewports ++ (kindRules e).map .rule

mutual
/-- The rules of a node and of all inside it. -/
def nodeItems (viewports : List Viewport) : Node → Sheet
  | .mk e children => elementItems viewports e ++ forestItems viewports children

/-- The rules of all nodes, each node before its children. -/
def forestItems (viewports : List Viewport) : List Node → Sheet
  | [] => []
  | n :: rest => nodeItems viewports n ++ forestItems viewports rest
end

mutual
/-- Whether a node is a spinner or has one inside. -/
def hasSpinner : Node → Bool
  | .mk e children => e.kind == .spinner || anySpinner children

/-- Whether there is a spinner among the nodes. -/
def anySpinner : List Node → Bool
  | [] => false
  | n :: rest => hasSpinner n || anySpinner rest
end

/-- The turning of spinners. -/
def spin : Item := .animation "spin" [⟨"to", [("transform", "rotate(360deg)")]⟩]

/-- The style sheet of a layout. -/
def layoutSheet (layout : List Node) (viewports : List Viewport) : Sheet :=
  forestItems viewports layout ++ if anySpinner layout then [spin] else []

/-- The text of the style sheet of a layout. -/
def layoutText (layout : List Node) (viewports : List Viewport) : String :=
  text (layoutSheet layout viewports)

end PageStudio.Css
