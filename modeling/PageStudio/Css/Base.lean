import PageStudio.Css.Sheet
import PageStudio.Document.Settings
import PageStudio.Style.Token
import PageStudio.Style.Viewport

/-!
# The base style sheet

What every page looks like around its nodes: the variables of the theme, the navigation, the frame
that holds the nodes, and the parts of the nodes that are more than one element.
-/

namespace PageStudio.Css

open Style

/-- The background of a theme whose colour is none. -/
def fallbackBackground : String := "#ffffff"

/-- The colour of texts of a theme whose colour is none. -/
def fallbackText : String := "#000000"

/-- The rules of the page around the frame. -/
def pageRules : List Rule := [
  ⟨"body", [("margin", "0"), ("font-family", "var(--font-family)"),
    ("background-color", "#1f2937")]⟩,
  ⟨"*", [("box-sizing", "border-box")]⟩,
  ⟨"img, iframe", [("max-width", "100%"), ("height", "auto"), ("display", "block"),
    ("border", "none")]⟩,
  ⟨"a", [("color", "inherit"), ("text-decoration", "none")]⟩,
  ⟨"input, textarea, button, select", [("font-family", "inherit")]⟩,
  ⟨".main-nav", [("background-color", "rgba(0,0,0,0.2)"), ("padding", "1rem")]⟩,
  ⟨".main-nav ul", [("list-style", "none"), ("margin", "0"), ("padding", "0"),
    ("display", "flex"), ("gap", "1.5rem"), ("justify-content", "center")]⟩,
  ⟨".main-nav a", [("color", "#ffffff"), ("padding-bottom", "0.25rem"),
    ("border-bottom", "2px solid transparent"), ("transition", "border-color 0.3s")]⟩,
  ⟨".main-nav a:hover, .main-nav a.active", [("border-color", "#ffffff")]⟩,
  ⟨"main", [("padding", "2rem 1rem")]⟩]

/-- The rules of parts of nodes. -/
def widgetRules : List Rule := [
  ⟨".dropdown-container", [("display", "inline-block")]⟩,
  ⟨".dropdown-button", [("width", "100%"), ("height", "100%"), ("border", "none"),
    ("background", "inherit"), ("color", "inherit"), ("font", "inherit"), ("cursor", "pointer"),
    ("text-align", "center")]⟩,
  ⟨".dropdown-content", [("display", "none"), ("position", "absolute"),
    ("background-color", "#f9f9f9"), ("min-width", "160px"),
    ("box-shadow", "0px 8px 16px 0px rgba(0,0,0,0.2)"), ("z-index", "1"),
    ("list-style", "none"), ("padding", "0"), ("margin-top", "5px"), ("border-radius", "4px"),
    ("overflow", "hidden")]⟩,
  ⟨".dropdown-content a", [("color", "black"), ("padding", "12px 16px"),
    ("text-decoration", "none"), ("display", "block")]⟩,
  ⟨".dropdown-content a:hover", [("background-color", "#f1f1f1")]⟩,
  ⟨".dropdown-container:hover .dropdown-content", [("display", "block")]⟩,
  ⟨".accordion-item", [("border-bottom", "1px solid #4b5563")]⟩,
  ⟨".accordion-title", [("display", "flex"), ("justify-content", "space-between"),
    ("align-items", "center"), ("width", "100%"), ("padding", "1rem"), ("background", "none"),
    ("border", "none"), ("color", "inherit"), ("font-size", "1rem"), ("text-align", "left"),
    ("cursor", "pointer")]⟩,
  ⟨".accordion-content", [("max-height", "0"), ("overflow", "hidden"),
    ("transition", "max-height 0.3s ease-out"), ("padding", "0 1rem")]⟩,
  ⟨".accordion-content p", [("padding-bottom", "1rem")]⟩,
  ⟨".accordion-icon", [("font-size", "1.25rem")]⟩,
  ⟨".tabs-nav", [("display", "flex"), ("border-bottom", "1px solid #4b5563")]⟩,
  ⟨".tab-button", [("padding", "0.75rem 1.25rem"), ("background", "none"), ("border", "none"),
    ("color", "#9ca3af"), ("cursor", "pointer"), ("font-size", "1rem")]⟩,
  ⟨".tab-button.active", [("color", "#ffffff"), ("border-bottom", "2px solid #3b82f6")]⟩,
  ⟨".tabs-content-wrapper", [("position", "relative"), ("width", "100%"), ("flex-grow", "1")]⟩,
  ⟨".tab-content", [("display", "none"), ("position", "absolute"), ("top", "0"), ("left", "0"),
    ("width", "100%"), ("height", "100%")]⟩,
  ⟨".tab-content.active", [("display", "block")]⟩,
  ⟨".tabs-container", [("display", "flex"), ("flex-direction", "column"), ("height", "100%")]⟩,
  ⟨".carousel-container", [("position", "relative"), ("overflow", "hidden")]⟩,
  ⟨".carousel-track", [("display", "flex"), ("transition", "transform 0.5s ease-in-out")]⟩,
  ⟨".carousel-slide", [("min-width", "100%")]⟩,
  ⟨".carousel-prev, .carousel-next", [("position", "absolute"), ("top", "50%"),
    ("transform", "translateY(-50%)"), ("background-color", "rgba(0,0,0,0.5)"),
    ("color", "white"), ("border", "none"), ("padding", "0.5rem 1rem"), ("cursor", "pointer"),
    ("z-index", "1")]⟩,
  ⟨".carousel-prev", [("left", "1rem")]⟩,
  ⟨".carousel-next", [("right", "1rem")]⟩,
  ⟨".rating span", [("color", "#4b5563")]⟩,
  ⟨".rating span.filled", [("color", "inherit")]⟩]

/-- The variables of a theme. -/
def themeRule (theme : Theme) : Rule :=
  ⟨":root",
    [("--font-family", theme.fontFamily),
     ("--background-color", themeColor theme.bodyBackground fallbackBackground),
     ("--text-color", themeColor theme.bodyColor fallbackText)]⟩

/-- The frame around the nodes, in the size of a viewport. -/
def frameRule (frame : Viewport) : Rule :=
  ⟨"#page-frame",
    [("position", "relative"),
     ("width", "100%"),
     ("max-width", digits frame.width.toNat ++ "px"),
     ("height", digits frame.height.toNat ++ "px"),
     ("margin", "0 auto"),
     ("box-shadow", "0 10px 25px rgba(0,0,0,0.3)"),
     ("overflow", "hidden"),
     ("background-color", "var(--background-color)"),
     ("color", "var(--text-color)")]⟩

/-- The base style sheet. -/
def baseSheet (theme : Theme) (frame : Viewport) : Sheet :=
  (themeRule theme :: pageRules ++ frameRule frame :: widgetRules).map .rule

/-- The text of the base style sheet. -/
def baseText (theme : Theme) (frame : Viewport) : String := text (baseSheet theme frame)

end PageStudio.Css
