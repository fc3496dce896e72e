import PageStudio.Node.Palette
import PageStudio.Node.Patch
import PageStudio.Project.Basic

/-!
# Starter projects

A new project has one page, with a navigation bar and a heading that welcomes to the site.
-/

namespace PageStudio.Project

open Style

/-- What the heading wears. -/
def headingBase : Layer :=
  Dict.ofList
    [(.top, "120px"), (.left, "40px"), (.fontSize, "text-4xl"), (.fontWeight, "font-bold")]

/-- The change from a new text to the heading of a site. -/
def headingPatch (name : String) : NodePatch where
  content := some { text := some ("Welcome to " ++ name) }
  styles := some (Dict.empty.insert Viewport.referenceName { base := headingBase })

/-- The project that a site starts with. Its name is where the ids come from. -/
def starter (name : String) : Project :=
  let (id, ids) := (IdSource.ofText name).pageId "Home"
  let (bar, ids) := ids.newNode .navbar
  let (heading, _) := ids.newNode .text
  { document := {
      pages := [Page.titled id "Home"]
      layouts := Dict.empty.insert id [bar, (headingPatch name).apply heading]
      activePageId := id } }

end PageStudio.Project
