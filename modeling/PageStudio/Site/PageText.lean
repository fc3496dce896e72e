import PageStudio.Css.Base
import PageStudio.Css.Layout
import PageStudio.Document.Basic
import PageStudio.Html.NodeMarkup
import PageStudio.Html.Script

/-!
# Whole pages

The text of a page around the markup of its nodes: the head, the navigation over all pages, the
frame and the scripts.
-/

namespace PageStudio.Site

open Html

/-- An entry of the navigation. -/
structure NavLine where
  address : String
  label : String
  /-- Whether it is the page itself. -/
  active : Bool

/-- What the text of a page is made of. -/
structure Shell where
  page : Page
  settings : Settings
  nav : List NavLine
  /-- The link to the style sheet, or the style sheet. -/
  stylesheet : String
  scripts : List String
  /-- The markup of the nodes. -/
  layout : String

namespace NavLine

/-- The line of an entry. -/
def text (n : NavLine) : String :=
  "        " ++ (Inline.element "li" [] [.element "a"
    [.value "href" n.address, cls (if n.active then "nav-link active" else "nav-link")]
    [.text n.label]]).written

end NavLine

namespace Shell

/-- The lines of the head. What the author adds to it stands at the left margin. -/
def headLines (s : Shell) : List String :=
  ["  <meta charset=\"UTF-8\">",
   "  <meta name=\"viewport\" content=\"width=device-width, initial-scale=1.0\">",
   "  <title>" ++ escape s.page.title ++ "</title>"] ++
  (s.page.seoDescription.map fun d =>
    "  <meta name=\"description\" content=\"" ++ escape d ++ "\">").toList ++
  ["  " ++ s.stylesheet] ++
  s.settings.globalHeadContent.toList ++ s.page.customHeadContent.toList

/-- The lines from the body's beginning to the frame. -/
def navLines (s : Shell) : List String :=
  ["  <header>", "    <nav class=\"main-nav\">", "      <ul>"] ++ s.nav.map NavLine.text ++
  ["      </ul>", "    </nav>", "  </header>", "  <main>", "    <div id=\"page-frame\">"]

/-- The text of a page. -/
def text (s : Shell) : String :=
  linesText (["<!DOCTYPE html>", "<html lang=\"en\">", "<head>"] ++ s.headLines ++
    ["</head>", "<body>"] ++ s.navLines) ++
  s.layout ++
  linesText (["    </div>", "  </main>"] ++ s.scripts.map ("  " ++ ·) ++ ["</body>", "</html>"])

end Shell

/-- How the nodes of a page are laid out: inside the frame, which is three levels deep. -/
def layoutFormat : Format := { depth := 3 }

/-- A script element around code on lines of its own. -/
def scriptElement (code : String) : String := "<script>\n" ++ code ++ "</script>"

end PageStudio.Site
