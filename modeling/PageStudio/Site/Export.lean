import PageStudio.Site.FileNames
import PageStudio.Site.PageText

/-!
# Exports

A document is exported as a project, which has a file for every page, one style sheet and one
script, or page by page, where a page has its style sheet and its scripts inside and leads to no
other page.
-/

namespace PageStudio.Site

open Html Style

/-- The file of the style sheet of a project. -/
def stylesheetFile : String := "styles.css"

/-- The file of the shared script of a project. -/
def scriptFile : String := "script.js"

/-! ## Projects -/

/-- The style sheet of a project: the base in the size of the reference viewport, and all layouts.
-/
def projectStylesheet (d : Document) (theme : Theme) (viewports : List Viewport) : String :=
  Css.baseText theme (viewports.head?.getD Viewport.desktop) ++
    Css.concat (d.pages.map fun p => Css.layoutText (d.layout p.id) viewports)

/-- The navigation of a page of a project. -/
def projectNav (d : Document) (names : Dict String String) (page : Page) : List NavLine :=
  d.pages.filterMap fun other =>
    (names.get? other.id).map fun file => ⟨"./" ++ file, other.name, other.id == page.id⟩

/-- The scripts of a page of a project: the shared one, and its own unless that is empty. -/
def projectScripts (page : Page) : List String :=
  ("<script src=\"" ++ scriptFile ++ "\"></script>") ::
    ((page.customJs.filter fun js => !js.isEmpty).map fun js => scriptElement (js ++ "\n")).toList

/-- The text of a page of a project. -/
def projectPage (d : Document) (settings : Settings) (names : Dict String String) (page : Page) :
    String :=
  Shell.text {
    page
    settings
    nav := projectNav d names page
    stylesheet := "<link rel=\"stylesheet\" href=\"" ++ stylesheetFile ++ "\">"
    scripts := projectScripts page
    layout := layoutText (.project names) layoutFormat (d.layout page.id) }

/-- The files of a project, by their names. -/
def projectFiles (d : Document) (theme : Theme) (settings : Settings) (viewports : List Viewport) :
    Dict String String :=
  let names := fileNames d.pages
  let shared := (Dict.empty.insert stylesheetFile (projectStylesheet d theme viewports)).insert
    scriptFile (sharedScript settings)
  d.pages.foldl (fun files page =>
    match names.get? page.id with
    | some name => files.insert name (projectPage d settings names page)
    | none => files) shared

/-! ## Single pages -/

/-- The text that stands for a page that does not exist. -/
def missingPage (id : String) : String :=
  linesText ["<!DOCTYPE html>", "<html lang=\"en\">", "<head>", "  <meta charset=\"UTF-8\">",
    "  <title>Page not found</title>", "</head>", "<body>",
    "  <!-- Page not found: " ++ escapeComment id ++ " -->", "</body>", "</html>"]

/-- The style sheet of a page that stands alone, its frame in the size of a viewport. -/
def pageStylesheet (d : Document) (theme : Theme) (frame : Viewport) (viewports : List Viewport)
    (id : String) : String :=
  Css.baseText theme frame ++ Css.layoutText (d.layout id) viewports

/-- The text of a page that stands alone. -/
def standalonePage (d : Document) (theme : Theme) (settings : Settings) (frame : Viewport)
    (viewports : List Viewport) (page : Page) : String :=
  Shell.text {
    page
    settings
    nav := d.pages.map fun other => ⟨inertAddress, other.name, other.id == page.id⟩
    stylesheet := "<style>\n" ++ pageStylesheet d theme frame viewports page.id ++ "</style>"
    scripts := [scriptElement (pageScript settings page)]
    layout := layoutText .singlePage layoutFormat (d.layout page.id) }

/-- The text of the page of an id, standing alone. -/
def singlePage (d : Document) (theme : Theme) (settings : Settings) (frame : Viewport)
    (viewports : List Viewport) (id : String) : String :=
  match d.page? id with
  | some page => standalonePage d theme settings frame viewports page
  | none => missingPage id

end PageStudio.Site
