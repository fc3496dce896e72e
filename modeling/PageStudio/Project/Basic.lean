import PageStudio.Document.Form
import PageStudio.Document.Settings
import PageStudio.Style.Viewport

/-!
# Projects

What a project folder holds: the document with its theme and settings, and a configuration that says
where exports go and which viewports there are.
-/

namespace PageStudio

open Json Style

/-- The file of the configuration in a project folder. -/
def Config.fileName : String := "pagewright.config.json"

/-- The file of the project in a project folder. -/
def Project.fileName : String := "project.json"

/-! ## Configuration -/

/-- Where exports go, and which viewports there are. -/
structure Config where
  /-- The folder for exported projects. -/
  outDir : String := "dist"
  /-- The viewports, the reference first. -/
  viewports : List Viewport := Viewport.builtIn
  /-- The viewport of single pages where none is asked for. -/
  defaultViewport : String := Viewport.referenceName
deriving DecidableEq, Inhabited

namespace Config

/-- The viewport of a name, or the default one: none where it is not listed. -/
def viewport? (c : Config) (name : Option String) : Option Viewport :=
  Viewport.find? c.viewports (name.getD c.defaultViewport)

/-- The text of the error about a viewport that is not listed. -/
def unknownViewport (c : Config) (name : Option String) : String :=
  "Unknown viewport: " ++ name.getD c.defaultViewport ++ ". Use one of: " ++
    ", ".intercalate (c.viewports.map (·.name))

def toJson (c : Config) : Json :=
  .object [("outDir", .string c.outDir), ("viewports", .array (c.viewports.map Viewport.toJson)),
    ("defaultViewport", .string c.defaultViewport)]

/-- Reads a configuration. What is missing has its default. -/
def read (v : Source) : Option Config := do
  let fields ← Fields.read? ["outDir", "viewports", "defaultViewport"] v
  let outDir ← fields.withDefault "outDir" Reader.text "dist"
  let viewports ← fields.withDefault "viewports" (Reader.list Viewport.read) Viewport.builtIn
  let defaultViewport ←
    fields.withDefault "defaultViewport" Reader.text Viewport.referenceName
  return { outDir, viewports, defaultViewport }

end Config

/-! ## Project -/

/-- A document with its theme and settings. -/
structure Project where
  document : Document
  theme : Theme := {}
  settings : Settings := {}
deriving Inhabited

namespace Project

def toJson (p : Project) : Json :=
  .object [("document", p.document.toJson), ("theme", p.theme.toJson),
    ("settings", p.settings.toJson)]

/-- What has been read of a project. -/
structure Draft where
  document : Option Document := none
  theme : Option Theme := none
  settings : Option Settings := none

/-- Reads one field more. -/
def Draft.readField (draft : Draft) (name : String) (v : Source) : Except ReadError Draft :=
  match name with
  | "document" => do return { draft with document := some (← Document.read v) }
  | "theme" => do return { draft with theme := some (← ReadError.ofOption (Theme.read v)) }
  | _ => do return { draft with settings := some (← ReadError.ofOption (Settings.read v)) }

/-- Reads a project, field by field in the order of the text: a document that is refused is the
reason even where the text stops being well formed behind it. -/
def read (v : Source) : Except ReadError Project := do
  let fields := Fields.ofSource ["document", "theme", "settings"] v
  let draft ← fields.found.foldlM (fun (d : Draft) f => d.readField f.1 f.2) {}
  match draft.document, fields.complete with
  | some document, true =>
    return { document, theme := draft.theme.getD {}, settings := draft.settings.getD {} }
  | _, _ => .error .malformed

end Project

end PageStudio
