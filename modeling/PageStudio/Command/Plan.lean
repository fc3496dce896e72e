import PageStudio.Command.Request
import PageStudio.Json.Printer
import PageStudio.Node.Forest
import PageStudio.Project.Folder
import PageStudio.Project.Starter
import PageStudio.Site.Export
import PageStudio.Style.Resolve

/-!
# Plans

A command looks at the files that it needs and then either refuses or says everything that it is
going to do. So a command that refuses has done nothing.
-/

namespace PageStudio

open Style

/-- Why a command refuses or stops. -/
inductive CommandError where
  /-- A file cannot be read, made or written. -/
  | system
  /-- The configuration cannot be understood. -/
  | invalidConfig
  | noViewport
  | unreadableProject (path : String)
  | invalidProject (path : String) (cause : ReadError)
  | pageNotFound (id : String)
  | nodeNotFound (id : String)
  /-- A viewport that the configuration does not list. -/
  | unknownViewport (config : Config) (name : Option String)
deriving DecidableEq

/-- How causes are told that lie in the system or in the form of a file. -/
structure Wording where
  system : String
  form : String

def CommandError.message (w : Wording) : CommandError → String
  | .system => w.system
  | .invalidConfig => w.form
  | .noViewport => Config.fileName ++ " must list at least one viewport"
  | .unreadableProject path => "Cannot read project " ++ path ++ ": " ++ w.system
  | .invalidProject path _ => "Invalid project " ++ path ++ ": " ++ w.form
  | .pageNotFound id => "Page not found: " ++ id
  | .nodeNotFound id => "Node not found: " ++ id
  | .unknownViewport config name => config.unknownViewport name

/-! ## Reading -/

/-- The configuration of a text. -/
def Config.ofText (text : String) : Except CommandError Config :=
  match readText (fun v => ReadError.ofOption (Config.read v)) text with
  | .error _ => .error .invalidConfig
  | .ok c => if c.viewports.isEmpty then .error .noViewport else .ok c

/-- The configuration of a folder: the default one where there is no file. -/
def Config.load (s : Surroundings) : Except CommandError Config :=
  match s.look Config.fileName with
  | .missing => .ok {}
  | .unreadable => .error .system
  | .text text => Config.ofText text

/-- The viewport of a name, or the default one. -/
def Config.viewport (c : Config) (name : Option String) : Except CommandError Viewport :=
  match c.viewport? name with
  | some v => .ok v
  | none => .error (.unknownViewport c name)

/-- The project at a path. -/
def Project.load (s : Surroundings) (path : String) : Except CommandError Project :=
  match s.look path with
  | .text text => (readText Project.read text).mapError (.invalidProject (s.shown path))
  | _ => .error (.unreadableProject (s.shown path))

/-- The text of a project file. -/
def Project.text (p : Project) : String := p.toJson.pretty

/-- The text of a configuration file. -/
def Config.text (c : Config) : String := c.toJson.pretty

namespace Request

/-- Prints a line. -/
def printLine (line : String) : Action := .print (line ++ "\n")

/-! ## New projects -/

/-- Writes a file of a new project and says so. -/
def newFile (path text : String) : List Action :=
  [.write path text, printLine ("  ✓ Created " ++ path)]

/-- The plan of `init`: without force, only for a folder that has neither file. -/
def initPlan (s : Surroundings) (r : InitRequest) : List Action :=
  let isFree := s.look Config.fileName = .missing && s.look Project.fileName = .missing
  if !isFree && !r.force then
    [printLine ("⚠️ " ++ s.location ++ " already initialized"),
     printLine "Use --force to overwrite"]
  else
    printLine "📝 Initializing Pagewright project..." ::
      newFile Config.fileName (Config.text {}) ++
      newFile Project.fileName (Project.starter r.name).text ++
      [printLine "", printLine "✅ Project initialized!", printLine "", printLine "Next steps:",
       printLine ("  1. Edit " ++ Project.fileName), printLine "  2. Run: pagewright export",
       printLine "  3. Check output in dist/"]

/-! ## Exports -/

/-- The files of an export by their names: those of the project, or a single page. -/
def exportFiles (r : ExportRequest) (c : Config) (p : Project) :
    Except CommandError (Dict String String) := do
  match r.page with
  | none => return Site.projectFiles p.document p.theme p.settings c.viewports
  | some id =>
    let some page := p.document.page? id | .error (.pageNotFound id)
    let frame ← c.viewport r.viewport
    let some name := (Site.fileNames p.document.pages).get? id | .error (.pageNotFound id)
    return Dict.empty.insert name
      (Site.standalonePage p.document p.theme p.settings frame c.viewports page)

/-- Prints a file, under its name where there are others. -/
def printFile (several : Bool) (file : String × String) : List Action :=
  (if several then [printLine ("==> " ++ file.1 ++ " <==")] else []) ++ [.print file.2]

/-- Writes a file into a folder and says so. -/
def exportFile (s : Surroundings) (outDir : String) (file : String × String) : List Action :=
  let path := Path.join outDir file.1
  [.write path file.2, printLine ("  ✓ " ++ s.shown path)]

/-- The plan of `export`. -/
def exportPlan (s : Surroundings) (r : ExportRequest) : Except CommandError (List Action) := do
  let config ← Config.load s
  let project ← Project.load s r.project
  let files ← exportFiles r config project
  if r.toOutput then
    return files.entries.flatMap (printFile (files.size > 1))
  else
    let outDir := r.outDir.getD config.outDir
    return printLine "🔨 Exporting Pagewright project..." :: .makeFolder outDir ::
      files.entries.flatMap (exportFile s outDir) ++
      [printLine "", printLine ("✅ Exported " ++ Css.digits files.size ++ " files")]

/-! ## Styles -/

/-- The first node of an id, page by page. -/
def findNode? (d : Document) (id : String) : Option Node :=
  d.pages.findSome? fun p => Forest.find? (d.layout p.id) id

/-- The plan of `styles`. -/
def stylesPlan (s : Surroundings) (r : StylesRequest) : Except CommandError (List Action) := do
  let config ← Config.load s
  let project ← Project.load s r.project
  let some node := findNode? project.document r.node | .error (.nodeNotFound r.node)
  let viewport ← config.viewport r.viewport
  return [printLine (resolve node viewport config.viewports).toJson.pretty]

/-! ## All commands -/

/-- The plan of a command. -/
def plan (s : Surroundings) : Request → Except CommandError (List Action)
  | create r => .ok (initPlan s r)
  | publish r => exportPlan s r
  | inspect r => stylesPlan s r

end Request

/-! ## Running -/

/-- What a command comes to in a folder in memory. -/
structure Ran where
  outcome : Except CommandError Unit
  printed : String
  folder : Folder

/-- Runs a command in a folder in memory. -/
def Folder.command (f : Folder) (location : String) (r : Request) : Ran :=
  match r.plan ⟨location, f.look⟩ with
  | .error e => ⟨.error e, "", f⟩
  | .ok actions =>
    let result := f.run actions
    ⟨if result.done then .ok () else .error .system, result.printed, result.folder⟩

end PageStudio
