import PageStudio.Command.Arguments
import PageStudio.Project.Basic

/-!
# Commands

What can be asked for: a new project, an export, and the styles of a node.
-/

namespace PageStudio

open Arguments

/-- The arguments of `init`. -/
structure InitRequest where
  name : String
  force : Bool
deriving DecidableEq

/-- The arguments of `export`. -/
structure ExportRequest where
  project : String
  /-- The id of the page that is exported alone. -/
  page : Option String
  /-- The name of the viewport for a page alone. -/
  viewport : Option String
  outDir : Option String
  /-- Whether the files are printed. -/
  toOutput : Bool
deriving DecidableEq

/-- The arguments of `styles`. -/
structure StylesRequest where
  node : String
  viewport : Option String
  project : String
deriving DecidableEq

/-- A command with its arguments. -/
inductive Request where
  /-- A new project. -/
  | create (r : InitRequest)
  /-- An export. -/
  | publish (r : ExportRequest)
  /-- The styles of a node. -/
  | inspect (r : StylesRequest)
deriving DecidableEq

namespace Request

/-- What `init` can be given. -/
def initUsage : Usage where
  options := [{ name := "force", letter := some 'f', takesValue := false }]
  places := [{ name := "name" }]

/-- What `export` can be given. -/
def exportUsage : Usage where
  options := [{ name := "page", letter := some 'p' }, { name := "viewport", letter := some 'v' },
    { name := "out-dir", letter := some 'o' }, { name := "stdout", takesValue := false }]
  places := [{ name := "project", isPath := true }]

/-- What `styles` can be given. -/
def stylesUsage : Usage where
  options := [{ name := "viewport", letter := some 'v' },
    { name := "project", letter := some 'p', isPath := true }]
  places := [{ name := "node" }]

/-- Reads the arguments of a command. None where there is no such command. -/
def read? (command : String) (args : List String) : Option (Except UsageError Request) :=
  match command with
  | "init" => some do
    let g ← Arguments.read initUsage args
    return .create { name := (g.value? "name").getD "My Site", force := g.has "force" }
  | "export" => some do
    let g ← Arguments.read exportUsage args
    return .publish {
      project := (g.value? "project").getD Project.fileName
      page := g.value? "page"
      viewport := g.value? "viewport"
      outDir := g.value? "out-dir"
      toOutput := g.has "stdout" }
  | "styles" => some do
    let g ← Arguments.read stylesUsage args
    match g.value? "node" with
    | none => .error .missing
    | some node =>
      return .inspect {
        node
        viewport := g.value? "viewport"
        project := (g.value? "project").getD Project.fileName }
  | _ => none

/-- The paths that a command looks at. -/
def paths : Request → List String
  | create _ => [Config.fileName, Project.fileName]
  | publish r => [Config.fileName, r.project]
  | inspect r => [Config.fileName, r.project]

end Request

end PageStudio
