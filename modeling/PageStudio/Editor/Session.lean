import PageStudio.Document.Settings
import PageStudio.Editor.Generated
import PageStudio.Editor.History
import PageStudio.Editor.Mutation
import PageStudio.Node.Palette
import PageStudio.Site.Export
import PageStudio.Style.Resolve

/-!
# Editing sessions

A session is a document with its history, and what no step back changes: theme, settings,
viewports, the selected node and the source of ids. An edit that fails changes nothing but the
source of ids, and an edit that changes nothing leaves no trace in the history.
-/

namespace PageStudio

open Style

/-- Why a session refuses a request. -/
inductive SessionError where
  | mutation (cause : MutationError)
  | generation (cause : GenerationError)
  | document (cause : DocumentError)
  | unknownViewport (name : String)
deriving DecidableEq, Inhabited

def SessionError.message : SessionError → String
  | .mutation e => "Mutation error: " ++ e.message
  | .generation e => "Generation error: " ++ e.message
  | .document e => "Model error: " ++ e.message
  | .unknownViewport name => "Unknown viewport: " ++ name

/-- An editing session. -/
structure Session where
  history : History Document
  theme : Theme := {}
  settings : Settings := {}
  /-- The viewports, the reference first. -/
  viewports : List Viewport := Viewport.builtIn
  /-- The name of the viewport that is looked at. -/
  activeViewport : String := Viewport.referenceName
  /-- The id of the selected node. -/
  selection : Option String := none
  ids : IdSource
deriving Inhabited

namespace Session

/-! ## Opening and looking -/

/-- A session on a document. New ids are behind those of the nodes of the document. -/
def start (d : Document) (ids : IdSource) : Session where
  history := .ofPresent d
  ids := ids.reserve d.nodeIds

/-- The session with other viewports, the first of which is looked at. -/
def withViewports (s : Session) (viewports : List Viewport) : Session :=
  { s with
    viewports
    activeViewport := (viewports.head?.map (·.name)).getD s.activeViewport }

/-- The document as it is. -/
def document (s : Session) : Document := s.history.present

/-- The viewport that is looked at. -/
def activeViewport? (s : Session) : Option Viewport := Viewport.find? s.viewports s.activeViewport

/-- The node of an id on the active page. -/
def node? (s : Session) (id : String) : Option Node := Forest.find? s.document.activeLayout id

/-- The selected node. -/
def selectedNode? (s : Session) : Option Node := s.selection.bind s.node?

/-- What the selected node looks like in the viewport that is looked at. -/
def resolved? (s : Session) : Option Appearance := do
  let n ← s.selectedNode?
  let v ← s.activeViewport?
  return resolve n v s.viewports

/-- The files of the document as a project. -/
def projectFiles (s : Session) : Dict String String :=
  Site.projectFiles s.document s.theme s.settings s.viewports

/-! ## Selecting -/

/-- Selects a node of the active page; any other request clears the selection. -/
def select (s : Session) (id : Option String) : Session :=
  { s with selection := id.filter fun id => (s.node? id).isSome }

/-- Clears a selection whose node is gone. -/
def prune (s : Session) : Session := s.select s.selection

/-- Looks at another viewport. -/
def setViewport (s : Session) (name : String) : Except SessionError Session :=
  if (Viewport.find? s.viewports name).isSome then .ok { s with activeViewport := name }
  else .error (.unknownViewport name)

/-- Makes another page active, which starts a new history. -/
def selectPage (s : Session) (id : String) : Except SessionError Session :=
  if id == s.document.activePageId then .ok s
  else
    match s.document.withActivePage id with
    | .ok d => .ok { s with history := s.history.reset d, selection := none }
    | .error e => .error (.document e)

/-! ## Editing -/

/-- Edits the document, and says whether that changed it. -/
def apply (m : Mutation) (s : Session) : Except SessionError Bool × Session :=
  match m.apply s.document s.ids with
  | (.error e, ids) => (.error (.mutation e), { s with ids })
  | (.ok next, ids) =>
    let (changed, history) := s.history.commit next
    (.ok changed, prune { s with history, ids })

/-- Takes the last edit back. -/
def undo (s : Session) : Bool × Session :=
  let (changed, history) := s.history.undo
  (changed, prune { s with history })

/-- Makes an edit again that was taken back. -/
def redo (s : Session) : Bool × Session :=
  let (changed, history) := s.history.redo
  (changed, prune { s with history })

/-- Adds a node from the palette and selects it. The answer is its id. -/
def addNode (kind : Kind) (parent : Option String) (s : Session) :
    Except SessionError String × Session :=
  let (n, ids) := s.ids.newNode kind
  match apply (.insertNode parent n) { s with ids } with
  | (.error e, s) => (.error e, s)
  | (.ok _, s) => (.ok n.id, { s with selection := some n.id })

/-- The name of a page without a name, by its number. -/
def untitled (n : Nat) : String :=
  if n ≤ 1 then "Untitled" else "Untitled " ++ String.ofList (Nat.toDigits 10 n)

/-- The first number from `n` on whose name is free, within `tries` numbers. -/
def freeUntitled (taken : List String) : (tries n : Nat) → Nat
  | 0, n => n
  | tries + 1, n => if taken.contains (untitled n) then freeUntitled taken tries (n + 1) else n

/-- A name that no page has. Of more numbers than there are pages, one is free. -/
def untitledName (d : Document) : String :=
  untitled (freeUntitled (d.pages.map (·.name)) d.pages.length 1)

/-- Adds a page, which becomes active. The answer is its id. -/
def addPage (name : Option String) (s : Session) : Except SessionError String × Session :=
  let name := name.getD (untitledName s.document)
  let (id, ids) := s.ids.pageId name
  match apply (.addPage (Page.titled id name)) { s with ids } with
  | (.error e, s) => (.error e, s)
  | (.ok _, s) => (.ok id, { s with selection := none })

/-- Puts a generated layout in place of that of the active page, and says whether that changed it.
-/
def applyGenerated (generated : Except GenerationError (List Node)) (s : Session) :
    Except SessionError Bool × Session :=
  match generated with
  | .ok nodes => apply (.replaceLayout s.document.activePageId nodes) s
  | .error e => (.error (.generation e), s)

/-- Puts the layout of a generated text in place of that of the active page. -/
def generate (response : String) (s : Session) : Except SessionError Bool × Session :=
  let (generated, ids) := Generated.layout response s.ids
  applyGenerated generated { s with ids }

end Session

end PageStudio
