import PageStudio.Document.Form
import PageStudio.Node.Copy
import PageStudio.Node.Forest
import PageStudio.Node.Patch

/-!
# Mutations

The edits that a document can undergo. Those of nodes work on the active page, and do nothing
where the node does not exist; a parent that does not exist is an error. Those of pages want their
page to exist. No mutation leaves two nodes with one id behind.
-/

namespace PageStudio

/-- An edit of a document. -/
inductive Mutation where
  | insertNode (parent : Option String) (node : Node)
  | updateNode (id : String) (patch : NodePatch)
  | removeNode (id : String)
  | duplicateNode (id : String)
  | clearPage (id : String)
  | replaceLayout (id : String) (nodes : List Node)
  | addPage (page : Page)
  | updatePage (id : String) (patch : PagePatch)
  | deletePage (id : String)
deriving Inhabited

/-- Why an edit fails. -/
inductive MutationError where
  | pageNotFound (id : String)
  | parentNotFound (id : String)
  | lastPage
  | duplicateId (id : String)
  | duplicatePage (id : String)
deriving DecidableEq, Inhabited

namespace MutationError

def message : MutationError → String
  | .pageNotFound id => "Page not found: " ++ id
  | .parentNotFound id => "Parent not found: " ++ id
  | .lastPage => "Cannot delete the last page"
  | .duplicateId id => "Duplicate node id: " ++ id
  | .duplicatePage id => "Duplicate page id: " ++ id

/-- The error of an edit whose result is no document. -/
def ofDocumentError : DocumentError → MutationError
  | .duplicateId id => .duplicateId id
  | .pageNotFound id => .pageNotFound id
  | .duplicatePage id => .duplicatePage id
  | .lastPage | .noPages => .lastPage

end MutationError

namespace Mutation

def name : Mutation → String
  | insertNode .. => "InsertNode"
  | updateNode .. => "UpdateNode"
  | removeNode .. => "RemoveNode"
  | duplicateNode .. => "DuplicateNode"
  | clearPage .. => "ClearPage"
  | replaceLayout .. => "ReplaceLayout"
  | addPage .. => "AddPage"
  | updatePage .. => "UpdatePage"
  | deletePage .. => "DeletePage"

/-! ## Applying -/

/-- The result of a change of a document, its error being that of an edit. -/
def lift (r : Except DocumentError Document) : Except MutationError Document :=
  r.mapError MutationError.ofDocumentError

/-- The document with another layout of the active page. -/
def withActiveLayout (d : Document) (layout : List Node) : Except MutationError Document :=
  lift (d.withLayout d.activePageId layout)

/-- The document with a node added to the active page. -/
def insertInto (d : Document) (parent : Option String) (n : Node) :
    Except MutationError Document :=
  match Forest.insert? d.activeLayout parent n with
  | some layout => withActiveLayout d layout
  | none => .error (.parentNotFound (parent.getD ""))

/-- The document with a copy of a node behind the last of its siblings. -/
def duplicateIn (d : Document) (ids : IdSource) (id : String) :
    Except MutationError Document × IdSource :=
  match Forest.locate? d.activeLayout id with
  | none => (.ok d, ids)
  | some found =>
    let (copy, ids) := found.node.copy ids
    (insertInto d (found.parent.map (·.id)) copy.namedAsCopy, ids)

/-- The edited document before its ids are looked at, and the source of ids behind it. -/
def draft (d : Document) (ids : IdSource) : Mutation → Except MutationError Document × IdSource
  | insertNode parent n => (insertInto d parent n, ids)
  | updateNode id p => (withActiveLayout d (Forest.patch d.activeLayout id p), ids)
  | removeNode id => (withActiveLayout d (Forest.remove d.activeLayout id), ids)
  | duplicateNode id => duplicateIn d ids id
  | clearPage id => (lift (d.withLayout id []), ids)
  | replaceLayout id nodes => (lift (d.withLayout id nodes), ids)
  | addPage p => (lift (d.withPageAdded p), ids)
  | updatePage id p => (lift (d.withPageUpdated id p), ids)
  | deletePage id => (lift (d.withPageRemoved id), ids)

/-- A document whose node ids are all different, or the error that says which is not. -/
def checked (d : Document) : Except MutationError Document :=
  match d.checkNodeIds with
  | .ok () => .ok d
  | .error e => .error (.ofDocumentError e)

/-- The edited document, and the source of ids behind it. Ids that an edit has taken stay taken even
where the edit fails. -/
def apply (m : Mutation) (d : Document) (ids : IdSource) :
    Except MutationError Document × IdSource :=
  let (r, ids) := m.draft d ids
  (r.bind checked, ids)

end Mutation

end PageStudio
