import PageStudio.Document.Page
import PageStudio.Node.Tree

/-!
# Documents

A document is a list of pages with a layout, that is a forest of nodes, for each, and one page
that is active. Every change makes a new document. The last page cannot be removed, and no id of a
node may occur twice, on whichever pages.

## Main definitions

* `Document.Valid`: what every document keeps.
* `Document.ofDraft`: the document of what a file says, or why there is none.
-/

namespace PageStudio

/-- Why there is no such document. -/
inductive DocumentError where
  | duplicateId (id : String)
  | pageNotFound (id : String)
  | duplicatePage (id : String)
  | lastPage
  | noPages
deriving DecidableEq, Inhabited

def DocumentError.message : DocumentError → String
  | .duplicateId id => "Duplicate node id: " ++ id
  | .pageNotFound id => "Page not found: " ++ id
  | .duplicatePage id => "Duplicate page id: " ++ id
  | .lastPage => "A document must keep at least one page"
  | .noPages => "Document has no pages"

/-- A document. -/
structure Document where
  pages : List Page
  layouts : Dict String (List Node)
  activePageId : String
deriving Inhabited

/-- What a file says about a document. -/
structure Document.Draft where
  pages : List Page
  layouts : Dict String (List Node) := ∅
  activePageId : Option String := none

namespace Document

/-! ## Looking into a document -/

/-- The page of an id. -/
def page? (d : Document) (id : String) : Option Page := d.pages.find? fun p => p.id == id

/-- Whether there is a page of an id. -/
def hasPage (d : Document) (id : String) : Bool := d.pages.any fun p => p.id == id

/-- The place of a page among the pages. -/
def pageIndex? (d : Document) (id : String) : Option Nat := d.pages.findIdx? fun p => p.id == id

/-- The ids of the pages. -/
def pageIds (d : Document) : List String := d.pages.map (·.id)

/-- The active page. -/
def activePage? (d : Document) : Option Page := (d.page? d.activePageId).or d.pages.head?

/-- The layout of a page: empty where there is none. -/
def layout (d : Document) (id : String) : List Node := (d.layouts.get? id).getD []

/-- The layout of the active page. -/
def activeLayout (d : Document) : List Node := d.layout d.activePageId

/-- The ids of all nodes, page by page. -/
def nodeIds (d : Document) : List String :=
  d.pages.flatMap fun p => Node.forestIds (d.layout p.id)

/-- Whether two documents are the same. -/
def same (a b : Document) : Bool :=
  a.pages == b.pages && a.layouts == b.layouts && a.activePageId == b.activePageId

instance : BEq Document := ⟨same⟩

/-- The invariant of documents: at least one page, no page id and no node id twice, a layout for
every page and for nothing else, and an active page that exists. -/
structure Valid (d : Document) : Prop where
  pages_ne_nil : d.pages ≠ []
  pageIds_nodup : d.pageIds.Nodup
  mem_layouts_iff : ∀ id, id ∈ d.layouts.keys ↔ id ∈ d.pageIds
  active_mem : d.activePageId ∈ d.pageIds
  nodeIds_nodup : d.nodeIds.Nodup

/-! ## Making documents -/

/-- The first text that occurs a second time. -/
def firstRepeated? (seen : List String) : List String → Option String
  | [] => none
  | s :: rest => if seen.contains s then some s else firstRepeated? (s :: seen) rest

/-- Refuses a document where a node id occurs twice. -/
def checkNodeIds (d : Document) : Except DocumentError Unit :=
  match firstRepeated? [] d.nodeIds with
  | some id => .error (.duplicateId id)
  | none => .ok ()

/-- The document of one page without nodes. -/
def ofPage (p : Page) : Document := ⟨[p], Dict.empty.insert p.id [], p.id⟩

/-- The document of a draft. Layouts of other pages are dropped, missing ones are empty, and the
first page is active where the draft does not name another. -/
def ofDraft (draft : Draft) : Except DocumentError Document := do
  let first :: _ := draft.pages | .error .noPages
  let ids := draft.pages.map (·.id)
  if let some id := firstRepeated? [] ids then .error (.duplicatePage id)
  let layouts := Dict.ofList (ids.map fun id => (id, (draft.layouts.get? id).getD []))
  let activePageId := (draft.activePageId.filter ids.contains).getD first.id
  let d : Document := ⟨draft.pages, layouts, activePageId⟩
  d.checkNodeIds
  return d

/-! ## Changing documents -/

/-- Refuses an id without a page. -/
def checkPage (d : Document) (id : String) : Except DocumentError Unit :=
  if d.hasPage id then .ok () else .error (.pageNotFound id)

/-- The document with another layout of a page. -/
def withLayout (d : Document) (id : String) (layout : List Node) :
    Except DocumentError Document := do
  d.checkPage id
  return { d with layouts := d.layouts.insert id layout }

/-- The document with one more page behind the others, which has no nodes and becomes active. -/
def withPageAdded (d : Document) (p : Page) : Except DocumentError Document :=
  if d.hasPage p.id then .error (.duplicatePage p.id)
  else .ok ⟨d.pages ++ [p], d.layouts.insert p.id [], p.id⟩

/-- The document with a page changed. -/
def withPageUpdated (d : Document) (id : String) (patch : PagePatch) :
    Except DocumentError Document := do
  d.checkPage id
  return { d with pages := d.pages.map fun p => if p.id == id then patch.apply p else p }

/-- The document without a page and its layout. The first of the other pages becomes active in its
place. -/
def withPageRemoved (d : Document) (id : String) : Except DocumentError Document := do
  d.checkPage id
  match d.pages.filter fun p => p.id != id with
  | [] => .error .lastPage
  | first :: rest =>
    return ⟨first :: rest, d.layouts.erase id,
      if d.activePageId == id then first.id else d.activePageId⟩

/-- The document with another active page. -/
def withActivePage (d : Document) (id : String) : Except DocumentError Document := do
  d.checkPage id
  return { d with activePageId := id }

end Document

end PageStudio
