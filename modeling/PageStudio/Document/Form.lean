import PageStudio.Document.Basic
import PageStudio.Node.Form

/-!
# The stored form of documents

A stored document can be refused for two reasons: it does not have the shape of a document, or it
has and the document it says is none.
-/

namespace PageStudio

open Json

/-- Why nothing can be read. -/
inductive ReadError where
  /-- The text is not JSON, or has another shape. -/
  | malformed
  /-- The text is well shaped up to the end of a document that is refused. -/
  | document (cause : DocumentError)
deriving DecidableEq, Inhabited

/-- What is read, where a missing value means that the text is malformed. -/
def ReadError.ofOption {α : Type} : Option α → Except ReadError α
  | some a => .ok a
  | none => .error .malformed

/-- Reads a whole text. Nothing but blanks may follow the value; what follows is looked at last. -/
def readText {α : Type} (read : Source → Except ReadError α) (text : String) :
    Except ReadError α := do
  let (v, more) := Source.parse text
  let a ← read v
  if more then .error .malformed else .ok a

namespace Document

def toJson (d : Document) : Json :=
  .object [
    ("pages", .array (d.pages.map Page.toJson)),
    ("pageLayouts",
      .object (d.layouts.entries.map fun e => (e.1, .array (Node.forestJson e.2)))),
    ("activePageId", .string d.activePageId)]

/-- Reads what a file says about a document. -/
def Draft.read (v : Source) : Option Draft := do
  let fields ← Fields.read? ["pages", "pageLayouts", "activePageId"] v
  let pages ← fields.required "pages" (Reader.list Page.read)
  let layouts ← fields.withDefault "pageLayouts" (Reader.table readForest) ∅
  let activePageId ← fields.optional "activePageId" Reader.text
  return { pages, layouts, activePageId }

def read (v : Source) : Except ReadError Document := do
  let draft ← ReadError.ofOption (Draft.read v)
  (ofDraft draft).mapError .document

end Document

end PageStudio
