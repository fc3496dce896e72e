import PageStudio.Editor.Mutation

/-!
# The stored form of mutations

A mutation is stored as an object whose only member is named for the edit and holds its data.
-/

namespace PageStudio

open Json

namespace Mutation

/-- The data of an edit, written. -/
def dataJson : Mutation → Json
  | insertNode parent n =>
    .object [("parent_id", (parent.map Json.string).getD .null), ("node", n.toJson)]
  | updateNode id p => .object [("node_id", .string id), ("patch", p.toJson)]
  | removeNode id => .object [("node_id", .string id)]
  | duplicateNode id => .object [("node_id", .string id)]
  | clearPage id => .object [("page_id", .string id)]
  | replaceLayout id nodes =>
    .object [("page_id", .string id), ("nodes", .array (Node.forestJson nodes))]
  | addPage p => .object [("page", p.toJson)]
  | updatePage id p => .object [("page_id", .string id), ("patch", p.toJson)]
  | deletePage id => .object [("page_id", .string id)]

def toJson (m : Mutation) : Json := .object [(m.name, m.dataJson)]

/-- Reads the data of the edit of a name. -/
def readData (name : String) (v : Source) : Option Mutation :=
  match name with
  | "InsertNode" => do
    let fields ← Fields.read? ["parent_id", "node"] v
    let parent ← fields.optional "parent_id" Reader.text
    let node ← fields.required "node" Node.read
    return insertNode parent node
  | "UpdateNode" => do
    let fields ← Fields.read? ["node_id", "patch"] v
    let id ← fields.required "node_id" Reader.text
    let patch ← fields.required "patch" NodePatch.read
    return updateNode id patch
  | "RemoveNode" => do
    let fields ← Fields.read? ["node_id"] v
    let id ← fields.required "node_id" Reader.text
    return removeNode id
  | "DuplicateNode" => do
    let fields ← Fields.read? ["node_id"] v
    let id ← fields.required "node_id" Reader.text
    return duplicateNode id
  | "ClearPage" => do
    let fields ← Fields.read? ["page_id"] v
    let id ← fields.required "page_id" Reader.text
    return clearPage id
  | "ReplaceLayout" => do
    let fields ← Fields.read? ["page_id", "nodes"] v
    let id ← fields.required "page_id" Reader.text
    let nodes ← fields.required "nodes" readForest
    return replaceLayout id nodes
  | "AddPage" => do
    let fields ← Fields.read? ["page"] v
    let page ← fields.required "page" Page.read
    return addPage page
  | "UpdatePage" => do
    let fields ← Fields.read? ["page_id", "patch"] v
    let id ← fields.required "page_id" Reader.text
    let patch ← fields.required "patch" PagePatch.read
    return updatePage id patch
  | "DeletePage" => do
    let fields ← Fields.read? ["page_id"] v
    let id ← fields.required "page_id" Reader.text
    return deletePage id
  | _ => none

def read : Reader Mutation
  | .object [(some name, v)] => readData name v
  | _ => none

/-- The mutation of a value. The data must be an object, where a text may also list its fields. -/
def ofJson? : Json → Option Mutation
  | .object [(name, .object members)] => readData name (Json.object members).toSource
  | _ => none

end Mutation

end PageStudio
