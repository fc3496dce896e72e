import PageStudio.Node.Form
import PageStudio.Node.IdSource

/-!
# Generated layouts

A layout may come from a text generator, as a JSON array of nodes that may stand in a code fence.
Ids in it do not count: every node gets a new one. A node without a name is named for its kind.
-/

namespace PageStudio

open Json Style

/-- Why a generated text is no layout. -/
inductive GenerationError where
  /-- It is not JSON, or some node has another shape. -/
  | malformed
  | notAnArray
deriving DecidableEq, Inhabited

def GenerationError.message : GenerationError → String
  | .malformed => "Generated layout is not valid JSON"
  | .notAnArray => "Generated layout is not an array of nodes"

namespace Generated

/-- The beginning and the end of a fence. -/
def fence : List Char := "```".toList

/-- The beginning of a fence around JSON. -/
def jsonFence : List Char := "```json".toList

/-- What stands inside the fence of a text, or the text where there is none, without the blanks
around it. -/
def content (response : List Char) : List Char :=
  let s := Text.trim response
  match (Text.dropFront? jsonFence s).or (Text.dropFront? fence s) with
  | some body => Text.trim ((Text.dropBack? fence body).getD body)
  | none => s

/-- The names of the fields of a draft in order. -/
def fieldNames : List String :=
  ["type", "name", "stylesByViewport", "content", "children", "linkUrl", "events"]

/-- Reads a node that has no id yet, its children by the given reader. -/
def readWith (readChildren : Reader (List Node)) (v : Source) : Option Node := do
  let fields ← Fields.read? fieldNames v
  let kind ← fields.required "type" Kind.read
  let name ← fields.optional "name" Reader.text
  let styles ← fields.withDefault "stylesByViewport" (Reader.table Appearance.read) ∅
  let content ← fields.withDefault "content" Content.read {}
  let children ← fields.withDefault "children" readChildren []
  let link ← fields.optional "linkUrl" Link.read
  let events ← fields.withDefault "events" (Reader.table Reader.text) ∅
  return .mk { id := "", kind, name := name.getD kind.name, styles, content, link, events } children

/-- Reads a node without an id, nested at most `levels` deep. -/
def readWithin : (levels : Nat) → Reader Node
  | 0 => readWith fun _ => none
  | levels + 1 => readWith (Reader.list (readWithin levels))

/-- Reads nodes without ids. -/
def readForest : Reader (List Node) := Reader.list fun v => readWithin v.height v

mutual
/-- The node with new ids, each node before its children. -/
def numbered (ids : IdSource) : Node → Node × IdSource
  | .mk e children =>
    let (id, ids) := ids.nodeId e.kind
    let (children, ids) := forestNumbered ids children
    (.mk { e with id } children, ids)

/-- The nodes with new ids. -/
def forestNumbered (ids : IdSource) : List Node → List Node × IdSource
  | [] => ([], ids)
  | n :: rest =>
    let (n, ids) := numbered ids n
    let (rest, ids) := forestNumbered ids rest
    (n :: rest, ids)
end

/-- The nodes of a generated text, without ids. -/
def parse (response : String) : Except GenerationError (List Node) :=
  match Source.parse (String.ofList (content response.toList)) with
  | (_, true) => .error .malformed
  | (v, false) =>
    match v.generic? with
    | none => .error .malformed
    | some (.array items) =>
      match readForest (Json.array items).toSource with
      | some nodes => .ok nodes
      | none => .error .malformed
    | some _ => .error .notAnArray

/-- The layout of a generated text, and the source of ids behind it. -/
def layout (response : String) (ids : IdSource) : Except GenerationError (List Node) × IdSource :=
  match parse response with
  | .ok nodes =>
    let (nodes, ids) := forestNumbered ids nodes
    (.ok nodes, ids)
  | .error e => (.error e, ids)

end Generated

end PageStudio
