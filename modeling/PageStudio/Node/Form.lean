import PageStudio.Node.Tree

/-!
# The stored form of nodes

Nodes are stored as objects. The id, the kind and the name must be there; everything else may be
missing. A link and events are only written where there are any.
-/

namespace PageStudio

open Json Style

/-- The styles of a node, by the names of viewports, written. -/
def stylesJson (styles : Dict String Appearance) : Json :=
  .object (styles.entries.map fun e => (e.1, e.2.toJson))

/-- The code of a node, by the names of events, written. -/
def eventsJson (events : Dict String String) : Json :=
  .object (events.entries.map fun e => (e.1, .string e.2))

namespace Node

/-- The written form of an element around the written forms of its children. -/
def elementJson (e : Element) (children : List Json) : Json :=
  ofFields [
    ("id", some (.string e.id)),
    ("type", some (.string e.kind.name)),
    ("name", some (.string e.name)),
    ("stylesByViewport", some (stylesJson e.styles)),
    ("content", some e.content.toJson),
    ("children", some (.array children)),
    ("linkUrl", e.link.map Link.toJson),
    ("events", if e.events.isEmpty then none else some (eventsJson e.events))]

mutual
/-- The written form of a node. -/
def toJson : Node → Json
  | mk e children => elementJson e (forestJson children)

/-- The written forms of the nodes of a forest. -/
def forestJson : List Node → List Json
  | [] => []
  | n :: rest => toJson n :: forestJson rest
end

def fieldNames : List String :=
  ["id", "type", "name", "stylesByViewport", "content", "children", "linkUrl", "events"]

/-- Reads a node, its children by the given reader. -/
def readWith (readChildren : Reader (List Node)) (v : Source) : Option Node := do
  let fields ← Fields.read? fieldNames v
  let id ← fields.required "id" Reader.text
  let kind ← fields.required "type" Kind.read
  let name ← fields.required "name" Reader.text
  let styles ← fields.withDefault "stylesByViewport" (Reader.table Appearance.read) ∅
  let content ← fields.withDefault "content" Content.read {}
  let children ← fields.withDefault "children" readChildren []
  let link ← fields.optional "linkUrl" Link.read
  let events ← fields.withDefault "events" (Reader.table Reader.text) ∅
  return mk { id, kind, name, styles, content, link, events } children

/-- Reads a node nested at most `levels` deep. -/
def readWithin : (levels : Nat) → Reader Node
  | 0 => readWith fun _ => none
  | levels + 1 => readWith (Reader.list (readWithin levels))

def read (v : Source) : Option Node := readWithin v.height v

end Node

def readForest : Reader (List Node) := Reader.list Node.read

end PageStudio
