import PageStudio.Node.IdSource
import PageStudio.Node.Tree
import PageStudio.Style.Length

/-!
# Copies of nodes

A copy has a new id at every node, and stands a little to the right of and below what it copies.
-/

namespace PageStudio

open Style

namespace Node

/-- How far a copy is moved in either direction, in pixels. -/
def copyOffset : Float := 20

/-- A coordinate moved by the offset, a missing one being zero. What is no length stays as it is. -/
def movedCoordinate? : Option String → Option String
  | none => some (Length.toText ⟨copyOffset, "px"⟩)
  | some s =>
    (Length.ofText? s).map fun l =>
      Length.toText ⟨l.number + copyOffset, if l.unit.isEmpty then "px" else l.unit⟩

/-- A layer with one of its coordinates moved. -/
def moveAlong (p : Property) (layer : Layer) : Layer :=
  match movedCoordinate? (layer.get? p) with
  | some moved => layer.set p moved
  | none => layer

/-- The styles with the place in the reference viewport moved. -/
def moved (styles : Dict String Appearance) : Dict String Appearance :=
  let a := (styles.get? Viewport.referenceName).getD {}
  styles.insert Viewport.referenceName { a with base := moveAlong .left (moveAlong .top a.base) }

mutual
/-- A copy of a node and of all inside it, with ids in reading order. -/
def copy (ids : IdSource) : Node → Node × IdSource
  | mk e children =>
    let (id, ids) := ids.nodeId e.kind
    let (children, ids) := copyForest ids children
    (mk { e with id, styles := moved e.styles } children, ids)

/-- Copies of nodes one after another. -/
def copyForest (ids : IdSource) : List Node → List Node × IdSource
  | [] => ([], ids)
  | n :: rest =>
    let (n, ids) := copy ids n
    let (rest, ids) := copyForest ids rest
    (n :: rest, ids)
end

mutual
/-- The node with ` Copy` behind its name and those of all nodes inside it. -/
def namedAsCopy : Node → Node
  | mk e children => mk { e with name := e.name ++ " Copy" } (forestNamedAsCopy children)

/-- The nodes with ` Copy` behind all names. -/
def forestNamedAsCopy : List Node → List Node
  | [] => []
  | n :: rest => namedAsCopy n :: forestNamedAsCopy rest
end

end Node

end PageStudio
