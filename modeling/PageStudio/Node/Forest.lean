import PageStudio.Node.Patch

/-!
# Changing forests

Nodes are found, changed, added and removed by their ids. Where an id occurs more than once, the
first node in reading order counts, each node before its children; only removal looks at a whole
row of siblings first.
-/

namespace PageStudio

/-- Where a node stands in a forest. -/
structure Located where
  node : Node
  /-- The row that the node stands in. -/
  siblings : List Node
  index : Nat
  /-- The node around the row, unless the row is the forest itself. -/
  parent : Option Node

namespace Forest

mutual
/-- The place of the first node of an id at or inside the node at a place. -/
def locateAt (id : String) (parent : Option Node) (siblings : List Node) (index : Nat) :
    Node → Option Located
  | .mk e children =>
    if e.id == id then some ⟨.mk e children, siblings, index, parent⟩
    else locateFrom id (some (.mk e children)) children 0 children

/-- The place of the first node of an id in the part of a row that starts at a place. -/
def locateFrom (id : String) (parent : Option Node) (siblings : List Node) (index : Nat) :
    List Node → Option Located
  | [] => none
  | n :: rest =>
    match locateAt id parent siblings index n with
    | some found => some found
    | none => locateFrom id parent siblings (index + 1) rest
end

/-- The place of the first node of an id. -/
def locate? (forest : List Node) (id : String) : Option Located :=
  locateFrom id none forest 0 forest

/-- The first node of an id. -/
def find? (forest : List Node) (id : String) : Option Node := (locate? forest id).map (·.node)

/-- Whether a node has an id. -/
def hasId (forest : List Node) (id : String) : Bool := (Node.forestIds forest).contains id

/-! ## Changing and adding -/

mutual
/-- The node with the first node of an id in it changed. -/
def updateNode? (id : String) (f : Node → Node) : Node → Option Node
  | .mk e children =>
    if e.id == id then some (f (.mk e children)) else (update? id f children).map (.mk e)

/-- The forest with the first node of an id changed. -/
def update? (id : String) (f : Node → Node) : List Node → Option (List Node)
  | [] => none
  | n :: rest =>
    match updateNode? id f n with
    | some changed => some (changed :: rest)
    | none => (update? id f rest).map (n :: ·)
end

/-- The forest with a patch applied to a node; without the node, the forest as it is. -/
def patch (forest : List Node) (id : String) (p : NodePatch) : List Node :=
  (update? id p.apply forest).getD forest

/-- The forest with a node behind the children of a parent, or behind all roots; none without the
parent. -/
def insert? (forest : List Node) (parent : Option String) (n : Node) : Option (List Node) :=
  match parent with
  | none => some (forest ++ [n])
  | some id => update? id (·.withChild n) forest

/-- The forest with a node added; without the parent, the forest as it is. -/
def insert (forest : List Node) (parent : Option String) (n : Node) : List Node :=
  (insert? forest parent n).getD forest

/-! ## Removing -/

/-- A row without the first node of an id in the row itself, and that node. -/
def takeOut? (id : String) : List Node → Option (List Node × Node)
  | [] => none
  | n :: rest =>
    if n.id == id then some (rest, n)
    else (takeOut? id rest).map fun (rest, removed) => (n :: rest, removed)

mutual
/-- The node without a node of an id inside it, and that node. -/
def removeInside? (id : String) : Node → Option (Node × Node)
  | .mk e children =>
    match takeOut? id children with
    | some (children, removed) => some (.mk e children, removed)
    | none => (removeBelow? id children).map fun (children, removed) => (.mk e children, removed)

/-- The forest without a node of an id inside one of its roots, and that node. -/
def removeBelow? (id : String) : List Node → Option (List Node × Node)
  | [] => none
  | n :: rest =>
    match removeInside? id n with
    | some (n, removed) => some (n :: rest, removed)
    | none => (removeBelow? id rest).map fun (rest, removed) => (n :: rest, removed)
end

/-- The forest without a node of an id and all inside it, and that node. -/
def remove? (forest : List Node) (id : String) : Option (List Node × Node) :=
  match takeOut? id forest with
  | some found => some found
  | none => removeBelow? id forest

/-- The forest without a node and all inside it; without the node, the forest as it is. -/
def remove (forest : List Node) (id : String) : List Node :=
  ((remove? forest id).map (·.1)).getD forest

end Forest

end PageStudio
