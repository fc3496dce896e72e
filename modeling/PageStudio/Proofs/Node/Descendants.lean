import PageStudio.Node.Tree

/-!
# The nodes of a forest

All nodes of a forest at any depth, for what is said of each of them.
-/

namespace PageStudio.Node

mutual
/-- A node and all nodes inside it, each node before its children. -/
def withDescendants : Node → List Node
  | .mk e children => .mk e children :: forestNodes children

/-- All nodes of a forest, each node before its children. -/
def forestNodes : List Node → List Node
  | [] => []
  | n :: rest => n.withDescendants ++ forestNodes rest
end

variable {P : Node → Prop} {e : Element} {n : Node} {children rest : List Node}

theorem forall_mem_withDescendants : (∀ m ∈ withDescendants (.mk e children), P m) ↔
    P (.mk e children) ∧ ∀ m ∈ forestNodes children, P m :=
  List.forall_mem_cons

theorem forall_mem_forestNodes_cons : (∀ m ∈ forestNodes (n :: rest), P m) ↔
    (∀ m ∈ n.withDescendants, P m) ∧ ∀ m ∈ forestNodes rest, P m :=
  List.forall_mem_append

theorem mem_withDescendants_self : (n : Node) → n ∈ n.withDescendants
  | .mk _ _ => List.mem_cons_self

theorem forestNodes_append (a b : List Node) :
    forestNodes (a ++ b) = forestNodes a ++ forestNodes b := by
  induction a with
  | nil => rfl
  | cons n a ih => rw [List.cons_append, forestNodes, ih, ← List.append_assoc, ← forestNodes]

/-- The nodes of a root are nodes of the forest. -/
theorem withDescendants_subset_of_mem {forest : List Node} (root : n ∈ forest) :
    n.withDescendants ⊆ forestNodes forest := by
  obtain ⟨front, back, rfl⟩ := List.append_of_mem root
  rw [forestNodes_append, forestNodes]
  exact List.Subset.trans (List.subset_append_left _ _) (List.subset_append_right _ _)

/-- One more child puts its nodes behind those of the others. -/
theorem withDescendants_withChild (child : Node) : (n : Node) →
    (n.withChild child).withDescendants =
      n.withChild child :: (forestNodes n.children ++ child.withDescendants)
  | .mk e children => by
    show _ :: forestNodes (children ++ [child]) = _
    rw [forestNodes_append, forestNodes, forestNodes, List.append_nil]
    rfl

mutual
theorem subtreeIds_eq_map : (n : Node) → n.subtreeIds = n.withDescendants.map id
  | .mk e children => congrArg (e.id :: ·) (forestIds_eq_map children)

/-- The ids of a forest are those of its nodes. -/
theorem forestIds_eq_map : (forest : List Node) → forestIds forest = (forestNodes forest).map id
  | [] => rfl
  | n :: rest => by
    rw [forestNodes, List.map_append, ← subtreeIds_eq_map n, ← forestIds_eq_map rest, forestIds]
end

mutual
/-- What is inside a node that is inside another one is inside that one. -/
theorem withDescendants_subset {m : Node} : {n : Node} → m ∈ n.withDescendants →
    m.withDescendants ⊆ n.withDescendants
  | .mk _ _, mem => by
    rcases List.mem_cons.mp mem with rfl | inside
    · exact List.Subset.refl _
    · exact fun _ below => List.mem_cons_of_mem _ (withDescendants_subset_forestNodes inside below)

theorem withDescendants_subset_forestNodes {m : Node} : {forest : List Node} →
    m ∈ forestNodes forest → m.withDescendants ⊆ forestNodes forest
  | n :: rest, mem => by
    rcases List.mem_append.mp mem with here | there
    · exact fun _ below => List.mem_append_left _ (withDescendants_subset here below)
    · exact fun _ below => List.mem_append_right _ (withDescendants_subset_forestNodes there below)
end

/-- The elements of a node and of all nodes inside it, in reading order. -/
def elements (n : Node) : List Element := n.withDescendants.map element

/-- The elements of all nodes of a forest, in reading order. -/
def forestElements (forest : List Node) : List Element := (forestNodes forest).map element

theorem elements_mk (e : Element) (children : List Node) :
    elements (.mk e children) = e :: forestElements children := rfl

theorem forestElements_cons (n : Node) (rest : List Node) :
    forestElements (n :: rest) = n.elements ++ forestElements rest := List.map_append

theorem subtreeIds_eq_map_elements (n : Node) : n.subtreeIds = n.elements.map (·.id) := by
  rw [subtreeIds_eq_map, elements, List.map_map]
  rfl

theorem forestIds_eq_map_elements (forest : List Node) :
    forestIds forest = (forestElements forest).map (·.id) := by
  rw [forestIds_eq_map, forestElements, List.map_map]
  rfl

theorem id_mem_forestIds {forest : List Node} (mem : n ∈ forestNodes forest) :
    n.id ∈ forestIds forest := by
  rw [forestIds_eq_map]
  exact List.mem_map_of_mem mem

end PageStudio.Node
