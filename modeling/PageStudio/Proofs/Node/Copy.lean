import PageStudio.Editor.Generated
import PageStudio.Node.Copy
import PageStudio.Node.Palette
import PageStudio.Proofs.Node.IdSource

/-!
# The ids of new nodes

Copies, new nodes and nodes of a generated text have the ids that their source hands out, one after
another in reading order.
-/

namespace PageStudio

/-! ## Copies -/

namespace Node

mutual
/-- The ids of a copy are handed out in reading order. -/
theorem issues_copy (ids : IdSource) : (n : Node) →
    ids.Issues (n.copy ids).1.subtreeIds (n.copy ids).2
  | .mk e children => .cons e.kind.slug (issues_copyForest (ids.nodeId e.kind).2 children)

theorem issues_copyForest (ids : IdSource) : (forest : List Node) →
    ids.Issues (forestIds (copyForest ids forest).1) (copyForest ids forest).2
  | [] => .nil ids
  | n :: rest => (issues_copy ids n).append (issues_copyForest (n.copy ids).2 rest)
end

mutual
/-- The ids of a copy begin with the names of kinds. -/
theorem exists_idAt_of_mem_copy {i : String} (ids : IdSource) : (n : Node) →
    i ∈ (n.copy ids).1.subtreeIds → ∃ (kind : Kind) (count : Nat), i = ids.idAt kind.slug count
  | .mk e children => by
    intro mem
    rcases List.mem_cons.mp mem with rfl | mem
    · exact ⟨e.kind, ids.count + 1, rfl⟩
    · exact exists_idAt_of_mem_copyForest (ids.nodeId e.kind).2 children mem

theorem exists_idAt_of_mem_copyForest {i : String} (ids : IdSource) : (forest : List Node) →
    i ∈ forestIds (copyForest ids forest).1 →
      ∃ (kind : Kind) (count : Nat), i = ids.idAt kind.slug count
  | [] => by
    intro mem
    cases mem
  | n :: rest => by
    intro mem
    rcases List.mem_append.mp mem with mem | mem
    · exact exists_idAt_of_mem_copy ids n mem
    · obtain ⟨kind, count, same⟩ := exists_idAt_of_mem_copyForest (n.copy ids).2 rest mem
      exact ⟨kind, count, same.trans ((issues_copy ids n).advances.idAt kind.slug count)⟩
end

mutual
theorem subtreeIds_namedAsCopy : (n : Node) → n.namedAsCopy.subtreeIds = n.subtreeIds
  | .mk e children => congrArg (e.id :: ·) (forestIds_forestNamedAsCopy children)

theorem forestIds_forestNamedAsCopy : (forest : List Node) →
    forestIds (forestNamedAsCopy forest) = forestIds forest
  | [] => rfl
  | n :: rest => by
    show n.namedAsCopy.subtreeIds ++ forestIds (forestNamedAsCopy rest) = _
    rw [subtreeIds_namedAsCopy n, forestIds_forestNamedAsCopy rest]
    rfl
end

end Node

/-! ## Nodes from the palette -/

/-- A new node has the next id. -/
theorem IdSource.issues_newNode (ids : IdSource) (kind : Kind) :
    ids.Issues (ids.newNode kind).1.subtreeIds (ids.newNode kind).2 := .single ids kind.slug

/-! ## Generated nodes -/

namespace Generated

mutual
/-- The ids of a generated node are handed out in reading order. -/
theorem issues_numbered (ids : IdSource) : (n : Node) →
    ids.Issues (numbered ids n).1.subtreeIds (numbered ids n).2
  | .mk e children => .cons e.kind.slug (issues_forestNumbered (ids.nodeId e.kind).2 children)

theorem issues_forestNumbered (ids : IdSource) : (forest : List Node) →
    ids.Issues (Node.forestIds (forestNumbered ids forest).1) (forestNumbered ids forest).2
  | [] => .nil ids
  | n :: rest => (issues_numbered ids n).append (issues_forestNumbered (numbered ids n).2 rest)
end

/-- The nodes of a generated text have the ids that reading it takes. -/
theorem issues_layout {response : String} {ids : IdSource} {nodes : List Node}
    (read : (layout response ids).1 = .ok nodes) :
    ids.Issues (Node.forestIds nodes) (layout response ids).2 := by
  unfold layout at read ⊢
  cases parsed : parse response with
  | ok drafts =>
    rw [parsed] at read
    cases read
    exact issues_forestNumbered ids drafts
  | error e =>
    rw [parsed] at read
    cases read

/-- Reading a generated text takes ids at most. -/
theorem advances_layout (response : String) (ids : IdSource) :
    ids.Advances (layout response ids).2 := by
  cases read : (layout response ids).1 with
  | ok nodes => exact (issues_layout read).advances
  | error e =>
    unfold layout at read ⊢
    cases parsed : parse response with
    | ok drafts =>
      rw [parsed] at read
      cases read
    | error e => exact .refl ids

end Generated

end PageStudio
