import PageStudio.Proofs.Editor.Freshness
import PageStudio.Proofs.Editor.NodeEdits
import PageStudio.Proofs.Node.Alike

/-!
# Duplicates

A duplicate of a node is put behind the row that the node stands in, and is like the node but for
ids, names and places. Nothing else changes, so without the duplicate the document is what it was.

## Main statements

* `duplicateNode_beside`: a node can be duplicated where its copy gets new ids, and what comes of
  it.
-/

namespace PageStudio.Mutation

open List

variable {d : Document} {ids : IdSource} {n : Node}

/-- A node of the active page is found in a row of it, and its copy is inserted behind that row. -/
theorem draft_duplicateNode (valid : d.Valid) (there : n ∈ Node.forestNodes d.activeLayout)
    (ids : IdSource) :
    ∃ parent row, n ∈ row ∧ Forest.rowOf? d.activeLayout parent = some row ∧
      (∀ i, parent = some i → i ∈ Node.forestIds d.activeLayout) ∧
      (duplicateNode n.id).draft d ids =
        (insertInto d parent (n.copy ids).1.namedAsCopy, (n.copy ids).2) := by
  obtain ⟨found, located, rfl⟩ :=
    Option.map_eq_some_iff.mp (Forest.find?_of_mem valid.activeLayout_nodup there)
  refine ⟨found.parent.map (·.id), found.siblings, ?_,
    Forest.rowOf?_locate? valid.activeLayout_nodup located, Forest.parent_locate? located, ?_⟩
  · exact mem_of_getElem? (Forest.standsIn_locate? located).node
  · rw [draft, duplicateIn, located]

/-- A node of the active page can be duplicated where none of the ids that are handed out for its
copy, with counts of 64 bits, is one of the document. The copy is put behind the row that the node
stands in, and nothing else changes. It is like the node at every place inside, and a removal of it
gives back the document that was there. -/
theorem duplicateNode_beside (d : Document) (valid : d.Valid) (ids : IdSource) (n : Node)
    (there : n ∈ Node.forestNodes d.activeLayout)
    (fresh : ∀ i ∈ (ids.serveAll (Node.idRequests n.withDescendants)).1, i ∉ d.nodeIds) :
    ∃ e copy row, ((duplicateNode n.id).apply d ids).1 = .ok e ∧
      d.SameOutside e d.activePageId ∧
      n ∈ row ∧ Forest.PutBehind copy row d.activeLayout e.activeLayout ∧
      n.Alike Element.CopyOf copy ∧
      copy.subtreeIds = (ids.serveAll (Node.idRequests n.withDescendants)).1 ∧
      ∀ ids, (removeNode copy.id).apply e ids = (.ok d, ids) := by
  obtain ⟨parent, row, mem, own, known, drafted⟩ := draft_duplicateNode valid there ids
  have given : (n.copy ids).1.namedAsCopy.subtreeIds =
      (ids.serveAll (Node.idRequests n.withDescendants)).1 := by
    rw [Node.subtreeIds_namedAsCopy, Node.serveAll_withDescendants]
  have distinct : (n.copy ids).1.namedAsCopy.subtreeIds.Nodup := given ▸ ids.nodup_serveAll _
  obtain ⟨e, inserted, edited⟩ := exists_apply_insertInto valid known distinct (given ▸ fresh)
  obtain ⟨row', same, behind⟩ := Forest.putBehind_insert? (insert?_of_insertInto inserted)
  cases own.symm.trans same
  have result : ((duplicateNode n.id).apply d ids).1 = .ok e :=
    apply_ok_iff.mpr ⟨(congrArg Prod.fst drafted).trans inserted, edited.nodeIds_nodup⟩
  exact ⟨e, _, row, result, sameOutside_of_insertInto inserted, mem, behind,
    Node.alike_namedAsCopy ids n, given, removeNode_insertInto valid inserted edited.nodeIds_nodup⟩

/-- A document of one page, where a box has a card with a text, and another text has an id that the
source of ids would give out next for a text. -/
def cardInBox : Document where
  pages := [{ id := "home", name := "Home" }]
  layouts := Dict.ofList [("home", [(Node.bare "box" .container "Box").withChild
    ((Node.bare "card" .card "Card").withChild (Node.bare "t" .text "Text")),
    Node.bare "text-s-1" .text "Text"])]
  activePageId := "home"

/-- A card with a text is duplicated inside its box. The copies get other ids than the one that is
taken. -/
theorem duplicateNode_beside_cardInBox :
    let ids : IdSource := { seed := "s" }
    let card := (Node.bare "card" .card "Card").withChild (Node.bare "t" .text "Text")
    cardInBox.Valid ∧ card ∈ Node.forestNodes cardInBox.activeLayout ∧
      (ids.serveAll (Node.idRequests card.withDescendants)).1 = ["card-s-1", "text-s-2"] ∧
      (∀ i ∈ ["card-s-1", "text-s-2"], i ∉ cardInBox.nodeIds) ∧
      ∃ e copy row, ((duplicateNode "card").apply cardInBox ids).1 = .ok e ∧
        cardInBox.SameOutside e cardInBox.activePageId ∧
        card ∈ row ∧ Forest.PutBehind copy row cardInBox.activeLayout e.activeLayout ∧
        card.Alike Element.CopyOf copy ∧ copy.subtreeIds = ["card-s-1", "text-s-2"] ∧
        ∀ ids, (removeNode copy.id).apply e ids = (.ok cardInBox, ids) := by
  intro ids card
  have valid : cardInBox.Valid :=
    { pages_ne_nil := cons_ne_nil _ _
      pageIds_nodup := by decide
      mem_layouts_iff := fun _ => Iff.rfl
      active_mem := by decide
      nodeIds_nodup := by decide }
  have there : card ∈ Node.forestNodes cardInBox.activeLayout := .tail _ (.head _)
  have given : (ids.serveAll (Node.idRequests card.withDescendants)).1 =
      ["card-s-1", "text-s-2"] := by decide
  have fresh : ∀ i ∈ ["card-s-1", "text-s-2"], i ∉ cardInBox.nodeIds := by decide
  have beside := duplicateNode_beside cardInBox valid ids card there (given ▸ fresh)
  rw [given] at beside
  exact ⟨valid, there, given, fresh, beside⟩

end PageStudio.Mutation
