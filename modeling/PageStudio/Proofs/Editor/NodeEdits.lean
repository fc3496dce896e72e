import PageStudio.Proofs.Document.Errors
import PageStudio.Proofs.Document.NodeIds
import PageStudio.Proofs.Editor.Frame
import PageStudio.Proofs.Node.Everywhere
import PageStudio.Proofs.Node.Place

/-!
# Edits of nodes

The edits of a forest without repeated ids come to what their names say, with no order in which the
nodes are looked at. An inserted node stands behind the row of its parent, its ids come in at one
place among all node ids, and a removal gives back the document that was there.

## Main statements

* `Forest.edits_eq_everywhere`: a patch, an insertion and a removal as changes of the whole forest.
* `Mutation.removeNode_insertInto`: an insertion is undone by a removal.
* `Mutation.insertNode_undone`: where an inserted node stands, and that it goes without a trace.
-/

namespace PageStudio

open List

namespace Document

variable {d e : Document} {id : String} {forest : List Node}

/-- New ids at one place of a page are new ids at one place of the document. -/
theorem addsRun_nodeIds {run : List String} (distinct : d.pageIds.Nodup)
    (changed : d.withLayout id forest = .ok e)
    (added : Forest.AddsRun run (Node.forestIds (d.layout id)) (Node.forestIds forest)) :
    Forest.AddsRun run d.nodeIds e.nodeIds := by
  obtain ⟨page, -⟩ := withLayout_ok_iff.mp changed
  obtain ⟨front, p, back, pages, named, others⟩ := exists_pages_eq distinct page
  obtain ⟨before, after, old, new⟩ := added
  have kept : ∀ row ⊆ front ++ back,
      row.flatMap (fun q => Node.forestIds (if q.id = id then forest else d.layout q.id)) =
        row.flatMap fun q => Node.forestIds (d.layout q.id) := fun row inside =>
    flatMap_congr fun q hq => by rw [if_neg (others q (inside hq))]
  refine ⟨(front.flatMap fun q => Node.forestIds (d.layout q.id)) ++ before,
    after ++ back.flatMap fun q => Node.forestIds (d.layout q.id), ?_, ?_⟩
  · rw [nodeIds, pages, flatMap_append, flatMap_cons, named, old]
    simp only [append_assoc]
  · rw [nodeIds_withLayout changed, nodeIdsWith, pages, flatMap_append, flatMap_cons,
      if_pos named, new, kept front (subset_append_left _ _), kept back (subset_append_right _ _)]
    simp only [append_assoc]

/-- Of two layouts for one page the later one counts. -/
theorem withLayout_withLayout (changed : d.withLayout id forest = .ok e) (layout : List Node) :
    e.withLayout id layout = d.withLayout id layout := by
  obtain ⟨page, rfl⟩ := withLayout_ok_iff.mp changed
  obtain ⟨e, again⟩ := exists_withLayout page layout
  rw [again, withLayout_ok_iff, (withLayout_ok_iff.mp again).2, Dict.insert_insert]
  exact ⟨page, rfl⟩

end Document

namespace Mutation

variable {d e : Document} {parent : Option String} {n : Node}

/-! ## Inserting -/

/-- The only parent that an insertion does not find is one whose id no node of the page has. -/
theorem insertInto_eq_parentNotFound_iff {id : String} :
    insertInto d (some id) n = .error (.parentNotFound id) ↔
      id ∉ Node.forestIds d.activeLayout := by
  rw [← Forest.update?_eq_none_iff (f := (·.withChild n))]
  unfold insertInto withActiveLayout
  cases inserted : Forest.insert? d.activeLayout (some id) n with
  | none => exact ⟨fun _ => inserted, fun _ => rfl⟩
  | some layout =>
    refine ⟨fun refused => ?_, fun absent => ?_⟩
    · cases changed : d.withLayout d.activePageId layout with
      | ok e =>
        simp only [changed] at refused
        cases refused
      | error cause =>
        obtain ⟨-, rfl⟩ := Document.withLayout_error_iff.mp changed
        simp only [changed] at refused
        cases refused
    · cases inserted.symm.trans absent

/-- An insertion into a document is one into the forest of its active page. -/
theorem insert?_of_insertInto (inserted : insertInto d parent n = .ok e) :
    Forest.insert? d.activeLayout parent n = some e.activeLayout := by
  obtain ⟨layout, added, changed⟩ := insertInto_ok inserted
  rw [added, Document.activeLayout_of_withLayout changed]

theorem addsRun_insertInto (distinct : d.pageIds.Nodup) (inserted : insertInto d parent n = .ok e) :
    Forest.AddsRun n.subtreeIds d.nodeIds e.nodeIds := by
  obtain ⟨layout, added, changed⟩ := insertInto_ok inserted
  exact Document.addsRun_nodeIds distinct changed (Forest.addsRun_insert? added)

/-- An inserted node is removed by its id, and nothing of it is left. -/
theorem removeNode_insertInto (valid : d.Valid) (inserted : insertInto d parent n = .ok e)
    (distinct : e.nodeIds.Nodup) (ids : IdSource) :
    (removeNode n.id).apply e ids = (.ok d, ids) := by
  obtain ⟨layout, -, changed⟩ := insertInto_ok inserted
  have edited : e.Valid := Document.valid_iff.mpr ⟨valid.paged.withLayout changed, distinct⟩
  have fresh : n.id ∉ Node.forestIds d.activeLayout := by
    have added := (addsRun_insertInto valid.pageIds_nodup inserted).perm
    have apart := (nodup_append.mp (added.nodup_iff.mp distinct)).2.2
    intro old
    exact apart n.id (Document.mem_nodeIds_iff.mpr ⟨_, valid.active_mem, old⟩) n.id
      (Node.subtreeIds_eq n ▸ mem_cons_self) rfl
  have gone : Forest.remove e.activeLayout n.id = d.activeLayout := by
    rw [Forest.remove_eq edited.activeLayout_nodup,
      Forest.without_insert? fresh (insert?_of_insertInto inserted)]
  have active : e.activePageId = d.activePageId :=
    (Document.sameOutside_of_withLayout changed).1.activePageId
  have drafted : (removeNode n.id).draft e ids = (.ok d, ids) := by
    rw [draft, withActiveLayout, gone, active, Document.withLayout_withLayout changed,
      Document.withLayout_activeLayout valid]
    rfl
  exact Prod.ext (apply_ok_iff.mpr ⟨congrArg Prod.fst drafted, valid.nodeIds_nodup⟩)
    (apply_snd.trans (congrArg Prod.snd drafted))

/-- A node that is inserted into a valid document is the last one in the row of its parent, or the
last root without a parent. Its ids, each node before its children, come in at one place among all
node ids, and a removal of it gives back the document that was there. -/
theorem insertNode_undone (d : Document) (valid : d.Valid) (ids : IdSource)
    (parent : Option String) (n : Node) (e : Document)
    (inserted : ((insertNode parent n).apply d ids).1 = .ok e) :
    (∃ row, Forest.rowOf? d.activeLayout parent = some row ∧
      Forest.rowOf? e.activeLayout parent = some (row ++ [n])) ∧
    Forest.AddsRun n.subtreeIds d.nodeIds e.nodeIds ∧
    ∀ ids, (removeNode n.id).apply e ids = (.ok d, ids) := by
  have edited : e.Valid := valid_of_apply valid inserted
  obtain ⟨drafted, distinct⟩ := apply_ok_iff.mp inserted
  exact ⟨Forest.rowOf?_insert? (insert?_of_insertInto drafted) edited.activeLayout_nodup,
    addsRun_insertInto valid.pageIds_nodup drafted, removeNode_insertInto valid drafted distinct⟩

/-- A box with a text inside is put into the text on the active one of two pages. -/
theorem insertNode_undone_box :
    let ids : IdSource := { seed := "s" }
    let box := (Node.bare "box" .container "Box").withChild (Node.bare "u" .text "Text")
    let e : Document := { twoHomes with
      layouts := twoHomes.layouts.insert "b" [(Node.bare "t" .text "Text").withChild box] }
    twoHomes.Valid ∧ ((insertNode (some "t") box).apply twoHomes ids).1 = .ok e ∧
      (∃ row, Forest.rowOf? twoHomes.activeLayout (some "t") = some row ∧
        Forest.rowOf? e.activeLayout (some "t") = some (row ++ [box])) ∧
      Forest.AddsRun ["box", "u"] twoHomes.nodeIds e.nodeIds ∧
      ∀ ids, (removeNode "box").apply e ids = (.ok twoHomes, ids) := by
  intro ids box e
  have inserted : ((insertNode (some "t") box).apply twoHomes ids).1 = .ok e := rfl
  exact ⟨valid_twoHomes, inserted,
    insertNode_undone twoHomes valid_twoHomes ids (some "t") box e inserted⟩

end Mutation

namespace Forest

variable {forest : List Node} {id : String}

/-- In a forest without repeated ids, a patch is applied to every node of the id, a node is added to
every node of the id and refused exactly where there is none, and a removal takes every node of the
id away, at every level, and gives the node that is found by the id. Without a node of the id the
forest stays as it is. -/
theorem edits_eq_everywhere (forest : List Node) (distinct : (Node.forestIds forest).Nodup)
    (id : String) :
    (∀ p, patch forest id p = changeAll id p.apply forest) ∧
    (∀ n, insert? forest (some id) n =
      if id ∈ Node.forestIds forest then some (changeAll id (·.withChild n) forest) else none) ∧
    (∀ d n, d.activeLayout = forest →
      (Mutation.insertInto d (some id) n = .error (.parentNotFound id) ↔
        id ∉ Node.forestIds forest)) ∧
    remove forest id = without id forest ∧ (remove? forest id).map (·.2) = find? forest id ∧
    (id ∉ Node.forestIds forest →
      (∀ p, patch forest id p = forest) ∧ (∀ n, insert forest (some id) n = forest) ∧
        remove forest id = forest) := by
  refine ⟨patch_eq distinct, insert?_eq distinct, ?_, remove_eq distinct, ?_, fun absent => ?_⟩
  · rintro d n rfl
    exact Mutation.insertInto_eq_parentNotFound_iff
  · rw [remove?_eq distinct, Option.map_map]
    exact Option.map_id'
  · refine ⟨patch_of_absent absent, fun n => ?_, remove_of_absent absent⟩
    rw [insert, insert?, update?_eq_none_iff.mpr absent, Option.getD_none]

/-- A box with a text and a card, which has a text, and a text behind the box. -/
def shelf : List Node :=
  [.mk { id := "box", kind := .container, name := "Box" }
    [Node.bare "t" .text "Text",
      (Node.bare "card" .card "Card").withChild (Node.bare "u" .text "Text")],
    Node.bare "v" .text "Text"]

/-- Something is put into a card that stands in a box, the card goes, and so does what the shelf
does not have. -/
theorem edits_eq_everywhere_shelf :
    (Node.forestIds shelf).Nodup ∧
    (∀ p, patch shelf "card" p = changeAll "card" p.apply shelf) ∧
    (∀ n, insert? shelf (some "card") n = some (changeAll "card" (·.withChild n) shelf)) ∧
    remove shelf "card" =
      [(Node.bare "box" .container "Box").withChild (Node.bare "t" .text "Text"),
        Node.bare "v" .text "Text"] ∧
    (remove? shelf "card").map (·.2) = find? shelf "card" ∧
    "x" ∉ Node.forestIds shelf ∧ (∀ n, insert? shelf (some "x") n = none) ∧
    remove shelf "x" = shelf := by
  have distinct : (Node.forestIds shelf).Nodup := by decide
  have absent : "x" ∉ Node.forestIds shelf := by decide
  obtain ⟨patched, inserted, -, removed, given, -⟩ := edits_eq_everywhere shelf distinct "card"
  obtain ⟨-, refused, -, -, -, kept⟩ := edits_eq_everywhere shelf distinct "x"
  exact ⟨distinct, patched, fun n => (inserted n).trans (if_pos (by decide)), removed, given,
    absent, fun n => (refused n).trans (if_neg absent), (kept absent).2.2⟩

end Forest

end PageStudio
