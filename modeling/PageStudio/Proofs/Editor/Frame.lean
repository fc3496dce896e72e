import PageStudio.Proofs.Document.Frame
import PageStudio.Proofs.Editor.Mutation
import PageStudio.Proofs.Node.Absence

/-!
# What a mutation leaves alone

A mutation of nodes, or of the layout of a page, touches the layout of one page and nothing else.
One of pages touches the page that it names, at its place in the row of pages, and the layout of no
other page. And a mutation of a node that is not on the active page touches nothing at all.

## Main statements

* `changesOnly_of_apply`: what each mutation may change, and that it does so.
-/

namespace PageStudio

namespace Mutation

variable {d e : Document} {ids : IdSource} {m : Mutation}

/-- What a mutation may change, and what it does there. -/
def ChangesOnly (d e : Document) : Mutation → Prop
  | insertNode .. | updateNode .. | removeNode .. | duplicateNode .. =>
    d.SameOutside e d.activePageId
  | clearPage id => d.SameOutside e id ∧ e.layouts.get? id = some []
  | replaceLayout id nodes => d.SameOutside e id ∧ e.layouts.get? id = some nodes
  | addPage p => d.AddsPage e p
  | updatePage id patch => d.UpdatesPage e id patch
  | deletePage id => d.RemovesPage e id

/-- The node that a mutation is about, where it does nothing without that node. -/
def target? : Mutation → Option String
  | updateNode id _ | removeNode id | duplicateNode id => some id
  | _ => none

theorem sameOutside_of_insertInto {parent : Option String} {n : Node}
    (inserted : insertInto d parent n = .ok e) : d.SameOutside e d.activePageId := by
  obtain ⟨layout, -, changed⟩ := insertInto_ok inserted
  exact (Document.sameOutside_of_withLayout changed).1

theorem changesOnly_of_draft (distinct : d.pageIds.Nodup) (drafted : (m.draft d ids).1 = .ok e) :
    m.ChangesOnly d e := by
  cases m with
  | insertNode parent n => exact sameOutside_of_insertInto drafted
  | updateNode id p => exact (Document.sameOutside_of_withLayout (lift_ok_iff.mp drafted)).1
  | removeNode id => exact (Document.sameOutside_of_withLayout (lift_ok_iff.mp drafted)).1
  | duplicateNode id =>
    simp only [draft, duplicateIn] at drafted
    split at drafted
    next =>
      cases drafted
      exact .refl d d.activePageId
    next => exact sameOutside_of_insertInto drafted
  | clearPage id => exact Document.sameOutside_of_withLayout (lift_ok_iff.mp drafted)
  | replaceLayout id nodes => exact Document.sameOutside_of_withLayout (lift_ok_iff.mp drafted)
  | addPage p => exact Document.addsPage_of_withPageAdded (lift_ok_iff.mp drafted)
  | updatePage id patch =>
    exact Document.updatesPage_of_withPageUpdated distinct (lift_ok_iff.mp drafted)
  | deletePage id =>
    exact Document.removesPage_of_withPageRemoved distinct (lift_ok_iff.mp drafted)

/-- Without the node that it is about, a mutation drafts the document as it is. -/
theorem draft_of_absent (valid : d.Valid) {id : String} (about : m.target? = some id)
    (absent : id ∉ Node.forestIds d.activeLayout) : m.draft d ids = (.ok d, ids) := by
  have same : withActiveLayout d d.activeLayout = .ok d :=
    lift_ok_iff.mpr (Document.withLayout_activeLayout valid)
  cases m with
  | updateNode id p =>
    cases about
    rw [draft, Forest.patch_of_absent absent, same]
  | removeNode id =>
    cases about
    rw [draft, Forest.remove_of_absent absent, same]
  | duplicateNode id =>
    cases about
    rw [draft, duplicateIn, Forest.locate?_eq_none absent]
  | _ => cases about

/-- A mutation of a valid document that succeeds changes only what it is about. One of a node that
is not on the active page succeeds and changes nothing. -/
theorem changesOnly_of_apply (d : Document) (valid : d.Valid) (m : Mutation) (ids : IdSource) :
    (∀ e, (m.apply d ids).1 = .ok e → m.ChangesOnly d e) ∧
    ∀ id, m.target? = some id → id ∉ Node.forestIds d.activeLayout →
      m.apply d ids = (.ok d, ids) := by
  refine ⟨fun e applied => ?_, fun id about absent => ?_⟩
  · exact changesOnly_of_draft valid.pageIds_nodup (apply_ok_iff.mp applied).1
  · have drafted : m.draft d ids = (.ok d, ids) := draft_of_absent valid about absent
    have result : (m.apply d ids).1 = .ok d :=
      apply_ok_iff.mpr ⟨congrArg Prod.fst drafted, valid.nodeIds_nodup⟩
    have kept : (m.apply d ids).2 = ids := apply_snd.trans (congrArg Prod.snd drafted)
    exact Prod.ext result kept

/-- A document of two pages with one name, the second of which is active and has a text. -/
def twoHomes : Document where
  pages := [{ id := "a", name := "Home" }, { id := "b", name := "Home" }]
  layouts := Dict.ofList [("a", []), ("b", [Node.bare "t" .text "Text"])]
  activePageId := "b"

theorem valid_twoHomes : twoHomes.Valid where
  pages_ne_nil := List.cons_ne_nil _ _
  pageIds_nodup := by decide
  mem_layouts_iff id := Iff.rfl
  active_mem := by decide
  nodeIds_nodup := by decide

/-- The active one of two pages is deleted, and a text that stands on it is not found from the
other page. -/
theorem changesOnly_of_apply_twoHomes :
    let e : Document := ⟨[{ id := "a", name := "Home" }], Dict.ofList [("a", [])], "a"⟩
    twoHomes.Valid ∧ ((deletePage "b").apply twoHomes { seed := "s" }).1 = .ok e ∧
      twoHomes.RemovesPage e "b" ∧
      (removeNode "t").target? = some "t" ∧ "t" ∉ Node.forestIds e.activeLayout ∧
      (removeNode "t").apply e { seed := "s" } = (.ok e, { seed := "s" }) := by
  intro e
  have deleted : ((deletePage "b").apply twoHomes { seed := "s" }).1 = .ok e := rfl
  have valid : e.Valid := valid_of_apply valid_twoHomes deleted
  have absent : "t" ∉ Node.forestIds e.activeLayout := by decide
  exact ⟨valid_twoHomes, deleted,
    (changesOnly_of_apply twoHomes valid_twoHomes (deletePage "b") { seed := "s" }).1 e deleted,
    rfl, absent, (changesOnly_of_apply e valid (removeNode "t") { seed := "s" }).2 "t" rfl absent⟩

end Mutation

end PageStudio
