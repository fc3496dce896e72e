import Mathlib.Data.List.Flatten
import Mathlib.Data.List.Perm.Basic
import PageStudio.Proofs.Dict
import PageStudio.Proofs.Document.Validity
import PageStudio.Proofs.Node.Forest

/-!
# The node ids of a changed document

The node ids of a document are those of the layout of one page and those of the other pages
(`perm_nodeIds`). So what another layout does to all of them is known from the layout; the other
changes bring no new node.
-/

namespace PageStudio.Document

open List

variable {d e : Document} {id i : String}

/-! ## One page and the others -/

/-- The ids of all nodes that are not on a page. -/
def nodeIdsBut (d : Document) (id : String) : List String :=
  d.pages.flatMap fun p => if p.id = id then [] else Node.forestIds (d.layout p.id)

/-- What comes from one page of a list without repeated ids can be put in front of what comes from
the others. -/
theorem perm_flatMap_pages {pages : List Page} (nodup : (pages.map (·.id)).Nodup)
    (mem : id ∈ pages.map (·.id)) (ids : String → List String) :
    pages.flatMap (fun p => ids p.id) ~
      ids id ++ pages.flatMap fun p => if p.id = id then [] else ids p.id := by
  induction pages with
  | nil => cases mem
  | cons p rest ih =>
    obtain ⟨first, once⟩ := nodup_cons.mp nodup
    rw [flatMap_cons, flatMap_cons]
    by_cases here : p.id = id
    · have others : ∀ q ∈ rest, (if q.id = id then [] else ids q.id) = ids q.id := by
        intro q hq
        exact if_neg fun same => first (mem_map.mpr ⟨q, hq, same.trans here.symm⟩)
      rw [if_pos here, here, flatMap_congr others, nil_append]
    · have there : id ∈ rest.map (·.id) := by
        rcases mem_cons.mp mem with same | there
        · exact absurd same.symm here
        · exact there
      rw [if_neg here]
      calc ids p.id ++ rest.flatMap (fun p => ids p.id)
          ~ ids p.id ++ (ids id ++ rest.flatMap fun q => if q.id = id then [] else ids q.id) :=
            (ih once there).append_left _
        _ ~ ids id ++ (ids p.id ++ rest.flatMap fun q => if q.id = id then [] else ids q.id) :=
            perm_append_comm_assoc _ _ _

/-- The node ids of a document are those on a page and those on the others. -/
theorem perm_nodeIds (nodup : d.pageIds.Nodup) (page : id ∈ d.pageIds) :
    d.nodeIds ~ Node.forestIds (d.layout id) ++ d.nodeIdsBut id :=
  perm_flatMap_pages nodup page fun l => Node.forestIds (d.layout l)

theorem mem_nodeIds_iff :
    i ∈ d.nodeIds ↔ ∃ id ∈ d.pageIds, i ∈ Node.forestIds (d.layout id) := by
  unfold nodeIds pageIds
  rw [mem_flatMap]
  constructor
  · rintro ⟨p, hp, mem⟩
    exact ⟨p.id, mem_map_of_mem hp, mem⟩
  · rintro ⟨_, hid, mem⟩
    obtain ⟨p, hp, rfl⟩ := mem_map.mp hid
    exact ⟨p, hp, mem⟩

/-- No id occurs twice on a page of a valid document. -/
theorem Valid.layout_nodup (h : d.Valid) (page : id ∈ d.pageIds) :
    (Node.forestIds (d.layout id)).Nodup :=
  ((perm_nodeIds h.pageIds_nodup page).nodup_iff.mp h.nodeIds_nodup).sublist
    (sublist_append_left _ _)

theorem Valid.activeLayout_nodup (h : d.Valid) : (Node.forestIds d.activeLayout).Nodup :=
  h.layout_nodup h.active_mem

/-! ## Another layout -/

/-- The layouts after one is put in its place. -/
theorem layout_insert (d : Document) (id l : String) (forest : List Node) :
    layout { d with layouts := d.layouts.insert id forest } l =
      if l = id then forest else d.layout l := by
  unfold layout
  rw [Dict.get?_insert]
  split
  · rfl
  · rfl

/-- The ids of all nodes, page by page, with another forest on one page. -/
def nodeIdsWith (d : Document) (id : String) (forest : List Node) : List String :=
  d.pages.flatMap fun p => Node.forestIds (if p.id = id then forest else d.layout p.id)

theorem nodeIds_withLayout {forest : List Node} (changed : d.withLayout id forest = .ok e) :
    e.nodeIds = d.nodeIdsWith id forest := by
  obtain ⟨-, rfl⟩ := withLayout_ok_iff.mp changed
  exact flatMap_congr fun p _ => congrArg Node.forestIds (layout_insert d id p.id forest)

/-- With another forest on a page, the node ids are those of the forest and of the other pages. -/
theorem perm_nodeIdsWith (nodup : d.pageIds.Nodup) (page : id ∈ d.pageIds) (forest : List Node) :
    d.nodeIdsWith id forest ~ Node.forestIds forest ++ d.nodeIdsBut id := by
  have parts := perm_flatMap_pages nodup page fun l =>
    Node.forestIds (if l = id then forest else d.layout l)
  have others : (d.pages.flatMap fun p => if p.id = id then [] else
      Node.forestIds (if p.id = id then forest else d.layout p.id)) = d.nodeIdsBut id := by
    refine flatMap_congr fun p _ => ?_
    split
    next => rfl
    next => rfl
  rwa [others, if_pos rfl] at parts

/-- A part of what is on a page brings no id that the page has not. -/
theorem nodeIdsWith_sublist {forest : List Node}
    (fewer : Node.forestIds forest <+ Node.forestIds (d.layout id)) :
    d.nodeIdsWith id forest <+ d.nodeIds := by
  refine Sublist.flatMap_right d.pages fun p _ => ?_
  split
  next here => exact here ▸ fewer
  next => exact .refl _

/-- New nodes on a page add their ids to those of the document. -/
theorem perm_nodeIdsWith_append {forest : List Node} {new : List String} (nodup : d.pageIds.Nodup)
    (page : id ∈ d.pageIds)
    (added : Node.forestIds forest ~ Node.forestIds (d.layout id) ++ new) :
    d.nodeIdsWith id forest ~ d.nodeIds ++ new :=
  calc d.nodeIdsWith id forest
      ~ Node.forestIds forest ++ d.nodeIdsBut id := perm_nodeIdsWith nodup page forest
    _ ~ (Node.forestIds (d.layout id) ++ new) ++ d.nodeIdsBut id := added.append_right _
    _ ~ (Node.forestIds (d.layout id) ++ d.nodeIdsBut id) ++ new := by
        simp only [append_assoc]
        exact perm_append_comm.append_left _
    _ ~ d.nodeIds ++ new := (perm_nodeIds nodup page).symm.append_right new

/-- A document is valid after new nodes are added to a layout, if their ids are new. -/
theorem Valid.withLayout_append {forest : List Node} {new : List String} (h : d.Valid)
    (changed : d.withLayout id forest = .ok e)
    (added : Node.forestIds forest ~ Node.forestIds (d.layout id) ++ new) (nodup : new.Nodup)
    (fresh : ∀ i ∈ new, i ∉ d.nodeIds) : e.Valid := by
  obtain ⟨page, -⟩ := withLayout_ok_iff.mp changed
  refine valid_iff.mpr ⟨h.paged.withLayout changed, ?_⟩
  rw [nodeIds_withLayout changed]
  refine (perm_nodeIdsWith_append h.pageIds_nodup page added).nodup_iff.mpr ?_
  exact nodup_append.mpr
    ⟨h.nodeIds_nodup, nodup, fun a ha b hb same => fresh b hb (same ▸ ha)⟩

/-- A document is valid after a layout is exchanged for one with new ids. -/
theorem Valid.withLayout {forest : List Node} (h : d.Valid)
    (changed : d.withLayout id forest = .ok e) (nodup : (Node.forestIds forest).Nodup)
    (fresh : ∀ i ∈ Node.forestIds forest, i ∉ d.nodeIds) : e.Valid := by
  obtain ⟨page, -⟩ := withLayout_ok_iff.mp changed
  have parts := perm_nodeIds h.pageIds_nodup page
  refine valid_iff.mpr ⟨h.paged.withLayout changed, ?_⟩
  rw [nodeIds_withLayout changed]
  refine (perm_nodeIdsWith h.pageIds_nodup page forest).nodup_iff.mpr ?_
  refine nodup_append.mpr ⟨nodup, ?_, fun a ha b hb same => fresh a ha ?_⟩
  · exact (parts.nodup_iff.mp h.nodeIds_nodup).sublist (sublist_append_right _ _)
  · exact parts.mem_iff.mpr (mem_append_right _ (same ▸ hb))

theorem exists_withLayout (page : id ∈ d.pageIds) (forest : List Node) :
    ∃ e, d.withLayout id forest = .ok e := ⟨_, withLayout_ok_iff.mpr ⟨page, rfl⟩⟩

/-! ## Where node ids come from -/

/-- Another layout brings its own nodes at most. -/
theorem mem_nodeIds_withLayout {forest : List Node} (changed : d.withLayout id forest = .ok e)
    (mem : i ∈ e.nodeIds) : i ∈ d.nodeIds ∨ i ∈ Node.forestIds forest := by
  obtain ⟨-, rfl⟩ := withLayout_ok_iff.mp changed
  obtain ⟨l, hl, mem⟩ := mem_nodeIds_iff.mp mem
  rw [layout_insert] at mem
  split at mem
  next => exact .inr mem
  next => exact .inl (mem_nodeIds_iff.mpr ⟨l, hl, mem⟩)

/-- A new page has no nodes, and the others keep theirs. -/
theorem nodeIds_withPageAdded {p : Page} (changed : d.withPageAdded p = .ok e) :
    e.nodeIds = d.nodeIds := by
  obtain ⟨free, rfl⟩ := withPageAdded_ok_iff.mp changed
  have layouts : ∀ l, layout ⟨d.pages ++ [p], d.layouts.insert p.id [], p.id⟩ l =
      if l = p.id then [] else d.layout l := fun l => layout_insert d p.id l []
  have others : ∀ q ∈ d.pages, Node.forestIds (if q.id = p.id then [] else d.layout q.id) =
      Node.forestIds (d.layout q.id) := by
    intro q hq
    have other : q.id ≠ p.id := fun same => free (mem_map.mpr ⟨q, hq, same⟩)
    rw [if_neg other]
  unfold nodeIds
  simp only [layouts, flatMap_append, flatMap_singleton, if_true, Node.forestIds, append_nil]
  exact flatMap_congr others

theorem mem_nodeIds_withPageAdded {p : Page} (changed : d.withPageAdded p = .ok e)
    (mem : i ∈ e.nodeIds) : i ∈ d.nodeIds := nodeIds_withPageAdded changed ▸ mem

/-- A changed page keeps its nodes. -/
theorem nodeIds_withPageUpdated {patch : PagePatch}
    (changed : d.withPageUpdated id patch = .ok e) : e.nodeIds = d.nodeIds := by
  obtain ⟨-, rfl⟩ := withPageUpdated_ok_iff.mp changed
  unfold nodeIds
  rw [flatMap_map]
  refine flatMap_congr fun p _ => congrArg (fun l => Node.forestIds (d.layout l)) ?_
  split
  · rfl
  · rfl

theorem mem_nodeIds_withPageUpdated {patch : PagePatch}
    (changed : d.withPageUpdated id patch = .ok e) (mem : i ∈ e.nodeIds) : i ∈ d.nodeIds :=
  nodeIds_withPageUpdated changed ▸ mem

/-- With a page go its nodes, and the others stay in order. -/
theorem nodeIds_withPageRemoved (changed : d.withPageRemoved id = .ok e) :
    e.nodeIds <+ d.nodeIds := by
  obtain ⟨-, first, rest, kept, rfl⟩ := withPageRemoved_ok_iff.mp changed
  have layouts : ∀ p ∈ first :: rest,
      Node.forestIds (((d.layouts.erase id).get? p.id).getD []) = Node.forestIds (d.layout p.id) := by
    intro p hp
    rw [← kept] at hp
    rw [Dict.get?_erase, if_neg (bne_iff_ne.mp (mem_filter.mp hp).2), layout]
  calc (first :: rest).flatMap _
      = (first :: rest).flatMap fun p => Node.forestIds (d.layout p.id) := flatMap_congr layouts
    _ = (d.pages.filter fun p => p.id != id).flatMap fun p => Node.forestIds (d.layout p.id) := by
        rw [kept]
    _ <+ d.nodeIds := filter_sublist.flatMap _

theorem mem_nodeIds_withPageRemoved (changed : d.withPageRemoved id = .ok e)
    (mem : i ∈ e.nodeIds) : i ∈ d.nodeIds := (nodeIds_withPageRemoved changed).subset mem

theorem nodeIds_withActivePage (changed : d.withActivePage id = .ok e) :
    e.nodeIds = d.nodeIds := by
  obtain ⟨-, rfl⟩ := withActivePage_ok_iff.mp changed
  rfl

/-! ## Documents that count as the same -/

/-- Documents that count as the same have the same node ids on every page. -/
theorem forestIds_layout_of_beq (same : (d == e) = true) (id : String) :
    Node.forestIds (d.layout id) = Node.forestIds (e.layout id) := by
  obtain ⟨pagesAndLayouts, -⟩ := (Bool.and_eq_true _ _).mp same
  obtain ⟨-, layouts⟩ := (Bool.and_eq_true _ _).mp pagesAndLayouts
  have found := Dict.map_get?_of_beq (f := Node.forestIds)
    (fun as bs h => Node.forestIds_of_sameForest ((Node.sameForest_eq_beq as bs).trans h))
    layouts id
  have read : ∀ c : Document,
      Node.forestIds (c.layout id) = ((c.layouts.get? id).map Node.forestIds).getD [] := by
    intro c
    unfold layout
    cases c.layouts.get? id with
    | none => rfl
    | some forest => rfl
  rw [read d, read e, found]

theorem pages_of_beq (same : (d == e) = true) : d.pages = e.pages :=
  eq_of_beq ((Bool.and_eq_true _ _).mp ((Bool.and_eq_true _ _).mp same).1).1

theorem activePageId_of_beq (same : (d == e) = true) : d.activePageId = e.activePageId :=
  eq_of_beq ((Bool.and_eq_true _ _).mp same).2

end PageStudio.Document
