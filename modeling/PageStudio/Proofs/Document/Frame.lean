import PageStudio.Proofs.Document.Validity

/-!
# What a change of a document leaves alone

A new layout touches one page. A page that is added, updated or removed does so at its place in the
row of pages, and no other page loses its layout.
-/

namespace PageStudio

namespace Document

variable {d e : Document} {id : String}

/-! ## Changes of one page -/

/-- Two documents differ in nothing but the layout of one page. -/
structure SameOutside (d e : Document) (id : String) : Prop where
  pages : e.pages = d.pages
  activePageId : e.activePageId = d.activePageId
  layouts : ∀ other, other ≠ id → e.layouts.get? other = d.layouts.get? other

/-- A page is put behind the others. It has no nodes and is active. -/
structure AddsPage (d e : Document) (p : Page) : Prop where
  free : p.id ∉ d.pageIds
  pages : e.pages = d.pages ++ [p]
  activePageId : e.activePageId = p.id
  layout : e.layouts.get? p.id = some []
  layouts : ∀ other, other ≠ p.id → e.layouts.get? other = d.layouts.get? other

/-- A page gets what a patch has, at its place and under its id. -/
structure UpdatesPage (d e : Document) (id : String) (patch : PagePatch) : Prop where
  pages : ∃ front p back, d.pages = front ++ p :: back ∧ p.id = id ∧
    e.pages = front ++ patch.apply p :: back ∧ (patch.apply p).id = id
  activePageId : e.activePageId = d.activePageId
  layouts : e.layouts = d.layouts

/-- A page goes with its layout. If it was active, the first of the others is. -/
structure RemovesPage (d e : Document) (id : String) : Prop where
  pages : ∃ front p back, d.pages = front ++ p :: back ∧ p.id = id ∧ e.pages = front ++ back
  gone : id ∉ e.pageIds ∧ e.layouts.get? id = none
  layouts : ∀ other, other ≠ id → e.layouts.get? other = d.layouts.get? other
  stays : d.activePageId ≠ id → e.activePageId = d.activePageId
  moves : d.activePageId = id → e.pages.head?.map (·.id) = some e.activePageId

/-- A page id occurs at one place in the row of pages. -/
theorem exists_pages_eq (distinct : d.pageIds.Nodup) (page : id ∈ d.pageIds) :
    ∃ front p back, d.pages = front ++ p :: back ∧ p.id = id ∧ ∀ q ∈ front ++ back, q.id ≠ id := by
  obtain ⟨p, mem, rfl⟩ := List.mem_map.mp page
  obtain ⟨front, back, pages⟩ := List.append_of_mem mem
  refine ⟨front, p, back, pages, rfl, fun q hq same => ?_⟩
  have once : ((p :: (front ++ back)).map (·.id)).Nodup := by
    have moved : (p :: (front ++ back)).Perm d.pages := pages ▸ List.perm_middle.symm
    exact (moved.map _).nodup_iff.mpr distinct
  exact (List.nodup_cons.mp once).1 (List.mem_map.mpr ⟨q, hq, same⟩)

theorem SameOutside.refl (d : Document) (id : String) : SameOutside d d id :=
  ⟨rfl, rfl, fun _ _ => rfl⟩

theorem sameOutside_of_withLayout {layout : List Node} (changed : d.withLayout id layout = .ok e) :
    SameOutside d e id ∧ e.layouts.get? id = some layout := by
  obtain ⟨-, rfl⟩ := withLayout_ok_iff.mp changed
  refine ⟨⟨rfl, rfl, fun other differs => ?_⟩, ?_⟩
  · rw [Dict.get?_insert, if_neg differs]
  · rw [Dict.get?_insert, if_pos rfl]

/-- The active page stays active under a new layout. -/
theorem activeLayout_of_withLayout {layout : List Node}
    (changed : d.withLayout d.activePageId layout = .ok e) : e.activeLayout = layout := by
  obtain ⟨outside, own⟩ := sameOutside_of_withLayout changed
  rw [activeLayout, Document.layout, outside.activePageId, own, Option.getD_some]

theorem addsPage_of_withPageAdded {p : Page} (changed : d.withPageAdded p = .ok e) :
    AddsPage d e p := by
  obtain ⟨free, rfl⟩ := withPageAdded_ok_iff.mp changed
  refine ⟨free, rfl, rfl, ?_, fun other differs => ?_⟩
  · rw [Dict.get?_insert, if_pos rfl]
  · rw [Dict.get?_insert, if_neg differs]

theorem updatesPage_of_withPageUpdated {patch : PagePatch} (distinct : d.pageIds.Nodup)
    (changed : d.withPageUpdated id patch = .ok e) : UpdatesPage d e id patch := by
  obtain ⟨page, rfl⟩ := withPageUpdated_ok_iff.mp changed
  obtain ⟨front, p, back, pages, named, others⟩ := exists_pages_eq distinct page
  refine ⟨⟨front, p, back, pages, named, ?_, named⟩, rfl, rfl⟩
  have kept : ∀ row ⊆ front ++ back,
      row.map (fun q => if q.id == id then patch.apply q else q) = row := by
    intro row inside
    refine (List.map_congr_left fun q hq => ?_).trans (List.map_id' row)
    exact if_neg fun same => others q (inside hq) (beq_iff_eq.mp same)
  show d.pages.map _ = _
  rw [pages, List.map_append, List.map_cons, kept front (List.subset_append_left _ _),
    kept back (List.subset_append_right _ _), if_pos (beq_iff_eq.mpr named)]

theorem removesPage_of_withPageRemoved (distinct : d.pageIds.Nodup)
    (changed : d.withPageRemoved id = .ok e) : RemovesPage d e id := by
  obtain ⟨page, first, rest, kept, rfl⟩ := withPageRemoved_ok_iff.mp changed
  obtain ⟨front, p, back, pages, named, others⟩ := exists_pages_eq distinct page
  have stay : ∀ row ⊆ front ++ back, row.filter (fun q => q.id != id) = row := by
    intro row inside
    exact List.filter_eq_self.mpr fun q hq => bne_iff_ne.mpr (others q (inside hq))
  have left : first :: rest = front ++ back := by
    have goes : (p :: back).filter (fun q => q.id != id) = back.filter fun q => q.id != id :=
      List.filter_cons_of_neg fun differs => bne_iff_ne.mp differs named
    rw [← kept, pages, List.filter_append, goes, stay front (List.subset_append_left _ _),
      stay back (List.subset_append_right _ _)]
  refine ⟨⟨front, p, back, pages, named, left⟩, ⟨fun again => ?_, ?_⟩, fun other differs => ?_,
    fun other => ?_, fun active => ?_⟩
  · obtain ⟨q, hq, same⟩ := List.mem_map.mp again
    exact others q (left ▸ hq) same
  · rw [Dict.get?_erase, if_pos rfl]
  · rw [Dict.get?_erase, if_neg differs]
  · exact if_neg fun same => other (beq_iff_eq.mp same)
  · exact congrArg some (if_pos (beq_iff_eq.mpr active)).symm

/-- The layout that a page has already is no change. -/
theorem withLayout_activeLayout (valid : d.Valid) :
    d.withLayout d.activePageId d.activeLayout = .ok d := by
  obtain ⟨layout, found⟩ := Option.isSome_iff_exists.mp
    ((Dict.mem_keys_iff _).mp ((valid.mem_layouts_iff _).mpr valid.active_mem))
  have own : d.activeLayout = layout := by
    rw [activeLayout, Document.layout, found, Option.getD_some]
  have same : d.layouts.insert d.activePageId d.activeLayout = d.layouts := by
    refine Dict.ext_get? fun id => ?_
    rw [Dict.get?_insert]
    split
    next here => rw [here, found, own]
    next => rfl
  refine withLayout_ok_iff.mpr ⟨valid.active_mem, ?_⟩
  rw [same]

end Document

end PageStudio
