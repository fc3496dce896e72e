import PageStudio.Proofs.Dict
import PageStudio.Proofs.Document.Repetition

/-!
# What changes of a document keep

`Document.Valid` has four conditions on pages, layouts and the active page, and one on node ids. A
change of a document keeps the four by itself (`Paged`); the node ids are looked at afterwards, by
`checkNodeIds`.
-/

namespace PageStudio.Document

/-! ## The two halves of validity -/

/-- The conditions of a document that are not about node ids. -/
structure Paged (d : Document) : Prop where
  pages_ne_nil : d.pages ≠ []
  pageIds_nodup : d.pageIds.Nodup
  mem_layouts_iff : ∀ id, id ∈ d.layouts.keys ↔ id ∈ d.pageIds
  active_mem : d.activePageId ∈ d.pageIds

/-- A document is valid when its pages are in order and no node id occurs twice. -/
theorem valid_iff {d : Document} : d.Valid ↔ d.Paged ∧ d.nodeIds.Nodup := by
  constructor
  · intro h
    exact ⟨⟨h.pages_ne_nil, h.pageIds_nodup, h.mem_layouts_iff, h.active_mem⟩, h.nodeIds_nodup⟩
  · rintro ⟨h, nodup⟩
    exact ⟨h.pages_ne_nil, h.pageIds_nodup, h.mem_layouts_iff, h.active_mem, nodup⟩

theorem Valid.paged {d : Document} (h : d.Valid) : d.Paged := (valid_iff.mp h).1

/-! ## The two checks -/

/-- The check of node ids lets through exactly the documents where none occurs twice. -/
theorem checkNodeIds_ok_iff {d : Document} : d.checkNodeIds = .ok () ↔ d.nodeIds.Nodup := by
  rw [← firstRepeated?_eq_none_iff]
  unfold checkNodeIds
  cases firstRepeated? [] d.nodeIds with
  | none => exact ⟨fun _ => rfl, fun _ => rfl⟩
  | some id => exact ⟨nofun, nofun⟩

theorem hasPage_iff {d : Document} {id : String} : d.hasPage id = true ↔ id ∈ d.pageIds := by
  unfold hasPage pageIds
  rw [List.any_eq_true, List.mem_map]
  simp only [beq_iff_eq]

/-- A page is found exactly where its id is that of a page. -/
theorem page?_eq_none_iff {d : Document} {id : String} : d.page? id = none ↔ id ∉ d.pageIds := by
  rw [page?, List.find?_eq_none, pageIds, List.mem_map]
  simp only [beq_iff_eq, not_exists, not_and]

theorem exists_page?_iff {d : Document} {id : String} :
    (∃ p, d.page? id = some p) ↔ id ∈ d.pageIds := by
  rw [← Option.isSome_iff_exists, Option.isSome_iff_ne_none, ne_eq, page?_eq_none_iff, not_not]

theorem of_page?_eq_some {d : Document} {id : String} {p : Page} (found : d.page? id = some p) :
    p ∈ d.pages ∧ p.id = id :=
  ⟨List.mem_of_find?_eq_some found,
    eq_of_beq (List.find?_some (p := fun p : Page => p.id == id) found)⟩

theorem checkPage_of_mem {d : Document} {id : String} (h : id ∈ d.pageIds) :
    d.checkPage id = .ok () := by
  unfold checkPage
  rw [if_pos (hasPage_iff.mpr h)]

theorem checkPage_of_not_mem {d : Document} {id : String} (h : id ∉ d.pageIds) :
    d.checkPage id = .error (.pageNotFound id) := by
  unfold checkPage
  rw [if_neg (fun has => h (hasPage_iff.mp has))]

/-- What comes behind the check of a page succeeds only for the id of a page. -/
theorem checkPage_bind_ok_iff {α : Type} {d : Document} {id : String}
    {f : Except DocumentError α} {a : α} :
    (d.checkPage id >>= fun _ => f) = .ok a ↔ id ∈ d.pageIds ∧ f = .ok a := by
  by_cases h : id ∈ d.pageIds
  · rw [checkPage_of_mem h]
    exact ⟨fun ok => ⟨h, ok⟩, fun ok => ok.2⟩
  · rw [checkPage_of_not_mem h]
    exact ⟨nofun, fun ok => absurd ok.1 h⟩

theorem nodeIds_ofPage (p : Page) : (ofPage p).nodeIds = [] := by
  simp only [nodeIds, ofPage, layout, Dict.get?_insert, List.flatMap_cons, List.flatMap_nil,
    if_true, Option.getD_some, Node.forestIds, List.append_nil]

/-- A document of one page without nodes is valid. -/
theorem valid_ofPage (p : Page) : (ofPage p).Valid where
  pages_ne_nil := List.cons_ne_nil _ _
  pageIds_nodup := List.nodup_singleton _
  mem_layouts_iff _ := Iff.rfl
  active_mem := List.mem_cons_self
  nodeIds_nodup := by
    rw [nodeIds_ofPage]
    exact List.nodup_nil

/-! ## What a change makes -/

theorem withLayout_ok_iff {d e : Document} {id : String} {layout : List Node} :
    d.withLayout id layout = .ok e ↔
      id ∈ d.pageIds ∧ e = { d with layouts := d.layouts.insert id layout } := by
  unfold withLayout
  rw [checkPage_bind_ok_iff]
  exact and_congr_right fun _ => ⟨fun h => by cases h; rfl, fun h => by rw [h]; rfl⟩

/-- A page can be added exactly when its id is free. -/
theorem withPageAdded_ok_iff {d e : Document} {p : Page} :
    d.withPageAdded p = .ok e ↔
      p.id ∉ d.pageIds ∧ e = ⟨d.pages ++ [p], d.layouts.insert p.id [], p.id⟩ := by
  unfold withPageAdded
  by_cases h : p.id ∈ d.pageIds
  · rw [if_pos (hasPage_iff.mpr h)]
    exact ⟨nofun, fun ok => absurd h ok.1⟩
  · rw [if_neg (fun has => h (hasPage_iff.mp has))]
    constructor
    · intro ok
      cases ok
      exact ⟨h, rfl⟩
    · rintro ⟨-, rfl⟩
      rfl

theorem withPageUpdated_ok_iff {d e : Document} {id : String} {patch : PagePatch} :
    d.withPageUpdated id patch = .ok e ↔
      id ∈ d.pageIds ∧
        e = { d with pages := d.pages.map fun p => if p.id == id then patch.apply p else p } := by
  unfold withPageUpdated
  rw [checkPage_bind_ok_iff]
  exact and_congr_right fun _ => ⟨fun h => by cases h; rfl, fun h => by rw [h]; rfl⟩

/-- A page can be removed exactly when it exists and another one stays. -/
theorem withPageRemoved_ok_iff {d e : Document} {id : String} :
    d.withPageRemoved id = .ok e ↔
      id ∈ d.pageIds ∧ ∃ first rest, d.pages.filter (fun p => p.id != id) = first :: rest ∧
        e = ⟨first :: rest, d.layouts.erase id,
          if d.activePageId == id then first.id else d.activePageId⟩ := by
  unfold withPageRemoved
  rw [checkPage_bind_ok_iff]
  refine and_congr_right fun _ => ?_
  cases d.pages.filter (fun p => p.id != id) with
  | nil => exact ⟨nofun, fun ⟨_, _, h, _⟩ => absurd h.symm (List.cons_ne_nil _ _)⟩
  | cons first rest =>
    constructor
    · intro h
      cases h
      exact ⟨first, rest, rfl, rfl⟩
    · rintro ⟨_, _, same, rfl⟩
      cases same
      rfl

theorem withActivePage_ok_iff {d e : Document} {id : String} :
    d.withActivePage id = .ok e ↔ id ∈ d.pageIds ∧ e = { d with activePageId := id } := by
  unfold withActivePage
  rw [checkPage_bind_ok_iff]
  exact and_congr_right fun _ => ⟨fun h => by cases h; rfl, fun h => by rw [h]; rfl⟩

/-! ## Changes keep the pages in order -/

theorem Paged.withLayout {d e : Document} {id : String} {layout : List Node} (h : d.Paged)
    (changed : d.withLayout id layout = .ok e) : e.Paged := by
  obtain ⟨page, rfl⟩ := withLayout_ok_iff.mp changed
  refine ⟨h.pages_ne_nil, h.pageIds_nodup, fun l => ?_, h.active_mem⟩
  rw [Dict.mem_keys_insert, h.mem_layouts_iff]
  constructor
  · rintro (rfl | hl)
    · exact page
    · exact hl
  · exact .inr

/-- A new page has a new id and comes with a layout. -/
theorem Paged.withPageAdded {d e : Document} {p : Page} (h : d.Paged)
    (changed : d.withPageAdded p = .ok e) : e.Paged := by
  obtain ⟨free, rfl⟩ := withPageAdded_ok_iff.mp changed
  have ids : pageIds ⟨d.pages ++ [p], d.layouts.insert p.id [], p.id⟩ = d.pageIds ++ [p.id] :=
    List.map_append
  constructor
  · exact List.append_ne_nil_of_right_ne_nil _ (List.cons_ne_nil _ _)
  · rw [ids]
    refine List.nodup_append.mpr ⟨h.pageIds_nodup, List.nodup_singleton _, fun a ha b hb => ?_⟩
    rw [List.mem_singleton.mp hb]
    exact fun same => free (same ▸ ha)
  · intro l
    rw [ids, Dict.mem_keys_insert, h.mem_layouts_iff, List.mem_append, List.mem_singleton]
    exact or_comm
  · rw [ids]
    exact List.mem_append_right _ List.mem_cons_self

/-- A change of a page does not touch its id. -/
theorem pageIds_withPageUpdated {d e : Document} {id : String} {patch : PagePatch}
    (changed : d.withPageUpdated id patch = .ok e) : e.pageIds = d.pageIds := by
  obtain ⟨-, rfl⟩ := withPageUpdated_ok_iff.mp changed
  unfold pageIds
  rw [List.map_map]
  refine List.map_congr_left fun p _ => ?_
  show (if p.id == id then patch.apply p else p).id = p.id
  split
  · rfl
  · rfl

theorem Paged.withPageUpdated {d e : Document} {id : String} {patch : PagePatch} (h : d.Paged)
    (changed : d.withPageUpdated id patch = .ok e) : e.Paged := by
  have ids := pageIds_withPageUpdated changed
  obtain ⟨-, rfl⟩ := withPageUpdated_ok_iff.mp changed
  refine ⟨fun none => h.pages_ne_nil (List.map_eq_nil_iff.mp none), ?_, fun l => ?_, ?_⟩
  · rw [ids]
    exact h.pageIds_nodup
  · rw [ids]
    exact h.mem_layouts_iff l
  · rw [ids]
    exact h.active_mem

/-- With a page goes its layout, and an active page that goes is replaced by one that stays. -/
theorem Paged.withPageRemoved {d e : Document} {id : String} (h : d.Paged)
    (changed : d.withPageRemoved id = .ok e) : e.Paged := by
  obtain ⟨-, first, rest, kept, rfl⟩ := withPageRemoved_ok_iff.mp changed
  have ids : ∀ l, l ∈ (first :: rest).map (·.id) ↔ l ≠ id ∧ l ∈ d.pageIds := by
    intro l
    rw [← kept]
    unfold pageIds
    simp only [List.mem_map, List.mem_filter, bne_iff_ne]
    constructor
    · rintro ⟨p, ⟨hp, other⟩, rfl⟩
      exact ⟨other, p, hp, rfl⟩
    · rintro ⟨other, p, hp, rfl⟩
      exact ⟨p, ⟨hp, other⟩, rfl⟩
  refine ⟨List.cons_ne_nil _ _, ?_, fun l => ?_, ?_⟩
  · show ((first :: rest).map (·.id)).Nodup
    rw [← kept]
    exact h.pageIds_nodup.sublist (List.filter_sublist.map _)
  · rw [Dict.mem_keys_erase, h.mem_layouts_iff]
    exact (ids l).symm
  · show (if d.activePageId == id then first.id else d.activePageId) ∈ (first :: rest).map (·.id)
    split
    next => exact List.mem_cons_self
    next other => exact (ids _).mpr ⟨fun same => other (beq_iff_eq.mpr same), h.active_mem⟩

/-- The page that becomes active exists. -/
theorem Paged.withActivePage {d e : Document} {id : String} (h : d.Paged)
    (changed : d.withActivePage id = .ok e) : e.Paged := by
  obtain ⟨page, rfl⟩ := withActivePage_ok_iff.mp changed
  exact ⟨h.pages_ne_nil, h.pageIds_nodup, h.mem_layouts_iff, page⟩

/-- Another active page is no change of the nodes, so the document stays valid. -/
theorem Valid.withActivePage {d e : Document} {id : String} (h : d.Valid)
    (changed : d.withActivePage id = .ok e) : e.Valid := by
  refine valid_iff.mpr ⟨h.paged.withActivePage changed, ?_⟩
  obtain ⟨-, rfl⟩ := withActivePage_ok_iff.mp changed
  exact h.nodeIds_nodup

end PageStudio.Document
