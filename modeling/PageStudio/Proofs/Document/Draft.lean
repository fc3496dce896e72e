import PageStudio.Proofs.Document.Validity

/-!
# Documents made from drafts

A draft becomes a document exactly where it has a page and repeats no id, neither of its pages nor
of the nodes on them. Layouts of pages that it does not list are dropped before the ids are looked
at, so what they hold does not matter. What is missing is filled in: an empty layout for a page
without one, and the first page where none of the pages is said to be active.

## Main statements

* `ofDraft_eq_ok_iff`: which drafts become a document, and which document.
* `ofDraft_normal`: the same, and that documents come out of their own drafts unchanged, however
  they were built.
-/

namespace PageStudio.Document

variable {d e : Document} {draft : Draft} {first : Page} {rest : List Page}

namespace Draft

/-- The ids of the pages of a draft. -/
def pageIds (draft : Draft) : List String := draft.pages.map (·.id)

/-- The layout that a draft has for a page: empty where there is none. -/
def layout (draft : Draft) (id : String) : List Node := (draft.layouts.get? id).getD []

/-- The ids of all nodes on the pages of a draft. -/
def nodeIds (draft : Draft) : List String :=
  draft.pages.flatMap fun p => Node.forestIds (draft.layout p.id)

/-- What a draft needs to become a document. -/
structure Sound (draft : Draft) : Prop where
  pages_ne_nil : draft.pages ≠ []
  pageIds_nodup : draft.pageIds.Nodup
  nodeIds_nodup : draft.nodeIds.Nodup

/-- A document is what a draft says: it has the pages of the draft with their layouts and no other
layout, and its active page is the one of the draft, or the first where that is not listed. -/
structure Gives (draft : Draft) (d : Document) : Prop where
  pages : d.pages = draft.pages
  listed : ∀ id ∈ draft.pageIds, d.layouts.get? id = some (draft.layout id)
  unlisted : ∀ id ∉ draft.pageIds, d.layouts.get? id = none
  named : ∀ id ∈ draft.pageIds, draft.activePageId = some id → d.activePageId = id
  unnamed : (∀ id ∈ draft.pageIds, draft.activePageId ≠ some id) →
    draft.pages.head?.map (·.id) = some d.activePageId

/-! ## Mending -/

/-- The document of a draft with a first page, before its node ids are looked at. -/
def mended (draft : Draft) (first : Page) : Document :=
  ⟨draft.pages, Dict.ofList (draft.pageIds.map fun id => (id, draft.layout id)),
    (draft.activePageId.filter draft.pageIds.contains).getD first.id⟩

theorem activePageId_mended_of_named {id : String} (mem : id ∈ draft.pageIds)
    (named : draft.activePageId = some id) : (draft.mended first).activePageId = id := by
  show (draft.activePageId.filter draft.pageIds.contains).getD first.id = id
  rw [named, Option.filter_some, if_pos (List.contains_iff_mem.mpr mem), Option.getD_some]

theorem activePageId_mended_of_unnamed
    (unnamed : ∀ id ∈ draft.pageIds, draft.activePageId ≠ some id) :
    (draft.mended first).activePageId = first.id := by
  show (draft.activePageId.filter draft.pageIds.contains).getD first.id = first.id
  cases active : draft.activePageId with
  | none => rfl
  | some id =>
    have elsewhere : ¬ draft.pageIds.contains id = true := fun mem =>
      unnamed id (List.contains_iff_mem.mp mem) active
    rw [Option.filter_some, if_neg elsewhere, Option.getD_none]

theorem gives_mended (pages : draft.pages = first :: rest) : draft.Gives (draft.mended first) where
  pages := rfl
  listed id mem := (Dict.get?_ofList_map draft.pageIds draft.layout id).trans (if_pos mem)
  unlisted id absent := (Dict.get?_ofList_map draft.pageIds draft.layout id).trans (if_neg absent)
  named id mem named := activePageId_mended_of_named mem named
  unnamed unnamed := by
    rw [pages, activePageId_mended_of_unnamed unnamed]
    rfl

/-- A draft says one document. -/
theorem Gives.eq_mended (gives : draft.Gives d) (pages : draft.pages = first :: rest) :
    d = draft.mended first := by
  have mended := gives_mended pages
  have layouts : d.layouts = (draft.mended first).layouts := by
    refine Dict.ext_get? fun id => ?_
    by_cases mem : id ∈ draft.pageIds
    · rw [gives.listed id mem, mended.listed id mem]
    · rw [gives.unlisted id mem, mended.unlisted id mem]
  have active : d.activePageId = (draft.mended first).activePageId := by
    by_cases named : ∃ id ∈ draft.pageIds, draft.activePageId = some id
    · obtain ⟨id, mem, named⟩ := named
      rw [gives.named id mem named, mended.named id mem named]
    · have unnamed : ∀ id ∈ draft.pageIds, draft.activePageId ≠ some id :=
        fun id mem same => named ⟨id, mem, same⟩
      exact Option.some.inj ((gives.unnamed unnamed).symm.trans (mended.unnamed unnamed))
  obtain ⟨_, _, _⟩ := d
  cases gives.pages
  cases layouts
  cases active
  rfl

/-- The node ids of the document are those on the pages of the draft. -/
theorem Gives.nodeIds (gives : draft.Gives d) : d.nodeIds = draft.nodeIds := by
  unfold Document.nodeIds Draft.nodeIds
  rw [gives.pages]
  refine List.flatMap_congr fun p mem => ?_
  rw [Document.layout, gives.listed p.id (List.mem_map_of_mem mem), Option.getD_some]

theorem Gives.pageIds (gives : draft.Gives d) : d.pageIds = draft.pageIds := by
  unfold Document.pageIds Draft.pageIds
  rw [gives.pages]

end Draft

/-! ## Accepting -/

theorem ofDraft_of_nil (none : draft.pages = []) : ofDraft draft = .error .noPages := by
  unfold ofDraft
  simp only [none]

theorem ofDraft_of_repeated {id : String} (pages : draft.pages = first :: rest)
    (repeated : firstRepeated? [] draft.pageIds = some id) :
    ofDraft draft = .error (.duplicatePage id) := by
  unfold Draft.pageIds at repeated
  unfold ofDraft
  simp only [pages] at repeated ⊢
  simp only [repeated]
  rfl

/-- Where no page id occurs twice, only the node ids are left to be looked at. -/
theorem ofDraft_of_once (pages : draft.pages = first :: rest)
    (once : firstRepeated? [] draft.pageIds = none) :
    ofDraft draft = (draft.mended first).checkNodeIds.map fun _ => draft.mended first := by
  obtain ⟨_, layouts, active⟩ := draft
  cases pages
  unfold Draft.pageIds at once
  unfold ofDraft
  simp only [once]
  let mended := Draft.mended ⟨first :: rest, layouts, active⟩ first
  show (mended.checkNodeIds >>= fun _ => pure mended) = mended.checkNodeIds.map fun _ => mended
  cases mended.checkNodeIds with
  | ok _ => rfl
  | error _ => rfl

/-- A draft becomes a document exactly where it has a page and repeats no id on its pages, and the
document is the one that it says. -/
theorem ofDraft_eq_ok_iff : ofDraft draft = .ok d ↔ draft.Sound ∧ draft.Gives d := by
  cases pages : draft.pages with
  | nil =>
    rw [ofDraft_of_nil pages]
    exact ⟨nofun, fun ⟨sound, _⟩ => absurd pages sound.pages_ne_nil⟩
  | cons first rest =>
    have gives := Draft.gives_mended pages
    cases repeated : firstRepeated? [] draft.pageIds with
    | some id =>
      rw [ofDraft_of_repeated pages repeated]
      refine ⟨nofun, fun ⟨sound, _⟩ => ?_⟩
      have once := firstRepeated?_eq_none_iff.mpr sound.pageIds_nodup
      rw [repeated] at once
      cases once
    | none =>
      have once := firstRepeated?_eq_none_iff.mp repeated
      rw [ofDraft_of_once pages repeated]
      by_cases nodup : draft.nodeIds.Nodup
      · rw [checkNodeIds_ok_iff.mpr (gives.nodeIds ▸ nodup)]
        constructor
        · intro made
          cases made
          exact ⟨⟨pages ▸ List.cons_ne_nil _ _, once, nodup⟩, gives⟩
        · rintro ⟨-, given⟩
          rw [given.eq_mended pages]
          rfl
      · refine ⟨fun made => ?_, fun ⟨sound, _⟩ => absurd sound.nodeIds_nodup nodup⟩
        cases checked : (draft.mended first).checkNodeIds with
        | ok _ => exact absurd (gives.nodeIds ▸ checkNodeIds_ok_iff.mp checked) nodup
        | error cause =>
          rw [checked] at made
          cases made

theorem exists_ofDraft_iff : (∃ d, ofDraft draft = .ok d) ↔ draft.Sound := by
  constructor
  · rintro ⟨d, made⟩
    exact (ofDraft_eq_ok_iff.mp made).1
  · intro sound
    obtain ⟨first, rest, pages⟩ := List.exists_cons_of_ne_nil sound.pages_ne_nil
    exact ⟨_, ofDraft_eq_ok_iff.mpr ⟨sound, Draft.gives_mended pages⟩⟩

/-- The document of a draft is valid. -/
theorem Draft.Gives.valid (gives : draft.Gives d) (sound : draft.Sound) : d.Valid where
  pages_ne_nil := gives.pages ▸ sound.pages_ne_nil
  pageIds_nodup := gives.pageIds ▸ sound.pageIds_nodup
  mem_layouts_iff id := by
    rw [Dict.mem_keys_iff, gives.pageIds]
    by_cases mem : id ∈ draft.pageIds
    · rw [gives.listed id mem]
      exact ⟨fun _ => mem, fun _ => rfl⟩
    · rw [gives.unlisted id mem]
      exact ⟨nofun, fun listed => absurd listed mem⟩
  active_mem := by
    rw [gives.pageIds]
    by_cases named : ∃ id ∈ draft.pageIds, draft.activePageId = some id
    · obtain ⟨id, mem, named⟩ := named
      rwa [gives.named id mem named]
    · have first := gives.unnamed fun id mem same => named ⟨id, mem, same⟩
      obtain ⟨p, found, same⟩ := Option.map_eq_some_iff.mp first
      exact same ▸ List.mem_map_of_mem (List.mem_of_head? found)
  nodeIds_nodup := gives.nodeIds ▸ sound.nodeIds_nodup

/-! ## Documents as drafts -/

/-- What a document says about itself. -/
def toDraft (d : Document) : Draft := ⟨d.pages, d.layouts, some d.activePageId⟩

theorem gives_toDraft (paged : d.Paged) : d.toDraft.Gives d where
  pages := rfl
  listed id mem := by
    have known := (Dict.mem_keys_iff _).mp ((paged.mem_layouts_iff id).mpr mem)
    obtain ⟨layout, found⟩ := Option.isSome_iff_exists.mp known
    show d.layouts.get? id = some ((d.layouts.get? id).getD [])
    rw [found, Option.getD_some]
  unlisted id absent := by
    cases found : d.layouts.get? id with
    | none => rfl
    | some layout =>
      have known := (Dict.mem_keys_iff _).mpr (found ▸ rfl : (d.layouts.get? id).isSome = true)
      exact absurd ((paged.mem_layouts_iff id).mp known) absent
  named id _ named := Option.some.inj named
  unnamed unnamed := absurd rfl (unnamed d.activePageId paged.active_mem)

/-- A document whose pages are in order says of itself what it is, if no node id occurs twice. -/
theorem ofDraft_toDraft_of_paged (paged : d.Paged) (nodup : d.nodeIds.Nodup) :
    ofDraft d.toDraft = .ok d :=
  ofDraft_eq_ok_iff.mpr
    ⟨⟨paged.pages_ne_nil, paged.pageIds_nodup, nodup⟩, gives_toDraft paged⟩

/-- A valid document says of itself what it is. -/
theorem ofDraft_toDraft (valid : d.Valid) : ofDraft d.toDraft = .ok d :=
  ofDraft_toDraft_of_paged valid.paged valid.nodeIds_nodup

/-! ## Documents that were built -/

/-- A document is built from one empty page by changes that succeed. Whether a node id occurs twice
is not looked at. -/
inductive Built : Document → Prop
  | ofPage (p : Page) : Built (ofPage p)
  | withPageAdded {d e : Document} (p : Page) :
    Built d → d.withPageAdded p = .ok e → Built e
  | withPageUpdated {d e : Document} (id : String) (patch : PagePatch) :
    Built d → d.withPageUpdated id patch = .ok e → Built e
  | withPageRemoved {d e : Document} (id : String) :
    Built d → d.withPageRemoved id = .ok e → Built e
  | withActivePage {d e : Document} (id : String) :
    Built d → d.withActivePage id = .ok e → Built e
  | withLayout {d e : Document} (id : String) (layout : List Node) :
    Built d → d.withLayout id layout = .ok e → Built e

theorem Built.paged (built : d.Built) : d.Paged := by
  induction built with
  | ofPage p => exact (valid_ofPage p).paged
  | withPageAdded p _ changed ih => exact ih.withPageAdded changed
  | withPageUpdated id patch _ changed ih => exact ih.withPageUpdated changed
  | withPageRemoved id _ changed ih => exact ih.withPageRemoved changed
  | withActivePage id _ changed ih => exact ih.withActivePage changed
  | withLayout id layout _ changed ih => exact ih.withLayout changed

/-- A draft becomes a document exactly where it has a page and repeats no id on its pages; the
document is then the one that it says. A document that was built and repeats no node id comes out
of its own draft as it is. -/
theorem ofDraft_normal (draft : Draft) :
    ((∃ d, ofDraft draft = .ok d) ↔ draft.Sound) ∧
    (∀ d, ofDraft draft = .ok d → draft.Gives d) ∧
    ∀ d : Document, d.Built → d.nodeIds.Nodup → ofDraft d.toDraft = .ok d :=
  ⟨exists_ofDraft_iff, fun _ made => (ofDraft_eq_ok_iff.mp made).2,
    fun _ built nodup => ofDraft_toDraft_of_paged built.paged nodup⟩

/-- A draft of two pages: one has no layout, and a page that is not listed is active and repeats a
node id. -/
def straggling : Draft where
  pages := [{ id := "a", name := "A" }, { id := "b", name := "B" }]
  layouts := Dict.ofList [("b", [.bare "t" .text "T"]),
    ("c", [.bare "t" .text "T", .bare "t" .text "T"])]
  activePageId := some "c"

/-- It becomes the document of its two pages, the first of which is active. The document could have
been built page by page, and comes out of its own draft. -/
theorem ofDraft_normal_straggling :
    let d : Document :=
      ⟨straggling.pages, Dict.ofList [("a", []), ("b", [.bare "t" .text "T"])], "a"⟩
    straggling.Sound ∧ ofDraft straggling = .ok d ∧ straggling.Gives d ∧
      d.Built ∧ d.nodeIds.Nodup ∧ ofDraft d.toDraft = .ok d := by
  intro d
  have made : ofDraft straggling = .ok d := rfl
  have built : d.Built :=
    .withLayout "b" [.bare "t" .text "T"]
      (.withActivePage "a"
        (.withPageAdded { id := "b", name := "B" } (.ofPage { id := "a", name := "A" }) rfl) rfl) rfl
  have nodup : d.nodeIds.Nodup := by decide
  have normal := ofDraft_normal straggling
  exact ⟨normal.1.mp ⟨d, made⟩, made, normal.2.1 d made, built, nodup,
    normal.2.2 d built nodup⟩

end PageStudio.Document
