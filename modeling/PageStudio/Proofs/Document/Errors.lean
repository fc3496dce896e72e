import PageStudio.Proofs.Document.Validity

/-!
# When there is no changed document

The errors of the checks and changes of a document, each with the exact condition for it. A page that
does not exist comes before any other reason.
-/

namespace PageStudio.Document

variable {d : Document} {id : String} {e : DocumentError}

/-- A document is refused with the first node id that is repeated. -/
theorem checkNodeIds_error_iff :
    d.checkNodeIds = .error e ↔ ∃ i, e = .duplicateId i ∧ FirstRepeated d.nodeIds i := by
  simp only [← firstRepeated?_eq_some_iff]
  unfold checkNodeIds
  cases firstRepeated? [] d.nodeIds with
  | none => exact ⟨nofun, fun ⟨_, _, found⟩ => absurd found nofun⟩
  | some i =>
    constructor
    · intro refused
      cases refused
      exact ⟨i, rfl, rfl⟩
    · rintro ⟨_, rfl, found⟩
      cases found
      rfl

/-- What comes behind the check of a page fails for the page, or else by itself. -/
theorem checkPage_bind_error_iff {α : Type} {f : Except DocumentError α} :
    (d.checkPage id >>= fun _ => f) = .error e ↔
      if id ∈ d.pageIds then f = .error e else e = .pageNotFound id := by
  by_cases page : id ∈ d.pageIds
  · rw [checkPage_of_mem page, if_pos page]
    rfl
  · rw [checkPage_of_not_mem page, if_neg page]
    constructor
    · intro refused
      cases refused
      rfl
    · intro same
      rw [same]
      rfl

theorem withLayout_error_iff {layout : List Node} :
    d.withLayout id layout = .error e ↔ id ∉ d.pageIds ∧ e = .pageNotFound id := by
  unfold withLayout
  rw [checkPage_bind_error_iff]
  split
  next page => exact ⟨nofun, fun h => absurd page h.1⟩
  next missing => exact (and_iff_right missing).symm

theorem withPageUpdated_error_iff {patch : PagePatch} :
    d.withPageUpdated id patch = .error e ↔ id ∉ d.pageIds ∧ e = .pageNotFound id := by
  unfold withPageUpdated
  rw [checkPage_bind_error_iff]
  split
  next page => exact ⟨nofun, fun h => absurd page h.1⟩
  next missing => exact (and_iff_right missing).symm

theorem withPageAdded_error_iff {p : Page} :
    d.withPageAdded p = .error e ↔ p.id ∈ d.pageIds ∧ e = .duplicatePage p.id := by
  unfold withPageAdded
  rw [← hasPage_iff]
  split
  next taken =>
    constructor
    · intro refused
      cases refused
      exact ⟨taken, rfl⟩
    · rintro ⟨-, rfl⟩
      rfl
  next free => exact ⟨nofun, fun h => absurd h.1 free⟩

/-- No page but one of an id is there exactly where it is the only one. -/
theorem filter_pages_eq_nil_iff (distinct : d.pageIds.Nodup) (page : id ∈ d.pageIds) :
    (d.pages.filter fun p => p.id != id) = [] ↔ d.pageIds = [id] := by
  have others : (d.pages.filter fun p => p.id != id) = [] ↔ ∀ i ∈ d.pageIds, i = id := by
    unfold pageIds
    simp only [List.filter_eq_nil_iff, List.forall_mem_map, bne_iff_ne, ne_eq, not_not]
  rw [others]
  constructor
  · intro only
    have row := List.eq_replicate_of_mem only
    have once : d.pageIds.length = 1 := by
      rw [row, List.nodup_replicate] at distinct
      have present := List.length_pos_of_mem page
      omega
    rw [row, once]
    rfl
  · intro only i mem
    rw [only] at mem
    exact List.mem_singleton.mp mem

/-- The last page stays. -/
theorem withPageRemoved_error_iff (distinct : d.pageIds.Nodup) :
    d.withPageRemoved id = .error e ↔
      if id ∈ d.pageIds then d.pageIds = [id] ∧ e = .lastPage else e = .pageNotFound id := by
  unfold withPageRemoved
  rw [checkPage_bind_error_iff]
  by_cases page : id ∈ d.pageIds
  · rw [if_pos page, if_pos page, ← filter_pages_eq_nil_iff distinct page]
    cases d.pages.filter fun p => p.id != id with
    | nil =>
      constructor
      · intro refused
        cases refused
        exact ⟨rfl, rfl⟩
      · rintro ⟨-, rfl⟩
        rfl
    | cons first rest => exact ⟨nofun, fun h => absurd h.1 (List.cons_ne_nil _ _)⟩
  · rw [if_neg page, if_neg page]

end PageStudio.Document
