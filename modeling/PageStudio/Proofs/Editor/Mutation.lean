import PageStudio.Editor.Mutation
import PageStudio.Proofs.Document.Validity

/-!
# What a mutation makes of a document

A mutation comes to at most one change of the document (`draft_cases`), behind which the node ids
are checked. So its result is valid where the document is.
-/

namespace PageStudio.Mutation

variable {d e : Document} {ids : IdSource} {m : Mutation}

/-! ## Results -/

theorem lift_ok_iff {r : Except DocumentError Document} : lift r = .ok e ↔ r = .ok e := by
  cases r with
  | ok a =>
    constructor
    · intro h
      cases h
      rfl
    · intro h
      cases h
      rfl
  | error cause => exact ⟨nofun, nofun⟩

theorem checked_ok_iff : checked d = .ok e ↔ d = e ∧ d.nodeIds.Nodup := by
  rw [← Document.checkNodeIds_ok_iff]
  unfold checked
  cases d.checkNodeIds with
  | ok _ =>
    constructor
    · intro h
      cases h
      exact ⟨rfl, rfl⟩
    · rintro ⟨rfl, -⟩
      rfl
  | error cause => exact ⟨nofun, nofun⟩

/-- A mutation gives its draft, where no node id occurs twice in it. -/
theorem apply_ok_iff :
    (m.apply d ids).1 = .ok e ↔ (m.draft d ids).1 = .ok e ∧ e.nodeIds.Nodup := by
  unfold apply
  show (m.draft d ids).1.bind checked = .ok e ↔ _
  cases (m.draft d ids).1 with
  | ok a =>
    show checked a = .ok e ↔ _
    rw [checked_ok_iff]
    constructor
    · rintro ⟨rfl, nodup⟩
      exact ⟨rfl, nodup⟩
    · rintro ⟨same, nodup⟩
      cases same
      exact ⟨rfl, nodup⟩
  | error cause => exact ⟨nofun, nofun⟩

theorem apply_snd : (m.apply d ids).2 = (m.draft d ids).2 := rfl

/-! ## Drafts -/

/-- A node is inserted by another layout of the active page. -/
theorem insertInto_ok {parent : Option String} {n : Node}
    (inserted : insertInto d parent n = .ok e) :
    ∃ layout, Forest.insert? d.activeLayout parent n = some layout ∧
      d.withLayout d.activePageId layout = .ok e := by
  unfold insertInto at inserted
  split at inserted
  next layout found => exact ⟨layout, found, lift_ok_iff.mp inserted⟩
  next => cases inserted

/-- A draft is the document as it is, or comes from one change of it. -/
theorem draft_cases (drafted : (m.draft d ids).1 = .ok e) :
    e = d ∨ (∃ id layout, d.withLayout id layout = .ok e) ∨
      (∃ p, d.withPageAdded p = .ok e) ∨ (∃ id patch, d.withPageUpdated id patch = .ok e) ∨
      ∃ id, d.withPageRemoved id = .ok e := by
  cases m with
  | insertNode parent n =>
    obtain ⟨layout, -, changed⟩ := insertInto_ok drafted
    exact .inr (.inl ⟨_, layout, changed⟩)
  | updateNode id p => exact .inr (.inl ⟨_, _, lift_ok_iff.mp drafted⟩)
  | removeNode id => exact .inr (.inl ⟨_, _, lift_ok_iff.mp drafted⟩)
  | duplicateNode id =>
    simp only [draft, duplicateIn] at drafted
    split at drafted
    next =>
      cases drafted
      exact .inl rfl
    next found _ =>
      obtain ⟨layout, -, changed⟩ := insertInto_ok drafted
      exact .inr (.inl ⟨_, layout, changed⟩)
  | clearPage id => exact .inr (.inl ⟨_, _, lift_ok_iff.mp drafted⟩)
  | replaceLayout id nodes => exact .inr (.inl ⟨_, _, lift_ok_iff.mp drafted⟩)
  | addPage p => exact .inr (.inr (.inl ⟨p, lift_ok_iff.mp drafted⟩))
  | updatePage id patch => exact .inr (.inr (.inr (.inl ⟨id, patch, lift_ok_iff.mp drafted⟩)))
  | deletePage id => exact .inr (.inr (.inr (.inr ⟨id, lift_ok_iff.mp drafted⟩)))

/-- No mutation brings the pages out of order. -/
theorem paged_of_draft (h : d.Paged) (drafted : (m.draft d ids).1 = .ok e) : e.Paged := by
  rcases draft_cases drafted with
    rfl | ⟨_, _, changed⟩ | ⟨_, changed⟩ | ⟨_, _, changed⟩ | ⟨_, changed⟩
  · exact h
  · exact h.withLayout changed
  · exact h.withPageAdded changed
  · exact h.withPageUpdated changed
  · exact h.withPageRemoved changed

/-- A mutation of a valid document that succeeds gives a valid document. -/
theorem valid_of_apply (h : d.Valid) (applied : (m.apply d ids).1 = .ok e) : e.Valid := by
  obtain ⟨drafted, nodup⟩ := apply_ok_iff.mp applied
  exact Document.valid_iff.mpr ⟨paged_of_draft h.paged drafted, nodup⟩

end PageStudio.Mutation
