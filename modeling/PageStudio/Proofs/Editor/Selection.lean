import PageStudio.Proofs.Editor.Refusal

/-!
# What a session shows

The selection and the viewport are kept beside the history, by id and by name. Both still lead to
what they name after any run of operations: a selected node is on the active page of the document as
it is, and the viewport that is looked at is one of those that the session was opened with.
-/

namespace PageStudio.Session

open Style

variable {s t : Session} {viewports : List Viewport}

/-! ## The viewport -/

/-- A session has a list of viewports, and looks at one of it. -/
structure Views (viewports : List Viewport) (s : Session) : Prop where
  viewports_eq : s.viewports = viewports
  isSome_active : (s.activeViewport?).isSome = true

/-- The first of a list of viewports is looked at in the beginning. -/
theorem views_withViewports (s : Session) (nonempty : viewports ≠ []) :
    (s.withViewports viewports).Views viewports := by
  refine ⟨rfl, ?_⟩
  cases viewports with
  | nil => exact absurd rfl nonempty
  | cons first rest =>
    have named : (first.name == first.name) = true := beq_self_eq_true first.name
    exact List.find?_isSome.mpr ⟨first, List.mem_cons_self, named⟩

/-- The rest of a session does not matter for what it looks at. -/
theorem Views.of_eq (views : s.Views viewports) (list : t.viewports = s.viewports)
    (active : t.activeViewport = s.activeViewport) : t.Views viewports := by
  refine ⟨list.trans views.viewports_eq, ?_⟩
  unfold activeViewport?
  rw [list, active]
  exact views.isSome_active

theorem Views.apply (views : s.Views viewports) (m : Mutation) :
    (s.apply m).2.Views viewports := by
  unfold Session.apply
  split
  next => exact views.of_eq rfl rfl
  next => exact views.of_eq rfl rfl

/-- Only a change of the viewport touches it, and that wants one of the list. -/
theorem Views.perform (views : s.Views viewports) (op : Operation) :
    (s.perform op).Views viewports := by
  cases edit : op.edit? s with
  | some e =>
    have taken : Views viewports { s with ids := e.2 } := views.of_eq rfl rfl
    rw [perform_edit edit]
    exact (taken.apply e.1).of_eq rfl rfl
  | none =>
    cases op with
    | apply | addNode | addPage => cases edit
    | applyGenerated generated =>
      cases generated with
      | ok nodes => cases edit
      | error e => exact views
    | undo | redo | select => exact views.of_eq rfl rfl
    | selectPage id =>
      simp only [Session.perform, selectPage]
      split
      next => exact views
      next =>
        split
        next => exact views.of_eq rfl rfl
        next => exact views
    | setViewport name =>
      simp only [Session.perform, setViewport]
      split
      next found => exact ⟨views.viewports_eq, found⟩
      next => exact views
    | setTheme | setSettings | takeNodeId | takePageId | parseGenerated | reserve =>
      exact views.of_eq (by simp only [Session.perform]) (by simp only [Session.perform])

theorem Views.run (views : s.Views viewports) (ops : List Operation) :
    (s.run ops).Views viewports := by
  induction ops generalizing s with
  | nil => exact views
  | cons op ops ih => exact ih (views.perform op)

/-! ## The selection -/

/-- The selected node is there to be seen: it is on the active page, and has the id. -/
theorem Live.exists_selectedNode? (live : s.Live) {id : String} (selected : s.selection = some id) :
    id ∈ Node.forestIds s.document.activeLayout ∧ ∃ n, s.selectedNode? = some n ∧ n.id = id := by
  obtain ⟨n, found⟩ := Option.isSome_iff_exists.mp (live id selected)
  refine ⟨Forest.isSome_find?_iff.mp (live id selected), n, ?_, Forest.id_of_find? found⟩
  rw [selectedNode?, selected, Option.bind_some, found]

/-- A session that was opened on a valid document with some viewports shows what it has selected and
what it looks at, whatever was asked of it: the selected node is on the active page, that is a page
of the document, and the active viewport is one of the list. -/
theorem shown_of_run (d : Document) (valid : d.Valid) (ids : IdSource) (viewports : List Viewport)
    (nonempty : viewports ≠ []) (ops : List Operation) :
    let s := ((start d ids).withViewports viewports).run ops
    (∀ id, s.selection = some id →
      id ∈ Node.forestIds s.document.activeLayout ∧
        ∃ n, s.selectedNode? = some n ∧ n.id = id) ∧
    s.document.activePageId ∈ s.document.pageIds ∧
    ∃ v ∈ viewports, s.activeViewport? = some v := by
  intro s
  have unselected : ((start d ids).withViewports viewports).Live := live_of_none rfl
  have opened : ((start d ids).withViewports viewports).Sound := sound_start valid ids
  have live : s.Live := unselected.run ops
  have sound : s.Sound := opened.run ops
  have views : s.Views viewports := (views_withViewports _ nonempty).run ops
  refine ⟨fun id selected => live.exists_selectedNode? selected, sound.document.active_mem, ?_⟩
  obtain ⟨v, found⟩ := Option.isSome_iff_exists.mp views.isSome_active
  exact ⟨v, views.viewports_eq ▸ List.mem_of_find?_eq_some found, found⟩

/-- A box with a text in it is removed while the text is selected, and comes back; the text is then
selected again, and a viewport is wanted that there is not. -/
theorem shown_of_run_ofPage :
    let d := Document.ofPage { id := "home", name := "Home" }
    let ops : List Operation := [.addNode .container none, .addNode .text (some "container-s-1"),
      .apply (.removeNode "container-s-1"), .undo, .select (some "text-s-2"), .setViewport "Watch"]
    let s := ((start d { seed := "s" }).withViewports [.mobile]).run ops
    d.Valid ∧ [Viewport.mobile] ≠ [] ∧ s.selection = some "text-s-2" ∧
      "text-s-2" ∈ Node.forestIds s.document.activeLayout ∧
      ∃ v ∈ [Viewport.mobile], s.activeViewport? = some v := by
  intro d ops s
  have shown := shown_of_run d (Document.valid_ofPage _) { seed := "s" } [.mobile]
    (List.cons_ne_nil _ _) ops
  have selected : s.selection = some "text-s-2" := by decide
  exact ⟨Document.valid_ofPage _, List.cons_ne_nil _ _, selected, (shown.1 _ selected).1,
    shown.2.2⟩

end PageStudio.Session
