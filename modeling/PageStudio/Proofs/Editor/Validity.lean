import PageStudio.Proofs.Editor.Mutation
import PageStudio.Proofs.Editor.Operation

/-!
# The documents of a session stay valid

A session that starts with a valid document holds nothing but valid documents in its past, present
and future, whatever is asked of it and whether that succeeds.
-/

namespace PageStudio

namespace Session

/-- All documents of the history are valid. -/
def Sound (s : Session) : Prop := ∀ d ∈ s.history.timeline, d.Valid

theorem Sound.document {s : Session} (h : s.Sound) : s.document.Valid :=
  h _ s.history.present_mem_timeline

theorem sound_start {d : Document} (valid : d.Valid) (ids : IdSource) : (start d ids).Sound := by
  intro e he
  rw [List.mem_singleton.mp he]
  exact valid

/-- Every operation puts only valid documents into a history of valid ones. -/
theorem Sound.perform {s : Session} (h : s.Sound) (op : Operation) : (s.perform op).Sound := by
  intro d hd
  rcases mem_timeline_perform hd with old | ⟨id, changed⟩ | ⟨m, ids, -, applied⟩
  · exact h d old
  · exact h.document.withActivePage changed
  · exact Mutation.valid_of_apply h.document applied

/-- A run of operations keeps the history sound. -/
theorem Sound.run {s : Session} (h : s.Sound) (ops : List Operation) : (s.run ops).Sound := by
  induction ops generalizing s with
  | nil => exact h
  | cons op ops ih => exact ih (h.perform op)

/-- A session on a valid document has only valid documents in its past, as its present and in its
future, after every run of operations. -/
theorem valid_of_mem_history_run (d : Document) (valid : d.Valid) (ids : IdSource)
    (viewports : List Style.Viewport) (ops : List Operation) :
    let h := (((start d ids).withViewports viewports).run ops).history
    (∀ e ∈ h.past, e.Valid) ∧ h.present.Valid ∧ ∀ e ∈ h.future, e.Valid := by
  intro h
  have opened : ((start d ids).withViewports viewports).Sound := sound_start valid ids
  have sound : ∀ e ∈ h.timeline, e.Valid := opened.run ops
  refine ⟨fun e he => sound e ?_, sound _ h.present_mem_timeline, fun e he => sound e ?_⟩
  · exact List.mem_append_left _ (List.mem_reverse.mpr he)
  · exact List.mem_append_right _ (List.mem_cons_of_mem _ he)

/-- A session on a document of one page, where a node is added, taken back and duplicated. -/
theorem valid_of_mem_history_run_ofPage :
    let d := Document.ofPage { id := "home", name := "Home" }
    let ops : List Operation := [.addNode .text none, .apply (.duplicateNode "text-s-1"), .undo]
    let h := (((start d { seed := "s" }).withViewports []).run ops).history
    d.Valid ∧ (∀ e ∈ h.past, e.Valid) ∧ h.present.Valid ∧ ∀ e ∈ h.future, e.Valid :=
  ⟨Document.valid_ofPage _, valid_of_mem_history_run _ (Document.valid_ofPage _) _ _ _⟩

end Session

end PageStudio
