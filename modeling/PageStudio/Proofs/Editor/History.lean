import PageStudio.Editor.History

/-!
# The values of a history

A step back and a step again move the cursor along the timeline and leave the timeline itself as it
is. Only a new value changes it: it comes behind the present one, in place of what was taken back.
-/

namespace PageStudio.History

variable {α : Type}

/-- The present is one of the values of the timeline. -/
theorem present_mem_timeline (h : History α) : h.present ∈ h.timeline :=
  List.mem_append_right _ List.mem_cons_self

/-- A step back keeps the timeline. -/
theorem timeline_undo (h : History α) : h.undo.2.timeline = h.timeline := by
  obtain ⟨past, present, future⟩ := h
  cases past with
  | nil => rfl
  | cons a past =>
    show past.reverse ++ a :: present :: future = (a :: past).reverse ++ present :: future
    rw [List.reverse_cons, List.append_assoc]
    rfl

/-- A step again keeps the timeline. -/
theorem timeline_redo (h : History α) : h.redo.2.timeline = h.timeline := by
  obtain ⟨past, present, future⟩ := h
  cases future with
  | nil => rfl
  | cons a future =>
    show (present :: past).reverse ++ a :: future = past.reverse ++ present :: a :: future
    rw [List.reverse_cons, List.append_assoc]
    rfl

/-- After a value is stored there are that value and old ones. -/
theorem mem_timeline_commit [BEq α] {h : History α} {next a : α}
    (mem : a ∈ (h.commit next).2.timeline) : a = next ∨ a ∈ h.timeline := by
  unfold commit at mem
  split at mem
  next => exact .inr mem
  next =>
    rcases List.mem_append.mp mem with past | present
    · rcases List.mem_cons.mp (List.mem_reverse.mp past) with rfl | past
      · exact .inr h.present_mem_timeline
      · exact .inr (List.mem_append_left _ (List.mem_reverse.mpr past))
    · exact .inl (List.mem_singleton.mp present)

/-- What is stored is there, unless what was there counts as the same and stays. -/
theorem present_commit [BEq α] (h : History α) (next : α) :
    (next == h.present) = true ∧ (h.commit next).2.present = h.present ∨
      (h.commit next).2.present = next := by
  unfold commit
  split
  next same => exact .inl ⟨same, rfl⟩
  next => exact .inr rfl

end PageStudio.History
