/-!
# Histories

A value with the values it had before and those that were taken back. Storing a new value forgets
what was taken back, and storing the value that is there anyway does nothing.
-/

namespace PageStudio

/-- A value with its past and its future. -/
structure History (α : Type) where
  /-- The older values, the latest first. -/
  past : List α
  present : α
  /-- The values that were taken back, the one taken back last first. -/
  future : List α
deriving Inhabited

namespace History

variable {α : Type}

/-- The history of a value that has neither past nor future. -/
def ofPresent (a : α) : History α := ⟨[], a, []⟩

/-- All values from the oldest to the one that was taken back first. -/
def timeline (h : History α) : List α := h.past.reverse ++ h.present :: h.future

/-- The place of the present in the timeline. -/
def cursor (h : History α) : Nat := h.past.length

/-- Whether there is something to take back. -/
def canUndo (h : History α) : Bool := !h.past.isEmpty

/-- Whether something was taken back. -/
def canRedo (h : History α) : Bool := !h.future.isEmpty

/-- Stores a value, and says whether it is another than the present one. -/
def commit [BEq α] (h : History α) (next : α) : Bool × History α :=
  if next == h.present then (false, h) else (true, ⟨h.present :: h.past, next, []⟩)

/-- Takes the last step back, and says whether there was one. -/
def undo (h : History α) : Bool × History α :=
  match h.past with
  | [] => (false, h)
  | a :: past => (true, ⟨past, a, h.present :: h.future⟩)

/-- Takes a step again that was taken back, and says whether there was one. -/
def redo (h : History α) : Bool × History α :=
  match h.future with
  | [] => (false, h)
  | a :: future => (true, ⟨h.present :: h.past, a, future⟩)

/-- A value in place of the whole history. -/
def reset (_ : History α) (a : α) : History α := ofPresent a

end History

end PageStudio
