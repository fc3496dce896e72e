import Mathlib.Data.List.Chain
import PageStudio.Proofs.Editor.History

/-!
# A history is a timeline with a cursor

The past and the future of a history are two stacks that face each other. Seen from outside they
are one row of values with a cursor on the present one: a step back and a step again move the
cursor by one place, and a new value comes behind the cursor in place of all that stood there. So
no value stands beside an equal one, and as many steps again as there were steps back lead to where
they started from.
-/

namespace PageStudio

/-- Values in a row with a cursor on one of them. -/
structure Timeline (α : Type) where
  values : List α
  cursor : Nat
deriving DecidableEq

/-- A request to a history. -/
inductive HistoryStep (α : Type) where
  | commit (next : α)
  | undo
  | redo
  | reset (a : α)

/-- The answers to requests one after another, and what they leave behind. -/
def answers {σ ι : Type} (perform : σ → ι → Bool × σ) (s : σ) : List ι → List Bool × σ
  | [] => ([], s)
  | i :: rest =>
    ((perform s i).1 :: (answers perform (perform s i).2 rest).1,
      (answers perform (perform s i).2 rest).2)

theorem answers_append {σ ι : Type} (perform : σ → ι → Bool × σ) (s : σ) (front back : List ι) :
    answers perform s (front ++ back) =
      ((answers perform s front).1 ++ (answers perform (answers perform s front).2 back).1,
        (answers perform (answers perform s front).2 back).2) := by
  induction front generalizing s with
  | nil => rfl
  | cons i front ih => simp only [List.cons_append, answers, ih]

/-- What holds of a machine after one request and the view of it holds after any number. -/
theorem answers_view {σ τ ι : Type} {perform : σ → ι → Bool × σ} {perform' : τ → ι → Bool × τ}
    {view : σ → τ} (step : ∀ s i, perform' (view s) i = ((perform s i).1, view (perform s i).2))
    (s : σ) (requests : List ι) :
    answers perform' (view s) requests =
      ((answers perform s requests).1, view (answers perform s requests).2) := by
  induction requests generalizing s with
  | nil => rfl
  | cons i rest ih => simp only [answers, step, ih]

namespace Timeline

variable {α : Type} [BEq α]

/-- The timeline of one value. -/
def ofValue (a : α) : Timeline α := ⟨[a], 0⟩

/-- What a request answers and leaves behind. A reset always succeeds. -/
def perform (t : Timeline α) : HistoryStep α → Bool × Timeline α
  | .commit next =>
    if t.values[t.cursor]? == some next then (false, t)
    else (true, ⟨t.values.take (t.cursor + 1) ++ [next], t.cursor + 1⟩)
  | .undo => if t.cursor = 0 then (false, t) else (true, ⟨t.values, t.cursor - 1⟩)
  | .redo =>
    if t.cursor + 1 < t.values.length then (true, ⟨t.values, t.cursor + 1⟩) else (false, t)
  | .reset a => (true, ofValue a)

/-- The answers to requests, and the timeline behind them. -/
def run (t : Timeline α) (steps : List (HistoryStep α)) : List Bool × Timeline α :=
  answers perform t steps

end Timeline

namespace History

variable {α : Type}

/-- A history seen from outside. -/
def view (h : History α) : Timeline α := ⟨h.timeline, h.cursor⟩

/-- What a request answers and leaves behind. A reset always succeeds. -/
def perform [BEq α] (h : History α) : HistoryStep α → Bool × History α
  | .commit next => h.commit next
  | .undo => h.undo
  | .redo => h.redo
  | .reset a => (true, h.reset a)

/-- The answers to requests, and the history behind them. -/
def run [BEq α] (h : History α) (steps : List (HistoryStep α)) : List Bool × History α :=
  answers perform h steps

theorem run_append [BEq α] (h : History α) (front back : List (HistoryStep α)) :
    h.run (front ++ back) = ((h.run front).1 ++ ((h.run front).2.run back).1,
      ((h.run front).2.run back).2) :=
  answers_append perform h front back

/-! ## The cursor -/

theorem length_reverse_past (h : History α) : h.past.reverse.length = h.cursor :=
  List.length_reverse

/-- The cursor is on the present value. -/
theorem timeline_cursor (h : History α) : h.timeline[h.cursor]? = some h.present := by
  unfold timeline
  rw [← h.length_reverse_past, List.getElem?_append_right (Nat.le_refl _), Nat.sub_self]
  rfl

/-- Up to the cursor there are the past and the present. -/
theorem take_timeline (h : History α) :
    h.timeline.take (h.cursor + 1) = h.past.reverse ++ [h.present] := by
  unfold timeline
  rw [← h.length_reverse_past, List.take_length_add_append]
  rfl

/-- Behind the cursor there is the future. -/
theorem length_timeline (h : History α) :
    h.timeline.length = h.cursor + 1 + h.future.length := by
  simp only [timeline, cursor, List.length_append, List.length_reverse, List.length_cons]
  omega

/-! ## One request -/

section Simulation

variable [BEq α] [LawfulBEq α]

theorem view_commit (h : History α) (next : α) :
    h.view.perform (.commit next) = ((h.commit next).1, (h.commit next).2.view) := by
  have reading : (h.view.values[h.view.cursor]? == some next) = (next == h.present) := by
    show (h.timeline[h.cursor]? == some next) = _
    rw [h.timeline_cursor]
    show (h.present == next) = _
    exact Bool.eq_iff_iff.mpr ⟨fun same => by simpa using (eq_of_beq same).symm,
      fun same => by simpa using (eq_of_beq same).symm⟩
  simp only [Timeline.perform, commit, reading]
  split
  next => rfl
  next =>
    show (true, (⟨h.timeline.take (h.cursor + 1) ++ [next], h.cursor + 1⟩ : Timeline α)) = _
    rw [h.take_timeline]
    simp only [view, timeline, cursor, List.reverse_cons, List.length_cons]

omit [LawfulBEq α] in
theorem view_undo (h : History α) :
    h.view.perform .undo = (h.undo.1, h.undo.2.view) := by
  have same := h.timeline_undo
  obtain ⟨past, present, future⟩ := h
  cases past with
  | nil => rfl
  | cons a past =>
    show (true, (⟨_, past.length⟩ : Timeline α)) = (true, ⟨_, past.length⟩)
    rw [same]
    rfl

omit [LawfulBEq α] in
theorem view_redo (h : History α) :
    h.view.perform .redo = (h.redo.1, h.redo.2.view) := by
  have same := h.timeline_redo
  have length := h.length_timeline
  simp only [Timeline.perform, view, length]
  obtain ⟨past, present, future⟩ := h
  cases future with
  | nil => exact if_neg (Nat.lt_irrefl _)
  | cons a future =>
    rw [if_pos (by simp), same]
    rfl

/-- A request does to a history what it does to its timeline. -/
theorem view_perform (h : History α) (step : HistoryStep α) :
    h.view.perform step = ((h.perform step).1, (h.perform step).2.view) := by
  cases step with
  | commit next => exact h.view_commit next
  | undo => exact h.view_undo
  | redo => exact h.view_redo
  | reset a => rfl

end Simulation

/-! ## Neighbours -/

/-- No value stands beside an equal one. -/
def Stutterless (h : History α) : Prop := h.timeline.IsChain (· ≠ ·)

theorem stutterless_ofPresent (a : α) : (ofPresent a).Stutterless := List.isChain_singleton a

theorem Stutterless.commit [BEq α] [LawfulBEq α] {h : History α} (apart : h.Stutterless)
    (next : α) : (h.commit next).2.Stutterless := by
  unfold History.commit
  split
  next => exact apart
  next differ =>
    show ((h.present :: h.past).reverse ++ [next]).IsChain _
    rw [List.reverse_cons, List.append_assoc, List.singleton_append,
      List.isChain_append_cons_cons]
    have kept : (h.past.reverse ++ [h.present]).IsChain (· ≠ ·) := (List.isChain_split.mp apart).1
    refine ⟨kept, fun same => differ ?_, List.isChain_singleton next⟩
    rw [same]
    exact beq_self_eq_true next

theorem Stutterless.perform [BEq α] [LawfulBEq α] {h : History α} (apart : h.Stutterless)
    (step : HistoryStep α) : (h.perform step).2.Stutterless := by
  cases step with
  | commit next => exact apart.commit next
  | undo =>
    show h.undo.2.timeline.IsChain _
    rw [h.timeline_undo]
    exact apart
  | redo =>
    show h.redo.2.timeline.IsChain _
    rw [h.timeline_redo]
    exact apart
  | reset a => exact stutterless_ofPresent a

theorem Stutterless.run [BEq α] [LawfulBEq α] {h : History α} (apart : h.Stutterless)
    (steps : List (HistoryStep α)) : (h.run steps).2.Stutterless := by
  induction steps generalizing h with
  | nil => exact apart
  | cons step steps ih => exact ih (apart.perform step)

/-- A step back that succeeds shows another value. -/
theorem Stutterless.present_undo_ne {h : History α} (apart : h.Stutterless)
    (undone : h.undo.1 = true) : h.undo.2.present ≠ h.present := by
  obtain ⟨past, present, future⟩ := h
  cases past with
  | nil => cases undone
  | cons a past =>
    have split : (past.reverse ++ a :: present :: future).IsChain (· ≠ ·) := by
      have same := timeline_undo ⟨a :: past, present, future⟩
      exact (congrArg (List.IsChain (· ≠ ·)) same).mpr apart
    exact (List.isChain_append_cons_cons.mp split).2.1

/-- A step again that succeeds shows another value. -/
theorem Stutterless.present_redo_ne {h : History α} (apart : h.Stutterless)
    (redone : h.redo.1 = true) : h.redo.2.present ≠ h.present := by
  obtain ⟨past, present, future⟩ := h
  cases future with
  | nil => cases redone
  | cons a future => exact ((List.isChain_append_cons_cons.mp apart).2.1).symm

/-! ## There and back -/

/-- A step again takes a step back that succeeded. -/
theorem redo_undo {h : History α} (undone : h.undo.1 = true) : h.undo.2.redo = (true, h) := by
  obtain ⟨past, present, future⟩ := h
  cases past with
  | nil => cases undone
  | cons a past => rfl

/-- As many steps again as steps back that succeeded lead to where they started from. -/
theorem run_redo_run_undo [BEq α] {h : History α} {k : Nat}
    (undone : (h.run (List.replicate k .undo)).1 = List.replicate k true) :
    (h.run (List.replicate k .undo)).2.run (List.replicate k .redo) =
      (List.replicate k true, h) := by
  induction k generalizing h with
  | zero => rfl
  | succ k ih =>
    have first : h.undo.1 = true ∧
        (h.undo.2.run (List.replicate k .undo)).1 = List.replicate k true :=
      List.cons.inj undone
    -- The last step again answers the first step back.
    calc (h.run (List.replicate (k + 1) .undo)).2.run (List.replicate (k + 1) .redo)
        = (h.undo.2.run (List.replicate k .undo)).2.run (List.replicate k .redo ++ [.redo]) := by
          rw [← List.replicate_succ']
          rfl
      _ = (List.replicate k true ++ [h.undo.2.redo.1], h.undo.2.redo.2) := by
          rw [run_append, ih first.2]
          rfl
      _ = (List.replicate (k + 1) true, h) := by
          rw [redo_undo first.1, ← List.replicate_succ']

/-! ## Runs -/

/-- A history answers requests as a timeline with a cursor does and looks like it after each. So
no value of it stands beside an equal one, steps again undo steps back, and a step that succeeds
shows another value. -/
theorem run_eq_run_timeline [BEq α] [LawfulBEq α] (a : α) (steps : List (HistoryStep α)) :
    let h := ((ofPresent a).run steps).2
    (Timeline.ofValue a).run steps = (((ofPresent a).run steps).1, h.view) ∧
    h.view.values.IsChain (· ≠ ·) ∧
    (∀ k, (h.run (List.replicate k .undo)).1 = List.replicate k true →
      (h.run (List.replicate k .undo)).2.run (List.replicate k .redo) =
        (List.replicate k true, h)) ∧
    (h.undo.1 = true → h.undo.2.present ≠ h.present) ∧
    (h.redo.1 = true → h.redo.2.present ≠ h.present) := by
  intro h
  have apart : h.Stutterless := (stutterless_ofPresent a).run steps
  exact ⟨answers_view view_perform (ofPresent a) steps, apart, fun _ => run_redo_run_undo,
    apart.present_undo_ne, apart.present_redo_ne⟩

/-- A value is stored twice, taken back, and another one stored in its place. -/
theorem run_eq_run_timeline_letters :
    let steps : List (HistoryStep String) := [.commit "b", .commit "b", .undo, .commit "c", .undo,
      .undo, .redo, .commit "d", .undo]
    let h := ((ofPresent "a").run steps).2
    (Timeline.ofValue "a").run steps = (((ofPresent "a").run steps).1, h.view) ∧
    h.view = ⟨["a", "c", "d"], 1⟩ ∧ h.view.values.IsChain (· ≠ ·) ∧
    (h.run [.undo]).1 = [true] ∧ (h.run [.undo]).2.run [.redo] = ([true], h) ∧
    h.undo.1 = true ∧ h.undo.2.present ≠ h.present ∧
    h.redo.1 = true ∧ h.redo.2.present ≠ h.present := by
  intro steps h
  have law := run_eq_run_timeline "a" steps
  exact ⟨law.1, by decide, law.2.1, by decide, law.2.2.1 1 (by decide), by decide,
    law.2.2.2.1 (by decide), by decide, law.2.2.2.2 (by decide)⟩

end History

end PageStudio
