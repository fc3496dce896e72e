import PageStudio.Proofs.Editor.Freshness

/-!
# What a request leaves as it is

A session that refuses a request is the session that it was, but for ids that the request took, and
so is one whose document an edit does not change. An edit that does change it becomes one step of
the history.

That a selection never outlives its node (`Live`) is what makes the second part true: a selection
without a node would be cleared by an edit that does nothing else.
-/

namespace PageStudio

/-- The error that a result is, if it is one. -/
def error? {ε α : Type} : Except ε α → Option ε
  | .error e => some e
  | .ok _ => none

theorem error?_eq_some_iff {ε α : Type} {r : Except ε α} {e : ε} :
    error? r = some e ↔ r = .error e := by
  cases r with
  | error e' =>
    constructor
    · intro h
      cases h
      rfl
    · intro h
      cases h
      rfl
  | ok a => exact ⟨nofun, nofun⟩

namespace Session

variable {s : Session}

/-- A session is another one but for ids that were taken. -/
structure DiffersInIds (s t : Session) : Prop where
  rest : t = { s with ids := t.ids }
  ids : s.ids.Advances t.ids

/-! ## Selections -/

/-- The selected node, where there is one, is on the active page. -/
def Live (s : Session) : Prop := ∀ id, s.selection = some id → (s.node? id).isSome = true

theorem live_of_none (none : s.selection = none) : s.Live := by
  intro id selected
  rw [none] at selected
  cases selected

/-- The rest of a session does not matter for its selection. -/
theorem Live.of_eq {t : Session} (live : s.Live) (history : t.history = s.history)
    (selection : t.selection = s.selection) : t.Live := by
  intro id selected
  have found := live id (selection ▸ selected)
  unfold node? document at found ⊢
  rw [history]
  exact found

theorem Live.select (s : Session) (id : Option String) : (s.select id).Live := by
  intro i selected
  exact (Option.filter_eq_some_iff.mp selected).2

/-- A selection that is not out of date stays. -/
theorem Live.prune_eq (live : s.Live) : s.prune = s := by
  have kept : s.selection.filter (fun id => (s.node? id).isSome) = s.selection := by
    cases selected : s.selection with
    | none => rfl
    | some id =>
      rw [Option.filter_some, if_pos (live id selected)]
  show { s with selection := s.selection.filter fun id => (s.node? id).isSome } = s
  rw [kept]

/-- A node is found on the active page where its id is one of those there. -/
theorem isSome_node? {id : String} (mem : id ∈ Node.forestIds s.document.activeLayout) :
    (s.node? id).isSome = true := by
  show (Option.map _ _).isSome = true
  rw [Option.isSome_map]
  exact Forest.isSome_locate? mem

/-! ## Mutations -/

/-- A mutation that is refused takes ids at most. -/
theorem apply_of_refused {m : Mutation} {e : SessionError} (refused : (s.apply m).1 = .error e) :
    (s.apply m).2 = { s with ids := (s.apply m).2.ids } := by
  unfold apply at refused ⊢
  split at refused
  next => rfl
  next => cases refused

/-- So does one that is applied after ids were taken for it. -/
theorem eq_of_apply_eq_error {m : Mutation} {ids : IdSource} {e : SessionError} {t : Session}
    (failed : apply m { s with ids } = (.error e, t)) : t = { s with ids := t.ids } := by
  have rest := apply_of_refused (congrArg Prod.fst failed)
  rw [failed] at rest
  exact rest

/-- A mutation that is not refused stores its result. -/
theorem apply_of_accepted {m : Mutation} {changed : Bool} (accepted : (s.apply m).1 = .ok changed) :
    ∃ next, (m.apply s.document s.ids).1 = .ok next ∧
      (s.history.commit next).1 = changed ∧
      (s.apply m).2 =
        prune { s with history := (s.history.commit next).2, ids := (s.apply m).2.ids } := by
  unfold apply at accepted ⊢
  split at accepted
  next => cases accepted
  next next ids applied =>
    cases accepted
    rw [applied]
    exact ⟨next, rfl, rfl, rfl⟩

theorem Live.apply (live : s.Live) (m : Mutation) : (s.apply m).2.Live := by
  cases result : (s.apply m).1 with
  | error e =>
    rw [apply_of_refused result]
    exact live.of_eq rfl rfl
  | ok changed =>
    obtain ⟨next, -, -, after⟩ := apply_of_accepted result
    rw [after]
    exact Live.select _ _

/-- An inserted node is on the active page. -/
theorem mem_activeLayout_of_insertNode {d e : Document} {ids : IdSource} {parent : Option String}
    {n : Node} (inserted : ((Mutation.insertNode parent n).apply d ids).1 = .ok e) :
    n.id ∈ Node.forestIds e.activeLayout := by
  obtain ⟨layout, added, changed⟩ := Mutation.insertInto_ok (Mutation.apply_ok_iff.mp inserted).1
  obtain ⟨-, rfl⟩ := Document.withLayout_ok_iff.mp changed
  have here : n.id ∈ Node.forestIds layout := by
    rw [(Forest.forestIds_insert? added).mem_iff, Node.subtreeIds_eq]
    exact List.mem_append_right _ List.mem_cons_self
  show n.id ∈ Node.forestIds (Document.layout _ d.activePageId)
  rw [Document.layout_insert, if_pos rfl]
  exact here

/-- A document that is stored has the node ids of the active page of what it was made as, also
where the one that was there counts as the same and stays. -/
theorem forestIds_commit (h : History Document) (next : Document) :
    Node.forestIds (h.commit next).2.present.activeLayout = Node.forestIds next.activeLayout := by
  unfold History.commit
  split
  next same =>
    show Node.forestIds (h.present.layout h.present.activePageId) = _
    rw [← Document.activePageId_of_beq same, ← Document.forestIds_layout_of_beq same]
    rfl
  next => rfl

theorem Live.addNode (live : s.Live) (kind : Kind) (parent : Option String) :
    (s.addNode kind parent).2.Live := by
  have before : Live { s with ids := (s.ids.newNode kind).2 } := live.of_eq rfl rfl
  unfold Session.addNode
  simp only
  split
  next t failed =>
    have after := before.apply (.insertNode parent (s.ids.newNode kind).1)
    rw [failed] at after
    exact after
  next changed t accepted =>
    intro id selected
    cases selected
    obtain ⟨next, applied, -, after⟩ := apply_of_accepted (congrArg Prod.fst accepted)
    rw [accepted] at after
    have document : t.document = (s.history.commit next).2.present :=
      congrArg Session.document after
    have inserted := mem_activeLayout_of_insertNode applied
    rw [← forestIds_commit s.history, ← document] at inserted
    exact isSome_node? (s := t) inserted

theorem Live.addPage (live : s.Live) (name : Option String) : (s.addPage name).2.Live := by
  unfold Session.addPage
  simp only
  split
  next t failed =>
    rw [eq_of_apply_eq_error failed]
    exact live.of_eq rfl rfl
  next => exact live_of_none rfl

/-- No operation leaves a selection without its node. -/
theorem Live.perform (live : s.Live) (op : Operation) : (s.perform op).Live := by
  cases op with
  | apply m => exact live.apply m
  | undo => exact Live.select _ _
  | redo => exact Live.select _ _
  | select id => exact Live.select _ _
  | selectPage id =>
    simp only [Session.perform, Session.selectPage]
    split
    next => exact live
    next =>
      split
      next => exact live_of_none rfl
      next => exact live
  | addNode kind parent => exact live.addNode kind parent
  | addPage name => exact live.addPage name
  | applyGenerated generated =>
    cases generated with
    | ok nodes => exact live.apply _
    | error e => exact live
  | setViewport name =>
    simp only [Session.perform, Session.setViewport]
    split
    next => exact live.of_eq rfl rfl
    next => exact live
  | setTheme | setSettings | takeNodeId | takePageId | parseGenerated | reserve =>
    exact live.of_eq (by simp only [Session.perform]) (by simp only [Session.perform])

theorem Live.run (live : s.Live) (ops : List Operation) : (s.run ops).Live := by
  induction ops generalizing s with
  | nil => exact live
  | cons op ops ih => exact ih (live.perform op)

/-! ## Requests that are refused -/

/-- The error that an operation is refused with. -/
def refusal? (s : Session) : Operation → Option SessionError
  | .apply m => error? (s.apply m).1
  | .addNode kind parent => error? (s.addNode kind parent).1
  | .addPage name => error? (s.addPage name).1
  | .applyGenerated generated => error? (s.applyGenerated generated).1
  | .selectPage id => error? (s.selectPage id)
  | .setViewport name => error? (s.setViewport name)
  | _ => none

theorem addNode_of_refused {kind : Kind} {parent : Option String} {e : SessionError}
    (refused : (s.addNode kind parent).1 = .error e) :
    (s.addNode kind parent).2 = { s with ids := (s.addNode kind parent).2.ids } := by
  unfold addNode at refused ⊢
  simp only at refused ⊢
  split at refused
  next failed => exact eq_of_apply_eq_error failed
  next => cases refused

theorem addPage_of_refused {name : Option String} {e : SessionError}
    (refused : (s.addPage name).1 = .error e) :
    (s.addPage name).2 = { s with ids := (s.addPage name).2.ids } := by
  unfold addPage at refused ⊢
  simp only at refused ⊢
  split at refused
  next failed => exact eq_of_apply_eq_error failed
  next => cases refused

/-- A session that refuses an operation differs from what it was in ids at most. -/
theorem differsInIds_of_refused {op : Operation} {e : SessionError}
    (refused : s.refusal? op = some e) : s.DiffersInIds (s.perform op) := by
  refine ⟨?_, advances_perform s op⟩
  cases op with
  | apply m => exact apply_of_refused (error?_eq_some_iff.mp refused)
  | addNode kind parent => exact addNode_of_refused (error?_eq_some_iff.mp refused)
  | addPage name => exact addPage_of_refused (error?_eq_some_iff.mp refused)
  | applyGenerated generated =>
    cases generated with
    | ok nodes => exact apply_of_refused (error?_eq_some_iff.mp refused)
    | error cause => rfl
  | selectPage id =>
    have failed : s.selectPage id = .error e := error?_eq_some_iff.mp refused
    simp only [perform, failed]
    rfl
  | setViewport name =>
    have failed : s.setViewport name = .error e := error?_eq_some_iff.mp refused
    simp only [perform, failed]
    rfl
  | _ => cases refused

/-! ## Edits -/

/-- A mutation that changes nothing leaves the session as it is, but for ids. -/
theorem differsInIds_of_unchanged (live : s.Live) {m : Mutation}
    (unchanged : (s.apply m).1 = .ok false) : s.DiffersInIds (s.apply m).2 := by
  refine ⟨?_, advances_perform s (.apply m)⟩
  obtain ⟨next, -, same, after⟩ := apply_of_accepted unchanged
  have stays : (s.history.commit next).2 = s.history := by
    unfold History.commit at same ⊢
    split at same
    next equal => rw [if_pos equal]
    next => cases same
  rw [stays] at after
  have still : Live { s with ids := (s.apply m).2.ids } := live.of_eq rfl rfl
  exact after.trans still.prune_eq

/-- A mutation that changes the document is one step of the history. -/
theorem history_of_changed {m : Mutation} (changed : (s.apply m).1 = .ok true) :
    ∃ next, (m.apply s.document s.ids).1 = .ok next ∧ (next == s.document) = false ∧
      (s.apply m).2.history = ⟨s.document :: s.history.past, next, []⟩ := by
  obtain ⟨next, applied, differs, after⟩ := apply_of_accepted changed
  refine ⟨next, applied, ?_⟩
  unfold History.commit at differs after
  split at differs
  next => cases differs
  next other =>
    rw [if_neg other] at after
    exact ⟨Bool.eq_false_iff.mpr other, congrArg Session.history after⟩

/-- Whatever a session has been through: where it refuses a request, it keeps history, selection,
theme, settings and viewports, and so it does where a mutation changes nothing. A mutation that
changes the document puts its result behind the document as it was, which one step back restores.
-/
theorem unchanged_or_recorded (d : Document) (ids : IdSource) (viewports : List Style.Viewport)
    (ops : List Operation) :
    let s := ((start d ids).withViewports viewports).run ops
    (∀ op e, s.refusal? op = some e → s.DiffersInIds (s.perform op)) ∧
    (∀ m, (s.apply m).1 = .ok false → s.DiffersInIds (s.apply m).2) ∧
    (∀ m, (s.apply m).1 = .ok true →
      ∃ next, (m.apply s.document s.ids).1 = .ok next ∧ (next == s.document) = false ∧
        (s.apply m).2.history = ⟨s.document :: s.history.past, next, []⟩ ∧
        (s.apply m).2.undo.1 = true ∧ (s.apply m).2.undo.2.document = s.document ∧
        (s.apply m).2.undo.2.history.past = s.history.past) := by
  intro s
  have opened : ((start d ids).withViewports viewports).Live := live_of_none rfl
  have live : s.Live := opened.run ops
  refine ⟨fun op e => differsInIds_of_refused, fun m => differsInIds_of_unchanged live, ?_⟩
  intro m changed
  obtain ⟨next, applied, differs, recorded⟩ := history_of_changed changed
  have back : (s.apply m).2.history.undo = (true, ⟨s.history.past, s.document, [next]⟩) := by
    rw [recorded]
    rfl
  refine ⟨next, applied, differs, recorded, ?_, ?_, ?_⟩
  · exact congrArg Prod.fst back
  · exact congrArg (·.2.present) back
  · exact congrArg (·.2.past) back

end Session

end PageStudio
