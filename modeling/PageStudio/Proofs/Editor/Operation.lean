import PageStudio.Editor.Session
import PageStudio.Proofs.Editor.History
import PageStudio.Proofs.Node.Copy

/-!
# Operations on a session

Everything that a host can ask of a session, as data, so that a run is a list of operations. An
operation that fails is performed too: it may have taken ids. Beside the requests to the session
there are those to its source of ids, which the session lends to its host.

An operation that edits the document comes to one mutation (`edit?`), and then does what that does
(`perform_edit`). A change of the active page is the only other way to a new document
(`perform_plain`).
-/

namespace PageStudio.Session

open Style

/-- A request to a session or to its source of ids. -/
inductive Operation where
  | apply (m : Mutation)
  | undo
  | redo
  | select (id : Option String)
  | selectPage (id : String)
  | addNode (kind : Kind) (parent : Option String)
  | addPage (name : Option String)
  | applyGenerated (generated : Except GenerationError (List Node))
  | setViewport (name : String)
  | setTheme (theme : Theme)
  | setSettings (settings : Settings)
  /-- Takes an id for a node. -/
  | takeNodeId (kind : Kind)
  /-- Takes an id for a page. -/
  | takePageId (name : String)
  /-- Reads a generated text, whose nodes take ids, without putting them into the document. -/
  | parseGenerated (response : String)
  /-- Puts the source behind ids that are in use elsewhere. -/
  | reserve (used : List String)

/-- The session after an operation, whether it succeeds or fails. -/
def perform (s : Session) : Operation → Session
  | .apply m => (s.apply m).2
  | .undo => s.undo.2
  | .redo => s.redo.2
  | .select id => s.select id
  | .selectPage id => (s.selectPage id).toOption.getD s
  | .addNode kind parent => (s.addNode kind parent).2
  | .addPage name => (s.addPage name).2
  | .applyGenerated generated => (s.applyGenerated generated).2
  | .setViewport name => (s.setViewport name).toOption.getD s
  | .setTheme theme => { s with theme }
  | .setSettings settings => { s with settings }
  | .takeNodeId kind => { s with ids := (s.ids.nodeId kind).2 }
  | .takePageId name => { s with ids := (s.ids.pageId name).2 }
  | .parseGenerated response => { s with ids := (Generated.layout response s.ids).2 }
  | .reserve used => { s with ids := s.ids.reserve used }

/-- The session after operations one after another. -/
def run (s : Session) (ops : List Operation) : Session := ops.foldl perform s

/-- The name of a page that is to be added. -/
def pageName (s : Session) (name : Option String) : String := name.getD (untitledName s.document)

/-- The mutation that an operation comes to, and the source of ids that it starts from. -/
def Operation.edit? (s : Session) : Operation → Option (Mutation × IdSource)
  | .apply m => some (m, s.ids)
  | .addNode kind parent =>
    some (.insertNode parent (s.ids.newNode kind).1, (s.ids.newNode kind).2)
  | .addPage name =>
    some (.addPage (Page.titled (s.ids.pageId (s.pageName name)).1 (s.pageName name)),
      (s.ids.pageId (s.pageName name)).2)
  | .applyGenerated (.ok nodes) => some (.replaceLayout s.document.activePageId nodes, s.ids)
  | _ => none

/-! ## Applying a mutation -/

theorem apply_ids (s : Session) (m : Mutation) :
    (s.apply m).2.ids = (m.apply s.document s.ids).2 := by
  unfold apply
  split
  next applied => rw [applied]
  next applied => rw [applied]; rfl

/-- An applied mutation leaves old documents behind, and its result. -/
theorem mem_timeline_apply {s : Session} {m : Mutation} {d : Document}
    (mem : d ∈ (s.apply m).2.history.timeline) :
    d ∈ s.history.timeline ∨ (m.apply s.document s.ids).1 = .ok d := by
  unfold apply at mem
  split at mem
  next => exact .inl mem
  next next _ applied =>
    rw [applied]
    rcases History.mem_timeline_commit mem with rfl | old
    · exact .inr rfl
    · exact .inl old

/-- The result of a mutation is the present document, unless it counts as the one that was there. -/
theorem document_apply {s : Session} {m : Mutation} {d : Document}
    (applied : (m.apply s.document s.ids).1 = .ok d) (differs : (d == s.document) = false) :
    (s.apply m).2.document = d := by
  unfold apply
  split
  next failed =>
    rw [failed] at applied
    cases applied
  next ids accepted =>
    rw [accepted] at applied
    cases applied
    show (s.history.commit d).2.present = d
    have other : (d == s.history.present) = false := differs
    unfold History.commit
    rw [other]
    rfl

/-- A mutation is refused by the session only where its own result is an error. -/
theorem apply_ok_of_ok {s : Session} {m : Mutation} {d : Document}
    (applied : (m.apply s.document s.ids).1 = .ok d) : ∃ changed, (s.apply m).1 = .ok changed := by
  unfold apply
  split
  next failed =>
    rw [failed] at applied
    cases applied
  next => exact ⟨_, rfl⟩

/-- What a mutation is refused for, the session refuses it for. -/
theorem apply_error_of_error {s : Session} {m : Mutation} {e : MutationError}
    (failed : (m.apply s.document s.ids).1 = .error e) : (s.apply m).1 = .error (.mutation e) := by
  unfold apply
  split
  next refused =>
    rw [refused] at failed
    cases failed
    rfl
  next applied =>
    rw [applied] at failed
    cases failed

/-- The session with another selection. -/
def withSelection (s : Session) (selection : Option String) : Session := { s with selection }

/-- A new node is inserted with an id that is already taken. -/
theorem addNode_snd (s : Session) (kind : Kind) (parent : Option String) :
    (s.addNode kind parent).2 =
      (apply (.insertNode parent (s.ids.newNode kind).1)
        { s with ids := (s.ids.newNode kind).2 }).2.withSelection
          (s.addNode kind parent).2.selection := by
  unfold addNode
  simp only
  split
  next e t failed =>
    rw [failed]
    rfl
  next changed t applied =>
    rw [applied]
    rfl

theorem addPage_snd (s : Session) (name : Option String) :
    (s.addPage name).2 =
      (apply (.addPage (Page.titled (s.ids.pageId (s.pageName name)).1 (s.pageName name)))
        { s with ids := (s.ids.pageId (s.pageName name)).2 }).2.withSelection
          (s.addPage name).2.selection := by
  unfold addPage pageName
  simp only
  split
  next e t failed =>
    rw [failed]
    rfl
  next changed t applied =>
    rw [applied]
    rfl

/-- What an operation does is what its mutation does, but for the selection. -/
theorem perform_edit {s : Session} {op : Operation} {m : Mutation} {ids : IdSource}
    (edit : op.edit? s = some (m, ids)) :
    s.perform op = (apply m { s with ids }).2.withSelection (s.perform op).selection := by
  cases op with
  | apply m' =>
    cases edit
    rfl
  | addNode kind parent =>
    cases edit
    exact addNode_snd s kind parent
  | addPage name =>
    cases edit
    exact addPage_snd s name
  | applyGenerated generated =>
    cases generated with
    | ok nodes =>
      cases edit
      rfl
    | error e => cases edit
  | _ => cases edit

theorem perform_edit_history {s : Session} {op : Operation} {m : Mutation} {ids : IdSource}
    (edit : op.edit? s = some (m, ids)) :
    (s.perform op).history = (apply m { s with ids }).2.history :=
  (congrArg Session.history (perform_edit edit)).trans rfl

theorem perform_edit_ids {s : Session} {op : Operation} {m : Mutation} {ids : IdSource}
    (edit : op.edit? s = some (m, ids)) :
    (s.perform op).ids = (apply m { s with ids }).2.ids :=
  (congrArg Session.ids (perform_edit edit)).trans rfl

/-- An operation that comes to no mutation keeps the timeline, unless it makes another page active
and so starts a timeline anew. It takes ids at most. -/
theorem perform_plain {s : Session} {op : Operation} (plain : op.edit? s = none) :
    ((s.perform op).history.timeline = s.history.timeline ∨
      ∃ id e, s.document.withActivePage id = .ok e ∧ (s.perform op).history.timeline = [e]) ∧
    s.ids.Advances (s.perform op).ids := by
  cases op with
  | apply m => cases plain
  | addNode kind parent => cases plain
  | addPage name => cases plain
  | applyGenerated generated =>
    cases generated with
    | ok nodes => cases plain
    | error e => exact ⟨.inl rfl, .refl _⟩
  | undo => exact ⟨.inl (History.timeline_undo _), .refl _⟩
  | redo => exact ⟨.inl (History.timeline_redo _), .refl _⟩
  | selectPage id =>
    simp only [perform, selectPage]
    split
    next => exact ⟨.inl rfl, .refl _⟩
    next =>
      split
      next e changed => exact ⟨.inr ⟨id, e, changed, rfl⟩, .refl _⟩
      next => exact ⟨.inl rfl, .refl _⟩
  | setViewport name =>
    simp only [perform, setViewport]
    split
    next => exact ⟨.inl rfl, .refl _⟩
    next => exact ⟨.inl rfl, .refl _⟩
  | takeNodeId kind => exact ⟨.inl rfl, s.ids.advances_next kind.slug⟩
  | takePageId name => exact ⟨.inl rfl, s.ids.advances_next (IdSource.pageFront name)⟩
  | parseGenerated response =>
    simp only [perform]
    exact ⟨.inl trivial, Generated.advances_layout response s.ids⟩
  | reserve used =>
    simp only [perform]
    exact ⟨.inl trivial, s.ids.advances_reserve used⟩
  | select | setTheme | setSettings => exact ⟨.inl rfl, .refl _⟩

/-! ## New documents -/

/-- Every document after an operation is an old one, the present one with another active page, or
the result of a mutation of the present one. -/
theorem mem_timeline_perform {s : Session} {op : Operation} {d : Document}
    (mem : d ∈ (s.perform op).history.timeline) :
    d ∈ s.history.timeline ∨ (∃ id, s.document.withActivePage id = .ok d) ∨
      ∃ m ids, op.edit? s = some (m, ids) ∧ (m.apply s.document ids).1 = .ok d := by
  cases edit : op.edit? s with
  | some e =>
    rw [perform_edit_history edit] at mem
    rcases mem_timeline_apply mem with old | applied
    · exact .inl old
    · exact .inr (.inr ⟨_, _, rfl, applied⟩)
  | none =>
    rcases (perform_plain edit).1 with same | ⟨id, e, changed, reset⟩
    · exact .inl (same ▸ mem)
    · rw [reset] at mem
      rw [List.mem_singleton.mp mem]
      exact .inr (.inl ⟨id, changed⟩)

end PageStudio.Session
