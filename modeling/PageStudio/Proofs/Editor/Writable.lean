import PageStudio.Proofs.Document.Writable
import PageStudio.Proofs.Editor.Validity

/-!
# The documents of a session can be saved

A session that starts with a writable document holds nothing but writable documents, as long as the
nodes and patches that its host brings along were read from JSON values and carry no progress.
-/

namespace PageStudio

namespace Mutation

variable {d e : Document} {ids : IdSource} {m : Mutation}

/-- The nodes and the patch that come with a mutation were given as JSON values without progress. -/
def Given : Mutation → Prop
  | insertNode _ n => n.Given
  | updateNode _ p => p.Given
  | replaceLayout _ nodes => ∀ n ∈ nodes, n.Given
  | _ => True

/-- What comes with a mutation keeps documents writable. -/
def Writable : Mutation → Prop
  | insertNode _ n => n.All Element.Writable
  | updateNode _ p => ∀ n : Node, n.All Element.Writable → (p.apply n).All Element.Writable
  | replaceLayout _ nodes => Node.ForestAll Element.Writable nodes
  | _ => True

theorem Given.writable (given : m.Given) : m.Writable := by
  cases m with
  | insertNode parent n => exact Node.Given.writable given
  | updateNode id p => exact fun _ => NodePatch.Given.writable given
  | replaceLayout id nodes =>
    exact Node.forestAll_iff.mpr fun n mem => (given n mem).writable
  | _ => trivial

section Elements

variable {P : Element → Prop}

/-- What comes with a mutation has a property of elements, or keeps it. -/
def Brings (P : Element → Prop) : Mutation → Prop
  | insertNode _ n => n.All P
  | updateNode _ p => ∀ n : Node, n.All P → (p.apply n).All P
  | replaceLayout _ nodes => Node.ForestAll P nodes
  | _ => True

theorem Writable.brings (writable : m.Writable) : m.Brings Element.Writable := by
  cases m with
  | insertNode | updateNode | replaceLayout => exact writable
  | _ => trivial

theorem all_insertInto {parent : Option String} {n : Node} (all : d.All P) (new : n.All P)
    (inserted : insertInto d parent n = .ok e) : e.All P := by
  obtain ⟨layout, added, changed⟩ := insertInto_ok inserted
  exact all.withLayout (Forest.forestAll_insert? (all d.activePageId) new added) changed

/-- A draft of a document whose elements have a property is another one, as long as the property is
about nothing that a copy changes. -/
theorem all_draft (about : Element.AboutContent P) (all : d.All P) (brings : m.Brings P)
    (drafted : (m.draft d ids).1 = .ok e) : e.All P := by
  have active : Node.ForestAll P d.activeLayout := all d.activePageId
  cases m with
  | insertNode parent n => exact all_insertInto all brings drafted
  | updateNode id p =>
    exact all.withLayout (Forest.forestAll_patch brings active) (lift_ok_iff.mp drafted)
  | removeNode id => exact all.withLayout (Forest.forestAll_remove active) (lift_ok_iff.mp drafted)
  | duplicateNode id =>
    simp only [draft, duplicateIn] at drafted
    split at drafted
    next =>
      cases drafted
      exact all
    next found located =>
      have copied := Node.all_copy about (Forest.all_locate? active located) ids
      exact all_insertInto all (Node.all_namedAsCopy about copied) drafted
  | clearPage id => exact all.withLayout Node.forestAll_nil (lift_ok_iff.mp drafted)
  | replaceLayout id nodes => exact all.withLayout brings (lift_ok_iff.mp drafted)
  | addPage p => exact all.withPageAdded (lift_ok_iff.mp drafted)
  | updatePage id p => exact all.withPageUpdated (lift_ok_iff.mp drafted)
  | deletePage id => exact all.withPageRemoved (lift_ok_iff.mp drafted)

end Elements

end Mutation

namespace Session

/-- The nodes and patches that a host brings in with an operation were given as JSON values without
progress. -/
def Operation.Given : Operation → Prop
  | .apply m => m.Given
  | .applyGenerated (.ok nodes) => ∀ n ∈ nodes, n.Given
  | _ => True

/-- All documents of the history are writable. -/
def Writable (s : Session) : Prop := ∀ d ∈ s.history.timeline, d.All Element.Writable

theorem Writable.document {s : Session} (h : s.Writable) : s.document.All Element.Writable :=
  h _ s.history.present_mem_timeline

theorem writable_start {d : Document} (all : d.All Element.Writable) (ids : IdSource) :
    (start d ids).Writable := by
  intro e mem
  rw [List.mem_singleton.mp mem]
  exact all

/-- The mutation that an operation comes to is writable: its nodes were given or are new ones. -/
theorem writable_edit? {s : Session} {op : Operation} (given : op.Given) {m : Mutation}
    {ids : IdSource} (edit : op.edit? s = some (m, ids)) : m.Writable := by
  cases op with
  | apply m' =>
    cases edit
    exact Mutation.Given.writable given
  | addNode kind parent =>
    cases edit
    exact Node.writable_fresh _ kind
  | addPage name =>
    cases edit
    trivial
  | applyGenerated generated =>
    cases generated with
    | ok nodes =>
      cases edit
      exact Node.forestAll_iff.mpr fun n mem => (given n mem).writable
    | error e => cases edit
  | _ => cases edit

/-- An operation keeps a history writable. -/
theorem Writable.perform {s : Session} (h : s.Writable) {op : Operation} (given : op.Given) :
    (s.perform op).Writable := by
  intro d mem
  rcases mem_timeline_perform mem with old | ⟨id, changed⟩ | ⟨m, ids, edit, applied⟩
  · exact h d old
  · exact h.document.withActivePage changed
  · exact Mutation.all_draft Element.aboutContent_writable h.document
      (writable_edit? given edit).brings (Mutation.apply_ok_iff.mp applied).1

/-- So does a run of operations. -/
theorem Writable.run {s : Session} (h : s.Writable) {ops : List Operation}
    (given : ∀ op ∈ ops, op.Given) : (s.run ops).Writable := by
  induction ops generalizing s with
  | nil => exact h
  | cons op ops ih =>
    obtain ⟨first, others⟩ := List.forall_mem_cons.mp given
    exact ih (h.perform first) others

end Session

end PageStudio
