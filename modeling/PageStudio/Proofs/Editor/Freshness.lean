import PageStudio.Proofs.Document.NodeIds
import PageStudio.Proofs.Editor.Validity
import PageStudio.Proofs.Node.Copy
import PageStudio.Proofs.Node.Place

/-!
# Ids that are handed out are new

A host may bring nodes with ids of its own into a session. As long as these do not carry the mark
of the source of ids, or were handed out by it, no document of the history has an id that is still
to be handed out. So nodes that take their ids from the source are never refused.
-/

namespace PageStudio

/-! ## Ids that a mutation brings in -/

namespace Mutation

variable {d e : Document} {ids : IdSource} {m : Mutation} {i : String}

/-- The ids of the nodes that a mutation brings along. -/
def broughtIn : Mutation → List String
  | insertNode _ n => n.subtreeIds
  | updateNode _ p => Node.forestIds (p.children.getD [])
  | replaceLayout _ nodes => Node.forestIds nodes
  | _ => []

/-- A mutation takes ids at most. -/
theorem advances_apply (m : Mutation) (d : Document) (ids : IdSource) :
    ids.Advances (m.apply d ids).2 := by
  rw [apply_snd]
  cases m with
  | duplicateNode id =>
    show ids.Advances (duplicateIn d ids id).2
    unfold duplicateIn
    split
    next => exact .refl ids
    next found _ => exact (Node.issues_copy ids found.node).advances
  | _ => exact .refl ids

/-- The nodes of the active page are nodes of the document, where it can get another layout. -/
theorem mem_nodeIds_of_activeLayout {layout : List Node}
    (changed : d.withLayout d.activePageId layout = .ok e)
    (mem : i ∈ Node.forestIds d.activeLayout) : i ∈ d.nodeIds :=
  Document.mem_nodeIds_iff.mpr ⟨_, (Document.withLayout_ok_iff.mp changed).1, mem⟩

theorem mem_nodeIds_insertInto {parent : Option String} {n : Node}
    (inserted : insertInto d parent n = .ok e) (mem : i ∈ e.nodeIds) :
    i ∈ d.nodeIds ∨ i ∈ n.subtreeIds := by
  obtain ⟨layout, added, changed⟩ := insertInto_ok inserted
  rcases Document.mem_nodeIds_withLayout changed mem with old | new
  · exact .inl old
  · rcases List.mem_append.mp ((Forest.forestIds_insert? added).mem_iff.mp new) with old | new
    · exact .inl (mem_nodeIds_of_activeLayout changed old)
    · exact .inr new

/-- The node ids of an edited document are old ones, those that the mutation brings along, and
those that its source of ids has handed out. -/
theorem mem_nodeIds_draft (drafted : (m.draft d ids).1 = .ok e) (mem : i ∈ e.nodeIds) :
    i ∈ d.nodeIds ∨ i ∈ m.broughtIn ∨ (m.draft d ids).2.HasIssued i := by
  cases m with
  | insertNode parent n => exact (mem_nodeIds_insertInto drafted mem).imp_right .inl
  | updateNode id p =>
    have changed := lift_ok_iff.mp drafted
    rcases Document.mem_nodeIds_withLayout changed mem with old | new
    · exact .inl old
    · rcases Forest.mem_forestIds_patch new with old | new
      · exact .inl (mem_nodeIds_of_activeLayout changed old)
      · exact .inr (.inl new)
  | removeNode id =>
    have changed := lift_ok_iff.mp drafted
    rcases Document.mem_nodeIds_withLayout changed mem with old | kept
    · exact .inl old
    · have old := (Forest.forestIds_remove d.activeLayout id).subset kept
      exact .inl (mem_nodeIds_of_activeLayout changed old)
  | duplicateNode id =>
    simp only [draft, duplicateIn] at drafted ⊢
    split at drafted
    next absent =>
      cases drafted
      exact .inl mem
    next found located =>
      rcases mem_nodeIds_insertInto drafted mem with old | new
      · exact .inl old
      · rw [Node.subtreeIds_namedAsCopy] at new
        exact .inr (.inr ((Node.issues_copy ids found.node).hasIssued new))
  | clearPage id =>
    rcases Document.mem_nodeIds_withLayout (lift_ok_iff.mp drafted) mem with old | new
    · exact .inl old
    · cases new
  | replaceLayout id nodes =>
    exact (Document.mem_nodeIds_withLayout (lift_ok_iff.mp drafted) mem).imp_right .inl
  | addPage p => exact .inl (Document.mem_nodeIds_withPageAdded (lift_ok_iff.mp drafted) mem)
  | updatePage id p =>
    exact .inl (Document.mem_nodeIds_withPageUpdated (lift_ok_iff.mp drafted) mem)
  | deletePage id => exact .inl (Document.mem_nodeIds_withPageRemoved (lift_ok_iff.mp drafted) mem)

/-! ## Mutations that are not refused -/

/-- A node with new ids can be inserted as a root and into every node of the active page. -/
theorem exists_apply_insertInto {parent : Option String} {n : Node} (valid : d.Valid)
    (there : ∀ id, parent = some id → id ∈ Node.forestIds d.activeLayout)
    (nodup : n.subtreeIds.Nodup) (fresh : ∀ i ∈ n.subtreeIds, i ∉ d.nodeIds) :
    ∃ e, insertInto d parent n = .ok e ∧ e.Valid := by
  obtain ⟨layout, added⟩ := Option.isSome_iff_exists.mp (Forest.isSome_insert? n there)
  obtain ⟨e, changed⟩ := Document.exists_withLayout valid.active_mem layout
  refine ⟨e, ?_, valid.withLayout_append changed (Forest.forestIds_insert? added) nodup fresh⟩
  unfold insertInto
  rw [added]
  exact lift_ok_iff.mpr changed

theorem exists_apply_insertNode {parent : Option String} {n : Node} (valid : d.Valid)
    (there : ∀ id, parent = some id → id ∈ Node.forestIds d.activeLayout)
    (nodup : n.subtreeIds.Nodup) (fresh : ∀ i ∈ n.subtreeIds, i ∉ d.nodeIds) (ids : IdSource) :
    ∃ e, ((insertNode parent n).apply d ids).1 = .ok e := by
  obtain ⟨e, inserted, edited⟩ := exists_apply_insertInto valid there nodup fresh
  exact ⟨e, apply_ok_iff.mpr ⟨inserted, edited.nodeIds_nodup⟩⟩

/-- A node can always be duplicated, if none of the ids that are handed out for its copy is one of
the document. -/
theorem exists_apply_duplicateNode {id : String} (valid : d.Valid)
    (fresh : ∀ (kind : Kind) count, ids.count < count →
      count ≤ ((duplicateNode id).apply d ids).2.count → ids.idAt kind.slug count ∉ d.nodeIds) :
    ∃ e, ((duplicateNode id).apply d ids).1 = .ok e := by
  cases located : Forest.locate? d.activeLayout id with
  | none =>
    have drafted : (duplicateNode id).draft d ids = (.ok d, ids) := by
      rw [draft, duplicateIn, located]
    exact ⟨d, apply_ok_iff.mpr ⟨congrArg Prod.fst drafted, valid.nodeIds_nodup⟩⟩
  | some found =>
    have drafted : (duplicateNode id).draft d ids =
        (insertInto d (found.parent.map (·.id)) (found.node.copy ids).1.namedAsCopy,
          (found.node.copy ids).2) := by
      rw [draft, duplicateIn, located]
    have issued := Node.issues_copy ids found.node
    have slugs := fun i => Node.exists_idAt_of_mem_copy (i := i) ids found.node
    rw [← Node.subtreeIds_namedAsCopy] at issued slugs
    rw [apply_snd, drafted] at fresh
    obtain ⟨e, inserted, edited⟩ := exists_apply_insertInto valid (Forest.parent_locate? located)
      issued.nodup fun i new => by
        obtain ⟨kind, count, rfl⟩ := slugs i new
        obtain ⟨_, _, after, before, same⟩ := issued.exists_idAt new
        cases IdSource.idAt_inj same
        exact fresh kind count after before
    refine ⟨e, apply_ok_iff.mpr ⟨?_, edited.nodeIds_nodup⟩⟩
    rw [drafted]
    exact inserted

/-- The layout of a page is replaced by one whose ids are new. -/
theorem exists_apply_replaceLayout {id : String} {nodes : List Node} (valid : d.Valid)
    (page : id ∈ d.pageIds) (nodup : (Node.forestIds nodes).Nodup)
    (fresh : ∀ i ∈ Node.forestIds nodes, i ∉ d.nodeIds) (ids : IdSource) :
    ∃ e, ((replaceLayout id nodes).apply d ids).1 = .ok e := by
  obtain ⟨e, changed⟩ := Document.exists_withLayout page nodes
  have edited := valid.withLayout changed nodup fresh
  exact ⟨e, apply_ok_iff.mpr ⟨lift_ok_iff.mpr changed, edited.nodeIds_nodup⟩⟩

end Mutation

namespace Session

/-! ## Runs of a careful host -/

/-- The ids of the nodes that a host brings in with an operation. -/
def Operation.broughtIn : Operation → List String
  | .apply m => m.broughtIn
  | .applyGenerated (.ok nodes) => Node.forestIds nodes
  | _ => []

/-- An operation brings in no ids but those without the mark of the source of ids and those that
the source has handed out. -/
def Admits (s : Session) (op : Operation) : Prop :=
  ∀ id ∈ op.broughtIn, s.ids.Unmarked id ∨ s.ids.HasIssued id

/-- Every operation of a run is admitted at its time. -/
def Careful (s : Session) : List Operation → Prop
  | [] => True
  | op :: ops => s.Admits op ∧ (s.perform op).Careful ops

/-- The source of ids has passed the ids of all nodes in the history. -/
def Clear (s : Session) : Prop := ∀ d ∈ s.history.timeline, ∀ id ∈ d.nodeIds, s.ids.Passed id

/-- The mutation that an operation comes to starts from a later source of ids, and brings in what
the operation does and ids that are handed out for it. -/
theorem edit?_spec {s : Session} {op : Operation} {m : Mutation} {ids : IdSource}
    (edit : op.edit? s = some (m, ids)) :
    s.ids.Advances ids ∧ ∀ i ∈ m.broughtIn, i ∈ op.broughtIn ∨ ids.HasIssued i := by
  cases op with
  | apply m' =>
    cases edit
    exact ⟨.refl _, fun i mem => .inl mem⟩
  | addNode kind parent =>
    cases edit
    have issued := s.ids.issues_newNode kind
    exact ⟨issued.advances, fun i mem => .inr (issued.hasIssued mem)⟩
  | addPage name =>
    cases edit
    exact ⟨s.ids.advances_next _, fun i mem => by cases mem⟩
  | applyGenerated generated =>
    cases generated with
    | ok nodes =>
      cases edit
      exact ⟨.refl _, fun i mem => .inl mem⟩
    | error e => cases edit
  | _ => cases edit

/-- No operation takes the source of ids back. -/
theorem advances_perform (s : Session) (op : Operation) : s.ids.Advances (s.perform op).ids := by
  cases edit : op.edit? s with
  | some e =>
    rw [perform_edit_ids edit, apply_ids]
    exact (edit?_spec edit).1.trans (Mutation.advances_apply _ _ _)
  | none => exact (perform_plain edit).2

theorem clear_start (d : Document) (ids : IdSource) : (start d ids).Clear := by
  intro e he id mem
  rw [List.mem_singleton.mp he] at mem
  exact IdSource.passed_reserve mem ids

/-- An admitted operation keeps the source of ids behind all ids of the history. -/
theorem Clear.perform {s : Session} (clear : s.Clear) {op : Operation} (admitted : s.Admits op) :
    (s.perform op).Clear := by
  intro d hd id mem
  have forward := advances_perform s op
  have present : ∀ id ∈ s.document.nodeIds, s.ids.Passed id :=
    clear _ s.history.present_mem_timeline
  rcases mem_timeline_perform hd with old | ⟨page, changed⟩ | ⟨m, ids, edit, applied⟩
  · exact (clear d old id mem).mono forward
  · rw [Document.nodeIds_withActivePage changed] at mem
    exact (present id mem).mono forward
  · -- Only here can ids be new to the document, and the source is the one behind the mutation.
    have later : (s.perform op).ids = (m.draft s.document ids).2 := by
      rw [perform_edit_ids edit, apply_ids, Mutation.apply_snd]
      rfl
    rw [later] at forward ⊢
    have behind : ids.Advances (m.draft s.document ids).2 := m.advances_apply s.document ids
    rcases Mutation.mem_nodeIds_draft (Mutation.apply_ok_iff.mp applied).1 mem with
      old | brought | issued
    · exact (present id old).mono forward
    · rcases (edit?_spec edit).2 id brought with host | issued
      · rcases admitted id host with unmarked | issued
        · exact unmarked.passed.mono forward
        · exact issued.passed.mono forward
      · exact issued.passed.mono behind
    · exact issued.passed

theorem Clear.run {s : Session} (clear : s.Clear) {ops : List Operation}
    (careful : s.Careful ops) : (s.run ops).Clear := by
  induction ops generalizing s with
  | nil => exact clear
  | cons op ops ih => exact ih (clear.perform careful.1) careful.2

/-! ## Operations that are not refused -/

/-- A node from the palette is never refused as a root or inside a node of the active page. -/
theorem exists_addNode {s : Session} (sound : s.Sound) (clear : s.Clear) (kind : Kind)
    {parent : Option String}
    (there : ∀ id, parent = some id → id ∈ Node.forestIds s.document.activeLayout)
    (small : (s.addNode kind parent).2.ids.count < UInt64.size) :
    ∃ id, (s.addNode kind parent).1 = .ok id := by
  have issued := s.ids.issues_newNode kind
  have bound : (s.ids.newNode kind).2.count < UInt64.size := by
    have after : (s.addNode kind parent).2.ids = _ :=
      perform_edit_ids (rfl : Operation.edit? s (.addNode kind parent) = some _)
    rw [apply_ids] at after
    rw [after] at small
    exact Nat.lt_of_le_of_lt (Mutation.advances_apply _ _ _).count small
  obtain ⟨e, inserted⟩ := Mutation.exists_apply_insertNode sound.document there issued.nodup
    (fun i new old => issued.not_passed bound new
      (clear _ s.history.present_mem_timeline i old)) (s.ids.newNode kind).2
  obtain ⟨changed, applied⟩ :=
    apply_ok_of_ok (s := { s with ids := (s.ids.newNode kind).2 }) inserted
  refine ⟨(s.ids.newNode kind).1.id, ?_⟩
  unfold addNode
  simp only
  split
  next failed =>
    rw [failed] at applied
    cases applied
  next => rfl

/-- A node can always be duplicated. -/
theorem exists_duplicate {s : Session} (sound : s.Sound) (clear : s.Clear) {id : String}
    (small : (s.apply (.duplicateNode id)).2.ids.count < UInt64.size) :
    ∃ changed, (s.apply (.duplicateNode id)).1 = .ok changed := by
  rw [apply_ids] at small
  obtain ⟨e, applied⟩ := Mutation.exists_apply_duplicateNode sound.document
    fun _ count later before mem =>
      (clear _ s.history.present_mem_timeline _ mem).ne_idAt later
        (Nat.lt_of_le_of_lt before small) rfl
  exact apply_ok_of_ok applied

/-- A generated text that can be read replaces the layout of the active page by its nodes. -/
theorem generate_eq {s : Session} {response : String} {nodes : List Node}
    (read : (Generated.layout response s.ids).1 = .ok nodes) :
    s.generate response = apply (.replaceLayout s.document.activePageId nodes)
      { s with ids := (Generated.layout response s.ids).2 } := by
  unfold generate
  generalize Generated.layout response s.ids = laid at read ⊢
  obtain ⟨generated, after⟩ := laid
  subst read
  simp only [applyGenerated, document]

/-- Nodes whose ids were just handed out always become the layout of the active page. -/
theorem exists_replaceActive {s : Session} (sound : s.Sound) (clear : s.Clear)
    {nodes : List Node} {after : IdSource} (issued : s.ids.Issues (Node.forestIds nodes) after)
    (small : after.count < UInt64.size) :
    ∃ changed, (apply (.replaceLayout s.document.activePageId nodes)
      { s with ids := after }).1 = .ok changed := by
  have fresh : ∀ i ∈ Node.forestIds nodes, i ∉ s.document.nodeIds := fun i new old =>
    issued.not_passed small new (clear _ s.history.present_mem_timeline i old)
  obtain ⟨e, replaced⟩ := Mutation.exists_apply_replaceLayout sound.document
    sound.document.active_mem issued.nodup fresh after
  exact apply_ok_of_ok (s := { s with ids := after }) replaced

/-- A generated text that can be read always becomes the layout of the active page. -/
theorem exists_generate {s : Session} (sound : s.Sound) (clear : s.Clear) {response : String}
    {nodes : List Node} (read : (Generated.layout response s.ids).1 = .ok nodes)
    (small : (s.generate response).2.ids.count < UInt64.size) :
    ∃ changed, (s.generate response).1 = .ok changed := by
  have issued := Generated.issues_layout read
  rw [generate_eq read] at small ⊢
  generalize (Generated.layout response s.ids).2 = after at issued small ⊢
  rw [apply_ids] at small
  have untouched : ((Mutation.replaceLayout s.document.activePageId nodes).apply
      s.document after).2 = after := rfl
  have bound : after.count < UInt64.size := untouched ▸ small
  exact exists_replaceActive sound clear issued bound

/-- However a careful host has worked on a valid document, no id still to come is that of a node in
the history, and so nodes with ids from the source of the session are not refused. -/
theorem fresh_of_careful (d : Document) (valid : d.Valid) (ids : IdSource) (ops : List Operation)
    (careful : (start d ids).Careful ops) :
    let s := (start d ids).run ops
    (∀ e ∈ s.history.timeline, ∀ id ∈ e.nodeIds, ∀ front count,
      s.ids.count < count → count < UInt64.size → id ≠ s.ids.idAt front count) ∧
    (∀ kind parent, (∀ id, parent = some id → id ∈ Node.forestIds s.document.activeLayout) →
      (s.addNode kind parent).2.ids.count < UInt64.size →
      ∃ id, (s.addNode kind parent).1 = .ok id) ∧
    (∀ id ∈ Node.forestIds s.document.activeLayout,
      (s.apply (.duplicateNode id)).2.ids.count < UInt64.size →
      ∃ changed, (s.apply (.duplicateNode id)).1 = .ok changed) ∧
    (∀ response nodes, (Generated.layout response s.ids).1 = .ok nodes →
      (s.generate response).2.ids.count < UInt64.size →
      ∃ changed, (s.generate response).1 = .ok changed) := by
  intro s
  have sound : s.Sound := (sound_start valid ids).run ops
  have clear : s.Clear := (clear_start d ids).run careful
  refine ⟨?_, ?_, ?_, ?_⟩
  · intro e he id mem front count later small
    exact (clear e he id mem).ne_idAt later small
  · intro kind parent there small
    exact exists_addNode sound clear kind there small
  · intro id _ small
    exact exists_duplicate sound clear small
  · intro response nodes read small
    exact exists_generate sound clear read small

/-- A host that takes an id, puts a node with it into the document, and then one with an id of its
own. -/
theorem fresh_of_careful_ofPage :
    let d := Document.ofPage { id := "home", name := "Home" }
    let ids : IdSource := { seed := "s" }
    let ops : List Operation := [.takeNodeId .text,
      .apply (.insertNode none (.bare "text-s-1" .text "First")),
      .apply (.insertNode none (.bare "own" .text "Second"))]
    d.Valid ∧ (start d ids).Careful ops ∧
      ∀ e ∈ ((start d ids).run ops).history.timeline, ∀ id ∈ e.nodeIds, ∀ front count,
        ((start d ids).run ops).ids.count < count → count < UInt64.size →
        id ≠ ((start d ids).run ops).ids.idAt front count := by
  intro d ids ops
  have valid : d.Valid := Document.valid_ofPage _
  have opened : ids.Advances (start d ids).ids := ids.advances_reserve d.nodeIds
  have taken := opened.trans (advances_perform _ (.takeNodeId .text))
  have inserted := taken.trans
    (advances_perform _ (.apply (.insertNode none (.bare "text-s-1" .text "First"))))
  have first : ids.idAt "text" 1 = "text-s-1" := by decide
  have second : ids.Unmarked "own" := by decide
  have issued : ((start d ids).perform (.takeNodeId .text)).ids.HasIssued "text-s-1" := by
    refine ⟨"text", 1, ?_, ((taken.idAt "text" 1).trans first).symm⟩
    show 1 ≤ (start d ids).ids.count + 1
    omega
  have careful : (start d ids).Careful ops := by
    refine ⟨nofun, fun i mem => .inr ?_, fun i mem => .inl ?_, trivial⟩
    · rw [List.mem_singleton.mp mem]
      exact issued
    · rw [List.mem_singleton.mp mem]
      exact inserted.unmarked second
  exact ⟨valid, careful, (fresh_of_careful d valid ids ops careful).1⟩

end Session

end PageStudio
