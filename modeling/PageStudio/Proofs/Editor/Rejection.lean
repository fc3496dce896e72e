import PageStudio.Proofs.Document.Errors
import PageStudio.Proofs.Editor.Frame
import PageStudio.Proofs.Editor.Freshness
import PageStudio.Proofs.Node.Everywhere

/-!
# Why a mutation is refused

A mutation of a valid document is refused for its page, for the parent that it names, or for a node
id that its result repeats, in this order. The result is looked at as a whole, page by page, so the
id that is named is the first repetition in it.

## Main statements

* `apply_error_iff`: the errors of each mutation, and which ids lead to a repetition.
-/

namespace PageStudio

namespace Mutation

open List

/-! ## The conditions -/

/-- With a forest on a page, a node id of the document is repeated. The error names the first one in
reading order, page by page. -/
def Repeats (d : Document) (page : String) (forest : List Node) (e : MutationError) : Prop :=
  ∃ i, e = .duplicateId i ∧ Document.FirstRepeated (d.nodeIdsWith page forest) i

/-- A page cannot get a layout. -/
def RefusesLayout (d : Document) (page : String) (forest : List Node) (e : MutationError) : Prop :=
  if page ∈ d.pageIds then Repeats d page forest e else e = .pageNotFound page

/-- A node cannot be put behind the roots of the active page, or behind the children of a parent. -/
def RefusesNode (d : Document) (n : Node) (e : MutationError) : Option String → Prop
  | none => Repeats d d.activePageId (d.activeLayout ++ [n]) e
  | some parent =>
    if parent ∈ Node.forestIds d.activeLayout then
      Repeats d d.activePageId (Forest.changeAll parent (·.withChild n) d.activeLayout) e
    else e = .parentNotFound parent

/-- A mutation of a document is refused with an error. -/
def Refused (d : Document) (ids : IdSource) (e : MutationError) : Mutation → Prop
  | insertNode parent n => RefusesNode d n e parent
  | updateNode id p => Repeats d d.activePageId (Forest.changeAll id p.apply d.activeLayout) e
  | removeNode _ => False
  | duplicateNode id =>
    ∃ found, Forest.locate? d.activeLayout id = some found ∧
      RefusesNode d (found.node.copy ids).1.namedAsCopy e (found.parent.map (·.id))
  | clearPage id | updatePage id _ => id ∉ d.pageIds ∧ e = .pageNotFound id
  | replaceLayout id nodes => RefusesLayout d id nodes e
  | addPage p => p.id ∈ d.pageIds ∧ e = .duplicatePage p.id
  | deletePage id =>
    if id ∈ d.pageIds then d.pageIds = [id] ∧ e = .lastPage else e = .pageNotFound id

/-- Ids that come into a document are repeated among each other or among those that stay. -/
def Clash (new stay : List String) : Prop := ¬ new.Nodup ∨ ∃ i ∈ new, i ∈ stay

variable {d e' : Document} {ids : IdSource} {e : MutationError} {id page : String} {n : Node}
  {forest : List Node}

/-! ## The errors -/

theorem lift_error_iff {r : Except DocumentError Document} :
    lift r = .error e ↔ ∃ cause, r = .error cause ∧ e = .ofDocumentError cause := by
  cases r with
  | ok a => exact ⟨nofun, fun ⟨_, same, _⟩ => absurd same nofun⟩
  | error cause =>
    constructor
    · intro failed
      cases failed
      exact ⟨cause, rfl, rfl⟩
    · rintro ⟨_, same, rfl⟩
      cases same
      rfl

theorem checked_error_iff :
    checked d = .error e ↔ ∃ i, e = .duplicateId i ∧ Document.FirstRepeated d.nodeIds i := by
  unfold checked
  cases verdict : d.checkNodeIds with
  | ok _ =>
    refine ⟨nofun, fun ⟨i, _, first⟩ => ?_⟩
    exact absurd (Document.checkNodeIds_ok_iff.mp verdict)
      (Document.exists_firstRepeated_iff.mp ⟨i, first⟩)
  | error cause =>
    obtain ⟨i, rfl, first⟩ := Document.checkNodeIds_error_iff.mp verdict
    constructor
    · intro failed
      cases failed
      exact ⟨i, rfl, first⟩
    · rintro ⟨j, rfl, other⟩
      rw [← Document.firstRepeated?_eq_some_iff] at first other
      cases first.symm.trans other
      rfl

/-- A document that has no node id twice is let through. -/
theorem checked_of_nodup (nodup : d.nodeIds.Nodup) : checked d = .ok d :=
  checked_ok_iff.mpr ⟨rfl, nodup⟩

/-- Where the node ids of a result are in order, only the change itself can fail. -/
theorem lift_checked_error_iff {r : Except DocumentError Document}
    (nodup : ∀ a, r = .ok a → a.nodeIds.Nodup) :
    (lift r).bind checked = .error e ↔ ∃ cause, r = .error cause ∧ e = .ofDocumentError cause := by
  rw [← lift_error_iff]
  cases r with
  | ok a =>
    have same : (lift (.ok a)).bind checked = .ok a := checked_of_nodup (nodup a rfl)
    rw [same]
    exact ⟨nofun, nofun⟩
  | error cause => exact Iff.rfl

/-- So it is where there is one reason for it to fail. -/
theorem lift_checked_error_iff_of_cause {r : Except DocumentError Document} {P : Prop}
    {cause : DocumentError} (nodup : ∀ a, r = .ok a → a.nodeIds.Nodup)
    (fails : ∀ {c}, r = .error c ↔ P ∧ c = cause) :
    (lift r).bind checked = .error e ↔ P ∧ e = .ofDocumentError cause := by
  rw [lift_checked_error_iff nodup]
  constructor
  · rintro ⟨c, failed, rfl⟩
    obtain ⟨reason, rfl⟩ := fails.mp failed
    exact ⟨reason, rfl⟩
  · rintro ⟨reason, rfl⟩
    exact ⟨cause, fails.mpr ⟨reason, rfl⟩, rfl⟩

theorem layout_checked_error_iff :
    (lift (d.withLayout page forest)).bind checked = .error e ↔ RefusesLayout d page forest e := by
  unfold RefusesLayout
  by_cases there : page ∈ d.pageIds
  · obtain ⟨a, changed⟩ := Document.exists_withLayout there forest
    rw [if_pos there, changed, Repeats, ← Document.nodeIds_withLayout changed]
    exact checked_error_iff
  · have missing : d.withLayout page forest = .error (.pageNotFound page) :=
      Document.withLayout_error_iff.mpr ⟨there, rfl⟩
    rw [if_neg there, missing]
    constructor
    · intro failed
      cases failed
      rfl
    · rintro rfl
      rfl

theorem insertInto_checked_error_iff (valid : d.Valid) {parent : Option String} :
    (insertInto d parent n).bind checked = .error e ↔ RefusesNode d n e parent := by
  have result : ∀ layout, (withActiveLayout d layout).bind checked = .error e ↔
      Repeats d d.activePageId layout e := by
    intro layout
    rw [withActiveLayout, layout_checked_error_iff, RefusesLayout, if_pos valid.active_mem]
  cases parent with
  | none => exact result _
  | some parent =>
    rw [insertInto, RefusesNode, Forest.insert?_eq valid.activeLayout_nodup]
    split
    next added =>
      split at added
      next mem =>
        cases added
        rw [if_pos mem]
        exact result _
      next => cases added
    next missing =>
      split at missing
      next => cases missing
      next absent =>
        rw [if_neg absent]
        constructor
        · intro failed
          cases failed
          rfl
        · rintro rfl
          rfl

/-- A layout with a part of what is on the page repeats nothing. -/
theorem nodup_of_withLayout (valid : d.Valid)
    (fewer : Node.forestIds forest <+ Node.forestIds (d.layout page)) :
    ∀ a, d.withLayout page forest = .ok a → a.nodeIds.Nodup := by
  intro a changed
  rw [Document.nodeIds_withLayout changed]
  exact valid.nodeIds_nodup.sublist (Document.nodeIdsWith_sublist fewer)

/-- A mutation of a valid document is refused exactly for what its kind can be refused for. -/
theorem apply_error_iff_refused (valid : d.Valid) {m : Mutation} :
    (m.apply d ids).1 = .error e ↔ m.Refused d ids e := by
  show (m.draft d ids).1.bind checked = .error e ↔ _
  cases m with
  | insertNode parent n => exact insertInto_checked_error_iff valid
  | updateNode id p =>
    rw [draft, withActiveLayout, layout_checked_error_iff, RefusesLayout, if_pos valid.active_mem,
      Forest.patch_eq valid.activeLayout_nodup]
    rfl
  | removeNode id =>
    have fewer := Forest.forestIds_remove d.activeLayout id
    exact (lift_checked_error_iff_of_cause (nodup_of_withLayout valid fewer)
      Document.withLayout_error_iff).trans
        ⟨fun refused => refused.1 valid.active_mem, False.elim⟩
  | duplicateNode id =>
    rw [draft, duplicateIn, Refused]
    split
    next absent =>
      have passed : (Except.ok d).bind checked = .ok d := checked_of_nodup valid.nodeIds_nodup
      rw [passed, absent]
      constructor
      · intro failed
        cases failed
      · intro refused
        obtain ⟨found, missing, -⟩ := refused
        cases missing
    next found located =>
      rw [located]
      refine (insertInto_checked_error_iff valid).trans ⟨fun refused => ⟨found, rfl, refused⟩, ?_⟩
      rintro ⟨_, same, refused⟩
      cases same
      exact refused
  | clearPage id =>
    have fewer : Node.forestIds [] <+ Node.forestIds (d.layout id) := nil_sublist _
    exact lift_checked_error_iff_of_cause (nodup_of_withLayout valid fewer)
      Document.withLayout_error_iff
  | replaceLayout id nodes => exact layout_checked_error_iff
  | addPage p =>
    refine lift_checked_error_iff_of_cause (fun a changed => ?_) Document.withPageAdded_error_iff
    rw [Document.nodeIds_withPageAdded changed]
    exact valid.nodeIds_nodup
  | updatePage id patch =>
    refine lift_checked_error_iff_of_cause (fun a changed => ?_) Document.withPageUpdated_error_iff
    rw [Document.nodeIds_withPageUpdated changed]
    exact valid.nodeIds_nodup
  | deletePage id =>
    have nodup : ∀ a, d.withPageRemoved id = .ok a → a.nodeIds.Nodup := fun a changed =>
      valid.nodeIds_nodup.sublist (Document.nodeIds_withPageRemoved changed)
    show (lift (d.withPageRemoved id)).bind checked = .error e ↔ _
    rw [Refused]
    by_cases there : id ∈ d.pageIds
    · have fails : ∀ {c}, d.withPageRemoved id = .error c ↔ d.pageIds = [id] ∧ c = .lastPage := by
        intro c
        rw [Document.withPageRemoved_error_iff valid.pageIds_nodup, if_pos there]
      rw [if_pos there]
      exact lift_checked_error_iff_of_cause nodup fails
    · have fails : ∀ {c}, d.withPageRemoved id = .error c ↔
          id ∉ d.pageIds ∧ c = .pageNotFound id := by
        intro c
        rw [Document.withPageRemoved_error_iff valid.pageIds_nodup, if_neg there,
          and_iff_right there]
      rw [if_neg there]
      exact (lift_checked_error_iff_of_cause nodup fails).trans (and_iff_right there)

/-! ## Which ids lead to a repetition -/

theorem exists_repeats_iff :
    (∃ i, Repeats d page forest (.duplicateId i)) ↔ ¬ (d.nodeIdsWith page forest).Nodup := by
  rw [← Document.exists_firstRepeated_iff]
  constructor
  · rintro ⟨_, i, -, first⟩
    exact ⟨i, first⟩
  · rintro ⟨i, first⟩
    exact ⟨i, i, rfl, first⟩

/-- Where the ids that stay are all different, a row is so unless the others clash. -/
theorem not_nodup_iff_clash {row new stay : List String} (parts : row ~ new ++ stay)
    (nodup : stay.Nodup) : ¬ row.Nodup ↔ Clash new stay := by
  rw [parts.nodup_iff, nodup_append, and_iff_right nodup, not_and_or]
  refine or_congr_right ⟨fun apart => ?_, ?_⟩
  · by_contra none
    exact apart fun i new j stay same => none ⟨i, new, same ▸ stay⟩
  · rintro ⟨i, new, stay⟩ apart
    exact apart i new i stay rfl

/-- The ids that stay where others come in for some are those that are not among these. -/
theorem not_nodup_iff_clash_filter {all row gone new stay : List String} (nodup : all.Nodup)
    (present : all ~ gone ++ stay) (result : row ~ new ++ stay) :
    ¬ row.Nodup ↔ Clash new (all.filter (· ∉ gone)) := by
  obtain ⟨-, once, outside⟩ := nodup_append.mp (present.nodup_iff.mp nodup)
  have same : ∀ i, i ∈ stay ↔ i ∈ all.filter (· ∉ gone) := by
    intro i
    rw [mem_filter, present.mem_iff, mem_append, decide_eq_true_iff]
    constructor
    · exact fun kept => ⟨.inr kept, fun gone => outside i gone i kept rfl⟩
    · exact fun ⟨either, kept⟩ => either.resolve_left kept
  rw [not_nodup_iff_clash result once]
  simp only [Clash, same]

/-- A node that has a place repeats ids where it brings some of its own twice, or some of the
document. -/
theorem exists_refusesNode_iff (valid : d.Valid) {parent : Option String}
    (there : ∀ i, parent = some i → i ∈ Node.forestIds d.activeLayout) :
    (∃ i, RefusesNode d n (.duplicateId i) parent) ↔ Clash n.subtreeIds d.nodeIds := by
  obtain ⟨layout, added⟩ := Option.isSome_iff_exists.mp (Forest.isSome_insert? n there)
  have refused : ∀ i, RefusesNode d n (.duplicateId i) parent ↔
      Repeats d d.activePageId layout (.duplicateId i) := by
    intro i
    cases parent with
    | none =>
      cases added
      exact Iff.rfl
    | some parent =>
      have mem := there parent rfl
      rw [Forest.insert?_eq valid.activeLayout_nodup, if_pos mem] at added
      cases added
      rw [RefusesNode, if_pos mem]
  have parts := Document.perm_nodeIdsWith_append valid.pageIds_nodup valid.active_mem
    (Forest.forestIds_insert? added)
  simp only [refused]
  rw [exists_repeats_iff]
  exact not_nodup_iff_clash (parts.trans perm_append_comm) valid.nodeIds_nodup

/-- A forest on a page repeats ids where it has some twice, or some of another page. -/
theorem exists_repeats_iff_clash (valid : d.Valid) (there : page ∈ d.pageIds) :
    (∃ i, Repeats d page forest (.duplicateId i)) ↔
      Clash (Node.forestIds forest) (d.nodeIdsBut page) := by
  rw [exists_repeats_iff]
  refine not_nodup_iff_clash (Document.perm_nodeIdsWith valid.pageIds_nodup there forest) ?_
  exact ((Document.perm_nodeIds valid.pageIds_nodup there).nodup_iff.mp valid.nodeIds_nodup).sublist
    (sublist_append_right _ _)

/-- A patch repeats ids only by the children that it puts into a node of the active page. Those that
the node had do not count. -/
theorem exists_repeats_patch_iff (valid : d.Valid) (p : NodePatch) :
    (∃ i, Repeats d d.activePageId (Forest.changeAll id p.apply d.activeLayout) (.duplicateId i)) ↔
      ∃ found children, Forest.find? d.activeLayout id = some found ∧ p.children = some children ∧
        Clash (Node.forestIds children)
          (d.nodeIds.filter (· ∉ Node.forestIds found.children)) := by
  rw [exists_repeats_iff]
  have kept : Node.forestIds (Forest.changeAll id p.apply d.activeLayout) =
      Node.forestIds d.activeLayout →
      (d.nodeIdsWith d.activePageId (Forest.changeAll id p.apply d.activeLayout)).Nodup :=
    fun same => valid.nodeIds_nodup.sublist (Document.nodeIdsWith_sublist (same ▸ .refl _))
  by_cases mem : id ∈ Node.forestIds d.activeLayout
  · have changed : Forest.update? id p.apply d.activeLayout = some _ :=
      (Forest.update?_eq valid.activeLayout_nodup).trans (if_pos mem)
    obtain ⟨found, first, before, after, old, new⟩ := Forest.exchanges_update? changed
    rw [← Forest.find?_eq_find?_forestNodes] at first
    rw [Forest.subtreeIds_apply] at new
    rw [Node.subtreeIds_eq] at old
    cases children : p.children with
    | none =>
      rw [children] at new
      refine ⟨fun repeats => absurd (kept (new.trans old.symm)) repeats, nofun⟩
    | some others =>
      rw [children] at new
      -- The ids of the children can be put in front of those that stay.
      have apart : ∀ inner : List String, before ++ (found.id :: inner ++ after) ++
          d.nodeIdsBut d.activePageId ~
            inner ++ (before ++ found.id :: after ++ d.nodeIdsBut d.activePageId) := by
        intro inner
        have moved := perm_append_comm_assoc (before ++ [found.id]) inner
          (after ++ d.nodeIdsBut d.activePageId)
        simpa only [append_assoc, cons_append, nil_append] using moved
      have result := Document.perm_nodeIdsWith valid.pageIds_nodup valid.active_mem
        (Forest.changeAll id p.apply d.activeLayout)
      have present := Document.perm_nodeIds valid.pageIds_nodup valid.active_mem
      replace result := (new ▸ result).trans (apart _)
      replace present := (old ▸ present : d.nodeIds ~ _).trans (apart _)
      rw [not_nodup_iff_clash_filter valid.nodeIds_nodup present result]
      constructor
      · exact fun clash => ⟨found, others, first, rfl, clash⟩
      · rintro ⟨_, _, located, given, clash⟩
        cases first.symm.trans located
        cases given
        exact clash
  · refine ⟨fun repeats => absurd (kept ?_) repeats, ?_⟩
    · rw [Forest.changeAll_of_absent mem]
    · rintro ⟨found, _, located, _⟩
      exact absurd (Forest.isSome_find?_iff.mp (Option.isSome_iff_exists.mpr ⟨found, located⟩)) mem

/-- The errors of a mutation of a valid document are those of `Refused`, whatever the mutation is.
An id is repeated exactly where one comes in twice, or is one of those that stay: for a new node
those of the whole document, for a patch all but those of the exchanged children, for a layout those
of the other pages. A copy is never refused, unless an id that is handed out for it, with a count of
64 bits, is taken. -/
theorem apply_error_iff (d : Document) (valid : d.Valid) (ids : IdSource) :
    (∀ (m : Mutation) e, (m.apply d ids).1 = .error e ↔ m.Refused d ids e) ∧
    (∀ parent n, (∀ i, parent = some i → i ∈ Node.forestIds d.activeLayout) →
      ((∃ i, ((insertNode parent n).apply d ids).1 = .error (.duplicateId i)) ↔
        Clash n.subtreeIds d.nodeIds)) ∧
    (∀ id p, (∃ i, ((updateNode id p).apply d ids).1 = .error (.duplicateId i)) ↔
      ∃ found children, Forest.find? d.activeLayout id = some found ∧ p.children = some children ∧
        Clash (Node.forestIds children)
          (d.nodeIds.filter (· ∉ Node.forestIds found.children))) ∧
    (∀ id nodes, id ∈ d.pageIds →
      ((∃ i, ((replaceLayout id nodes).apply d ids).1 = .error (.duplicateId i)) ↔
        Clash (Node.forestIds nodes) (d.nodeIdsBut id))) ∧
    ∀ id, (∀ (kind : Kind) count, ids.count < count →
        count ≤ ((duplicateNode id).apply d ids).2.count →
          ids.idAt kind.slug count ∉ d.nodeIds) →
      ∃ e, ((duplicateNode id).apply d ids).1 = .ok e := by
  refine ⟨fun m e => apply_error_iff_refused valid, ?_, ?_, ?_, ?_⟩
  · intro parent n there
    simp only [apply_error_iff_refused valid]
    exact exists_refusesNode_iff valid there
  · intro id p
    simp only [apply_error_iff_refused valid]
    exact exists_repeats_patch_iff valid p
  · intro id nodes there
    simp only [apply_error_iff_refused valid, Refused, RefusesLayout, if_pos there]
    exact exists_repeats_iff_clash valid there
  · intro id fresh
    exact exists_apply_duplicateNode valid fresh

/-- A text with the id of another one, by each way into the document, and a copy of that one. -/
theorem apply_error_iff_twoHomes :
    let ids : IdSource := { seed := "s" }
    let again := Node.bare "t" .text "Again"
    twoHomes.Valid ∧
      ((insertNode (some "x") again).apply twoHomes ids).1 = .error (.parentNotFound "x") ∧
      (∃ i, ((insertNode (some "t") again).apply twoHomes ids).1 = .error (.duplicateId i)) ∧
      (∃ i, ((updateNode "t" { children := some [again] }).apply twoHomes ids).1 =
        .error (.duplicateId i)) ∧
      (∃ i, ((replaceLayout "a" [again]).apply twoHomes ids).1 = .error (.duplicateId i)) ∧
      ∃ e, ((duplicateNode "t").apply twoHomes ids).1 = .ok e := by
  intro ids again
  obtain ⟨refused, inserted, patched, replaced, copied⟩ :=
    apply_error_iff twoHomes valid_twoHomes ids
  refine ⟨valid_twoHomes, (refused _ _).mpr rfl, ?_, ?_, ?_, ?_⟩
  · exact (inserted (some "t") again (by decide)).mpr (.inr ⟨"t", by decide, by decide⟩)
  · exact (patched "t" _).mpr ⟨_, [again], rfl, rfl, .inr ⟨"t", by decide, by decide⟩⟩
  · exact (replaced "a" [again] (by decide)).mpr (.inr ⟨"t", by decide, by decide⟩)
  · refine copied "t" fun kind count later before mem => ?_
    have unmarked : ids.Unmarked "t" := by decide
    have small : count < UInt64.size := Nat.lt_of_le_of_lt before (by decide)
    exact unmarked.passed.ne_idAt later small (List.mem_singleton.mp mem).symm

end Mutation

end PageStudio
