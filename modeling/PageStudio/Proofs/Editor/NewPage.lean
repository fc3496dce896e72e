import PageStudio.Proofs.Editor.Refusal

/-!
# New pages

Ids of pages and of nodes come from one source, but a session that opens a document reserves only
those of its nodes. So a new page is refused where the document has a page of the id that comes
next. Once the ids of its pages are reserved as well, none is, as long as counts have 64 bits.

## Main statements

* `addPage_start`: what adding a page to a document just opened comes to.
* `addPage_refused`: a document to which no page without a name can be added at first.
-/

namespace PageStudio

/-- The mutation that adds a page fails for nothing but the id of the page. -/
theorem Mutation.apply_addPage {d : Document} (nodup : d.nodeIds.Nodup) (p : Page)
    (ids : IdSource) :
    ((addPage p).apply d ids).1 =
      if p.id ∈ d.pageIds then .error (.duplicatePage p.id)
      else .ok ⟨d.pages ++ [p], d.layouts.insert p.id [], p.id⟩ := by
  split
  next taken =>
    have refused : d.withPageAdded p = .error (.duplicatePage p.id) :=
      if_pos (Document.hasPage_iff.mpr taken)
    show (lift (d.withPageAdded p)).bind checked = _
    rw [refused]
    rfl
  next free =>
    have added := Document.withPageAdded_ok_iff.mpr ⟨free, rfl⟩
    have once := Document.nodeIds_withPageAdded added ▸ nodup
    exact apply_ok_iff.mpr ⟨lift_ok_iff.mpr added, once⟩

namespace Session

/-- The id that a new page gets if it is not refused, as long as the next count has 64 bits. -/
def nextPageId (s : Session) (name : Option String) : String :=
  (s.ids.pageId (s.pageName name)).1

/-- A page is added by one mutation, and the answer is its id. -/
theorem addPage_fst_of_apply {s : Session} {name : Option String} {r : Except SessionError Bool}
    (applied : (apply (.addPage (Page.titled (s.nextPageId name) (s.pageName name)))
      { s with ids := (s.ids.pageId (s.pageName name)).2 }).1 = r) :
    (s.addPage name).1 = r.map fun _ => s.nextPageId name := by
  unfold addPage
  simp only
  split
  next e t failed =>
    rw [← applied]
    exact congrArg (fun result => (Prod.fst result).map fun _ => s.nextPageId name) failed.symm
  next changed t accepted =>
    rw [← applied]
    exact congrArg (fun result => (Prod.fst result).map fun _ => s.nextPageId name) accepted.symm

/-- A page is added unless there is one of its id. -/
theorem addPage_fst {s : Session} (nodup : s.document.nodeIds.Nodup) (name : Option String) :
    (s.addPage name).1 =
      if s.nextPageId name ∈ s.document.pageIds then
        .error (.mutation (.duplicatePage (s.nextPageId name)))
      else .ok (s.nextPageId name) := by
  let t : Session := { s with ids := (s.ids.pageId (s.pageName name)).2 }
  have applied := Mutation.apply_addPage nodup
    (Page.titled (s.nextPageId name) (s.pageName name)) t.ids
  split
  next taken =>
    exact addPage_fst_of_apply (apply_error_of_error (s := t) (applied.trans (if_pos taken)))
  next free =>
    obtain ⟨changed, accepted⟩ := apply_ok_of_ok (s := t) (applied.trans (if_neg free))
    exact addPage_fst_of_apply accepted

/-- An id that is passed is not the next one of a page, as long as that has 64 bits. -/
theorem nextPageId_not_mem {s : Session} {used : List String}
    (passed : ∀ id ∈ used, s.ids.Passed id) (small : s.ids.count + 1 < UInt64.size)
    (name : Option String) : s.nextPageId name ∉ used := fun mem =>
  (passed _ mem).ne_idAt (Nat.lt_succ_self _) small rfl

/-- As long as the next count has 64 bits, a page is added to a document just opened exactly where
the document has no page of the id that comes next; where it has one, nothing happens but that the
id is taken. A session that has reserved the ids of the pages as well adds every page, with an id of
its own, as long as its next count has 64 bits. -/
theorem addPage_start (d : Document) (valid : d.Valid) (ids : IdSource) (name : Option String) :
    let s := start d ids
    let t := s.perform (.reserve d.pageIds)
    (s.ids.count + 1 < UInt64.size →
      (s.nextPageId name ∉ d.pageIds → (s.addPage name).1 = .ok (s.nextPageId name)) ∧
      (s.nextPageId name ∈ d.pageIds →
        (s.addPage name).1 = .error (.mutation (.duplicatePage (s.nextPageId name))) ∧
        s.DiffersInIds (s.addPage name).2)) ∧
    (t.ids.count + 1 < UInt64.size → ∃ id, (t.addPage name).1 = .ok id ∧ id ∉ d.pageIds) := by
  intro s t
  have answer := addPage_fst (s := s) valid.nodeIds_nodup name
  refine ⟨fun _ => ⟨fun free => ?_, fun taken => ?_⟩, fun small => ?_⟩
  · exact answer.trans (if_neg free)
  · have refused := answer.trans (if_pos taken)
    have refusal : s.refusal? (.addPage name) = some _ := error?_eq_some_iff.mpr refused
    exact ⟨refused, differsInIds_of_refused refusal⟩
  · have passed : ∀ id ∈ d.pageIds, t.ids.Passed id := fun id mem =>
      IdSource.passed_reserve mem s.ids
    have free : t.nextPageId name ∉ d.pageIds := nextPageId_not_mem passed small name
    have answer := addPage_fst (s := t) valid.nodeIds_nodup name
    exact ⟨_, answer.trans (if_neg free), free⟩

/-- A document with a page whose id is the first that a page without a name gets. -/
def untitledFirst : Document := .ofPage { id := "untitled-s-1", name := "Home" }

/-- It is refused that page, and given another one once its page id is reserved. -/
theorem addPage_start_untitledFirst :
    let s := start untitledFirst { seed := "s" }
    let t := s.perform (.reserve untitledFirst.pageIds)
    untitledFirst.Valid ∧ s.ids.count + 1 < UInt64.size ∧ t.ids.count + 1 < UInt64.size ∧
      s.nextPageId none ∈ untitledFirst.pageIds ∧ s.DiffersInIds (s.addPage none).2 ∧
      ∃ id, (t.addPage none).1 = .ok id ∧ id ∉ untitledFirst.pageIds := by
  intro s t
  have valid : untitledFirst.Valid := Document.valid_ofPage _
  have small : s.ids.count + 1 < UInt64.size := by decide
  have small' : t.ids.count + 1 < UInt64.size := by decide
  have taken : s.nextPageId none ∈ untitledFirst.pageIds := by decide
  obtain ⟨answers, reserved⟩ := addPage_start untitledFirst valid { seed := "s" } none
  exact ⟨valid, small, small', taken, ((answers small).2 taken).2, reserved small'⟩

/-- A valid document can be refused a page, for the id that the session makes for the page. -/
theorem addPage_refused :
    untitledFirst.Valid ∧ ((start untitledFirst { seed := "s" }).addPage none).1 =
      .error (.mutation (.duplicatePage "untitled-s-1")) := by
  refine ⟨Document.valid_ofPage _, ?_⟩
  decide

end Session

end PageStudio
