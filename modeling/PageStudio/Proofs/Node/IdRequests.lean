import PageStudio.Proofs.Node.IdSource

/-!
# Requests to a source of ids

What a host asks of a source of ids one after another: ids for nodes and pages, and that ids in use
are passed over. Every id that is handed out has a greater count than all before it, those that were
reserved in between included.

## Main statements

* `serveAll_append`: requests can be made in two goes.
* `serveAll_new`: no id is handed out twice, and none that was reserved before.
-/

namespace PageStudio.IdSource

/-- What can be asked of a source of ids. -/
inductive Request where
  /-- An id for a node. -/
  | nodeId (kind : Kind)
  /-- An id for a page of a name. -/
  | pageId (name : String)
  /-- That ids in use are passed over. -/
  | reserve (used : List String)

/-- The ids that are handed out for a request, one or none, and the source behind it. -/
def serve (ids : IdSource) : Request → List String × IdSource
  | .nodeId kind => ([(ids.nodeId kind).1], (ids.nodeId kind).2)
  | .pageId name => ([(ids.pageId name).1], (ids.pageId name).2)
  | .reserve used => ([], ids.reserve used)

/-- The ids that are handed out for requests one after another, and the source behind them. -/
def serveAll (ids : IdSource) : List Request → List String × IdSource
  | [] => ([], ids)
  | r :: rest =>
    ((ids.serve r).1 ++ ((ids.serve r).2.serveAll rest).1, ((ids.serve r).2.serveAll rest).2)

variable {ids : IdSource} {requests : List Request} {id : String}

/-- Requests can be made in two goes. -/
theorem serveAll_append (ids : IdSource) (before after : List Request) :
    ids.serveAll (before ++ after) =
      ((ids.serveAll before).1 ++ ((ids.serveAll before).2.serveAll after).1,
        ((ids.serveAll before).2.serveAll after).2) := by
  induction before generalizing ids with
  | nil => rfl
  | cons r before ih => simp only [List.cons_append, serveAll, ih, List.append_assoc]

/-! ## One request -/

theorem advances_serve (ids : IdSource) : (r : Request) → ids.Advances (ids.serve r).2
  | .nodeId kind => ids.advances_next kind.slug
  | .pageId name => ids.advances_next (pageFront name)
  | .reserve used => ids.advances_reserve used

/-- An id that is handed out has a count in between. -/
theorem exists_idAt_of_mem_serve {r : Request} (mem : id ∈ (ids.serve r).1) :
    ∃ front count, ids.count < count ∧ count ≤ (ids.serve r).2.count ∧
      id = ids.idAt front count := by
  cases r with
  | nodeId kind => exact (Issues.single ids kind.slug).exists_idAt mem
  | pageId name => exact (Issues.single ids (pageFront name)).exists_idAt mem
  | reserve used => cases mem

theorem nodup_serve (ids : IdSource) : (r : Request) → (ids.serve r).1.Nodup
  | .nodeId kind => List.nodup_singleton (ids.nodeId kind).1
  | .pageId name => List.nodup_singleton (ids.pageId name).1
  | .reserve _ => List.nodup_nil

/-! ## Requests one after another -/

theorem advances_serveAll (ids : IdSource) (requests : List Request) :
    ids.Advances (ids.serveAll requests).2 := by
  induction requests generalizing ids with
  | nil => exact .refl ids
  | cons r rest ih => exact (advances_serve ids r).trans (ih _)

theorem exists_idAt_of_mem_serveAll (mem : id ∈ (ids.serveAll requests).1) :
    ∃ front count, ids.count < count ∧ count ≤ (ids.serveAll requests).2.count ∧
      id = ids.idAt front count := by
  induction requests generalizing ids with
  | nil => cases mem
  | cons r rest ih =>
    have first := advances_serve ids r
    rcases List.mem_append.mp mem with mem | mem
    · obtain ⟨front, count, later, before, same⟩ := exists_idAt_of_mem_serve mem
      exact ⟨front, count, later, before.trans (advances_serveAll _ rest).count, same⟩
    · obtain ⟨front, count, later, before, same⟩ := ih mem
      exact ⟨front, count, first.count.trans_lt later, before,
        same.trans (first.idAt front count)⟩

/-- No id is handed out twice. -/
theorem nodup_serveAll (ids : IdSource) (requests : List Request) :
    (ids.serveAll requests).1.Nodup := by
  induction requests generalizing ids with
  | nil => exact List.nodup_nil
  | cons r rest ih =>
    refine List.nodup_append.mpr ⟨nodup_serve ids r, ih _, fun a ha b hb same => ?_⟩
    -- The counts of the ids of the first request end where those of the others begin.
    obtain ⟨front, count, -, before, rfl⟩ := exists_idAt_of_mem_serve ha
    obtain ⟨front', count', after, -, rfl⟩ := exists_idAt_of_mem_serveAll hb
    rw [(advances_serve ids r).idAt] at same
    exact Nat.ne_of_lt (before.trans_lt after) (idAt_inj same)

/-- None of the ids that are handed out was passed before, as long as the counts have 64 bits. -/
theorem not_passed_of_mem_serveAll (small : (ids.serveAll requests).2.count < UInt64.size)
    (mem : id ∈ (ids.serveAll requests).1) : ¬ ids.Passed id := by
  obtain ⟨front, count, later, before, same⟩ := exists_idAt_of_mem_serveAll mem
  exact fun passed => passed.ne_idAt later (before.trans_lt small) same

/-- Whatever is asked of a source whose counts have 64 bits, no id is handed out twice, and none
that was reserved before. -/
theorem serveAll_new (ids : IdSource) (requests : List Request)
    (small : (ids.serveAll requests).2.count < UInt64.size) :
    (ids.serveAll requests).1.Nodup ∧
      ∀ before used after, requests = before ++ .reserve used :: after →
        ∃ later, (ids.serveAll requests).1 = (ids.serveAll before).1 ++ later ∧
          ∀ id ∈ later, id ∉ used := by
  refine ⟨nodup_serveAll ids requests, ?_⟩
  rintro before used after rfl
  rw [serveAll_append] at small ⊢
  let behind := (ids.serveAll before).2.reserve used
  have passed : ∀ id ∈ used, behind.Passed id := fun id reserved => passed_reserve reserved _
  have new : ∀ id ∈ (behind.serveAll after).1, ¬ behind.Passed id := fun id =>
    not_passed_of_mem_serveAll small
  refine ⟨(behind.serveAll after).1, rfl, fun id handed reserved => ?_⟩
  exact new id handed (passed id reserved)

/-- The seed is a digit between hyphens, a page is called like an id of the source, and ids are
reserved of which one has a greater count than those that were handed out. -/
theorem serveAll_new_hyphens :
    let ids : IdSource := { seed := "-1-" }
    let used := ["text--1--1", "x--1--41", "text-other-99"]
    let before : List Request := [.nodeId .text, .pageId "a --1--7"]
    let requests := before ++ .reserve used :: [.nodeId .text]
    (ids.serveAll requests).1 = ["text--1--1", "a---1--7--1--2", "text--1--42"] ∧
      (ids.serveAll requests).2.count < UInt64.size ∧ (ids.serveAll requests).1.Nodup ∧
      ∃ later, (ids.serveAll requests).1 = (ids.serveAll before).1 ++ later ∧
        ∀ id ∈ later, id ∉ used := by
  intro ids used before requests
  have small : (ids.serveAll requests).2.count < UInt64.size := by decide
  obtain ⟨nodup, unreserved⟩ := serveAll_new ids requests small
  exact ⟨by decide, small, nodup, unreserved before used [.nodeId .text] rfl⟩

end PageStudio.IdSource
