import PageStudio.Proofs.Document.Frame
import PageStudio.Proofs.Editor.NewPage
import PageStudio.Proofs.Text.Numbering

/-!
# Names of pages without a name

A page that is added without a name is called `Untitled`, or else `Untitled` with the least number
from two on whose name no page has. There are only as many names taken as there are pages, so the
search ends behind as many numbers, and however names were given and taken away before, the new page
is called otherwise than every page beside it.

## Main statements

* `firstUntitled_untitledName`: which name is chosen.
* `pages_addPage`: the pages behind an addition that succeeds.
* `addPage_untitled`: additions without a name in a run of operations.
-/

namespace PageStudio.Session

/-! ## Numbered names -/

/-- Different numbers make different names. -/
theorem distinguishes_untitled : Text.Distinguishes untitled 1 := by
  have longer : ∀ s : String, "Untitled" ≠ "Untitled " ++ s := by
    intro s same
    have lengths := congrArg String.length same
    rw [String.length_append] at lengths
    have more : "Untitled".length < "Untitled ".length := by decide
    omega
  intro i j one_le_i one_le_j same
  unfold untitled at same
  split at same
  next =>
    split at same
    next => omega
    next => exact absurd same (longer _)
  next =>
    split at same
    next => exact absurd same.symm (longer _)
    next => exact Decimal.toDigits_inj (String.ofList_inj.mp (String.append_right_inj _ |>.mp same))

/-- The name of a page without a name beside pages of other names: the plain one where that is free,
and else that with the least number from two on whose name is free. -/
inductive FirstUntitled (names : List String) : String → Prop
  | plain (free : "Untitled" ∉ names) : FirstUntitled names "Untitled"
  | numbered {k : Nat} (two_le : 2 ≤ k) (le_succ : k ≤ names.length + 1)
    (plain_given : "Untitled" ∈ names)
    (smaller_given : ∀ j, 2 ≤ j → j < k →
      "Untitled " ++ String.ofList (Nat.toDigits 10 j) ∈ names)
    (free : "Untitled " ++ String.ofList (Nat.toDigits 10 k) ∉ names) :
    FirstUntitled names ("Untitled " ++ String.ofList (Nat.toDigits 10 k))

theorem FirstUntitled.not_mem {names : List String} {name : String}
    (first : FirstUntitled names name) : name ∉ names := by
  cases first with
  | plain free => exact free
  | numbered _ _ _ _ free => exact free

/-- The search for a name is that for any numbered name. -/
theorem freeUntitled_eq_firstFree (taken : List String) (tries n : Nat) :
    freeUntitled taken tries n = Text.firstFree untitled taken tries n := by
  induction tries generalizing n with
  | zero => rfl
  | succ tries ih => rw [freeUntitled, Text.firstFree, ih]

/-- A search that goes on for at least as many numbers as there are names finds the first free name.
-/
theorem firstUntitled_freeUntitled {names : List String} {tries : Nat}
    (enough : names.length ≤ tries) :
    FirstUntitled names (untitled (freeUntitled names tries 1)) := by
  rw [freeUntitled_eq_firstFree]
  obtain ⟨⟨least, free, passed⟩, most⟩ :=
    Text.isLeastFree_firstFree distinguishes_untitled enough
  generalize Text.firstFree untitled names tries 1 = k at least free passed most ⊢
  have written : ∀ j, 2 ≤ j → untitled j = "Untitled " ++ String.ofList (Nat.toDigits 10 j) :=
    fun j two_le => if_neg (by omega)
  rcases Nat.eq_or_lt_of_le least with rfl | more
  · exact .plain free
  · rw [written k more] at free ⊢
    refine .numbered more (by omega) (passed 1 (Nat.le_refl 1) more) (fun j two_le below => ?_) free
    rw [← written j two_le]
    exact passed j (Nat.le_of_succ_le two_le) below

theorem firstUntitled_untitledName (d : Document) :
    FirstUntitled (d.pages.map (·.name)) (untitledName d) :=
  firstUntitled_freeUntitled (Nat.le_of_eq (List.length_map _))

/-- A search that goes on for longer finds the same name. -/
theorem untitled_freeUntitled (d : Document) {tries : Nat} (enough : d.pages.length ≤ tries) :
    untitled (freeUntitled (d.pages.map (·.name)) tries 1) = untitledName d := by
  obtain ⟨k, least, most⟩ :=
    Text.exists_isLeastFree distinguishes_untitled (d.pages.map (·.name))
  rw [List.length_map] at most
  rw [untitledName, freeUntitled_eq_firstFree, freeUntitled_eq_firstFree,
    least.firstFree_eq (by omega), least.firstFree_eq (by omega)]

/-! ## Added pages -/

/-- The document behind a mutation that adds a page has the pages of the result, since with one more
page it does not count as the one before. -/
theorem pages_apply_addPage {s : Session} {p : Page} {changed : Bool}
    (accepted : (s.apply (.addPage p)).1 = .ok changed) :
    (s.apply (.addPage p)).2.document.pages = s.document.pages ++ [p] := by
  obtain ⟨next, applied, -, -⟩ := apply_of_accepted accepted
  have adds : s.document.AddsPage next p :=
    Document.addsPage_of_withPageAdded (Mutation.lift_ok_iff.mp (Mutation.apply_ok_iff.mp applied).1)
  have differs : (next == s.document) = false := by
    refine Bool.eq_false_iff.mpr fun same => ?_
    have lengths := congrArg List.length (adds.pages.symm.trans (Document.pages_of_beq same))
    rw [List.length_append] at lengths
    exact Nat.succ_ne_self _ lengths
  rw [document_apply applied differs, adds.pages]

/-- A page that is added comes behind the others, under the id that the session answers. -/
theorem pages_addPage {s : Session} {name : Option String} {id : String}
    (added : (s.addPage name).1 = .ok id) :
    (s.addPage name).2.document.pages = s.document.pages ++ [Page.titled id (s.pageName name)] := by
  let t : Session := { s with ids := (s.ids.pageId (s.pageName name)).2 }
  let p : Page := Page.titled (s.nextPageId name) (s.pageName name)
  have history : (s.addPage name).2.history = (t.apply (.addPage p)).2.history :=
    @perform_edit_history s (.addPage name) _ _ rfl
  have answer : (s.addPage name).1 = (t.apply (.addPage p)).1.map fun _ => s.nextPageId name :=
    addPage_fst_of_apply rfl
  rw [added] at answer
  cases result : (t.apply (.addPage p)).1 with
  | error e =>
    rw [result] at answer
    cases answer
  | ok changed =>
    rw [result] at answer
    obtain rfl : id = s.nextPageId name := Except.ok.inj answer
    show (s.addPage name).2.history.present.pages = _
    rw [history]
    exact pages_apply_addPage result

/-- Without a name, the page that is added is called otherwise than all others. -/
theorem name_ne_of_addPage {s : Session} {id : String} (added : (s.addPage none).1 = .ok id) :
    ∃ p : Page, p.id = id ∧ p.name = untitledName s.document ∧
      (s.perform (.addPage none)).document.pages = s.document.pages ++ [p] ∧
      ∀ q ∈ s.document.pages, q.name ≠ p.name := by
  refine ⟨Page.titled id (untitledName s.document), rfl, rfl, pages_addPage added, ?_⟩
  exact fun q mem same =>
    (firstUntitled_untitledName s.document).not_mem (List.mem_map.mpr ⟨q, mem, same⟩)

/-- Without a name, a page is called by the first free name, whose number is at most one more than
there are pages; a search that went on for longer would find no other. Behind every run of
operations, those that rename pages and take them away among them, a page that is added without a
name is called otherwise than every other page that is there then. -/
theorem addPage_untitled (s : Session) (front : List Operation) :
    FirstUntitled (s.document.pages.map (·.name)) (untitledName s.document) ∧
    (∀ tries, s.document.pages.length ≤ tries →
      untitled (freeUntitled (s.document.pages.map (·.name)) tries 1) = untitledName s.document) ∧
    ∀ id, ((s.run front).addPage none).1 = .ok id →
      ∃ p : Page, p.id = id ∧ p.name = untitledName (s.run front).document ∧
        (s.run (front ++ [.addPage none])).document.pages =
          (s.run front).document.pages ++ [p] ∧
        ∀ q ∈ (s.run front).document.pages, q.name ≠ p.name := by
  refine ⟨firstUntitled_untitledName _, fun tries => untitled_freeUntitled _, ?_⟩
  intro id added
  have last : s.run (front ++ [.addPage none]) = (s.run front).perform (.addPage none) :=
    List.foldl_append
  rw [last]
  exact name_ne_of_addPage added

/-- Two pages without a name are added; the first page gets the name of one of them, which is
removed. -/
def namelessRun : List Operation :=
  [.addPage none, .addPage none, .apply (.updatePage "home" { name := some "Untitled" }),
    .apply (.deletePage "untitled-s-1")]

theorem addPage_untitled_namelessRun :
    let s := start (.ofPage { id := "home", name := "Home" }) { seed := "s" }
    let t := s.run namelessRun
    t.document.pages.map (·.name) = ["Untitled", "Untitled 2"] ∧
      FirstUntitled ["Untitled", "Untitled 2"] "Untitled 3" ∧
      untitled (freeUntitled ["Untitled", "Untitled 2"] 9 1) = "Untitled 3" ∧
      (t.addPage none).1 = .ok "untitled-3-s-3" ∧
      ∃ p : Page, p.id = "untitled-3-s-3" ∧ p.name = "Untitled 3" ∧
        (s.run (namelessRun ++ [.addPage none])).document.pages = t.document.pages ++ [p] ∧
        ∀ q ∈ t.document.pages, q.name ≠ p.name := by
  intro s t
  have names : t.document.pages.map (·.name) = ["Untitled", "Untitled 2"] := by decide
  have chosen : untitledName t.document = "Untitled 3" := by decide
  have added : (t.addPage none).1 = .ok "untitled-3-s-3" := by decide
  obtain ⟨first, longer, -⟩ := addPage_untitled t []
  have apart := (addPage_untitled s namelessRun).2.2 "untitled-3-s-3" added
  rw [names, chosen] at first
  have nine := longer 9 (by decide)
  rw [names, chosen] at nine
  rw [show untitledName (s.run namelessRun).document = _ from chosen] at apart
  exact ⟨names, first, nine, added, apart⟩

end PageStudio.Session
