import PageStudio.Proofs.Document.Form
import PageStudio.Proofs.Document.NodeIds
import PageStudio.Proofs.Node.Depth
import PageStudio.Proofs.Node.Writable

/-!
# Documents that can be saved

A document that was read is valid, and its links can be written. Every change of a document keeps
its nodes writable, if the nodes that come with it are.
-/

namespace PageStudio

open Json

/-! ## Pages, themes and settings -/

theorem Json.scalars_ofFields {written : List (String × Option Json)}
    (each : ∀ w ∈ written, ∀ v, w.2 = some v → v.Scalar) :
    ∀ m ∈ written.filterMap fun w => w.2.map fun v => (w.1, v), m.2.Scalar := by
  intro m mem
  obtain ⟨w, there, same⟩ := List.mem_filterMap.mp mem
  obtain ⟨v, has, rfl⟩ := Option.map_eq_some_iff.mp same
  exact each w there v has

theorem Page.bounded (p : Page) : Bounded read p.toJson :=
  bounded_scalars (scalars_ofFields (by simp [Scalar]))

@[simp] theorem Page.legible (p : Page) : p.toJson.Legible := legible_ofFields (by simp)

@[simp] theorem Theme.legible (t : Theme) : t.toJson.Legible := legible_object (by simp)

@[simp] theorem Settings.legible (s : Settings) : s.toJson.Legible := legible_ofFields (by simp)

theorem Settings.height_toJson (s : Settings) : s.toJson.height ≤ 1 :=
  height_le_one_of_scalars (scalars_ofFields (by simp [Scalar]))

theorem ReadError.eq_some_of_ofOption_eq_ok {α : Type} {x : Option α} {a : α}
    (read : ofOption x = .ok a) : x = some a := by
  cases x with
  | none => cases read
  | some b =>
    cases read
    rfl

/-- What is read of a text is read of its tree. -/
theorem exists_read_of_readText {α : Type} {read : Source → Except ReadError α} {text : String}
    {a : α} (found : readText read text = .ok a) : ∃ v, read v = .ok a := by
  unfold readText at found
  generalize Source.parse text = parsed at found
  obtain ⟨b, value, found⟩ := exists_of_bind_eq_ok found
  split at found
  next => cases found
  next =>
    cases found
    exact ⟨_, value⟩

namespace Document

variable {d e : Document} {id : String}

/-! ## Writable documents -/

/-- All elements of a document have a property. -/
def All (P : Element → Prop) (d : Document) : Prop := ∀ id, Node.ForestAll P (d.layout id)

theorem all_iff {P : Element → Prop} :
    d.All P ↔ ∀ entry ∈ d.layouts.entries, Node.ForestAll P entry.2 := by
  constructor
  · intro all entry mem
    have found : d.layouts.get? entry.1 = some entry.2 := d.layouts.get?_eq_some_iff.mpr mem
    have here := all entry.1
    unfold layout at here
    rwa [found] at here
  · intro each id
    unfold layout
    cases found : d.layouts.get? id with
    | none => exact Node.forestAll_nil
    | some forest => exact each (id, forest) (d.layouts.get?_eq_some_iff.mp found)

theorem storable_of_all (all : d.All Element.Storable) : d.Storable :=
  fun entry mem => Node.forestStorable_of_all (all_iff.mp all entry mem)

/-- A writable document is written legibly. -/
theorem legible_toJson (writable : d.All Element.Writable) : d.toJson.Legible := by
  have layouts : (Json.object
      (d.layouts.entries.map fun e => (e.1, .array (Node.forestJson e.2)))).Legible :=
    legible_object_map fun entry mem => Node.legible_forestJson (all_iff.mp writable entry mem)
  refine legible_object ?_
  simp only [List.forall_mem_cons, legible_array_map, Page.legible, legible_string, implies_true,
    true_and, List.not_mem_nil, false_implies, and_true]
  exact layouts

/-! ## Documents that were read -/

/-- What is read of a document is not nested too deep. -/
theorem bounded_toJson (d : Document) : Bounded Draft.read d.toJson := by
  unfold toJson
  rw [← ofFields_map_some]
  refine bounded_record (by rfl) (by decide) fun fields levels b keeps found => ?_
  obtain ⟨_, pages, found⟩ := exists_of_bind_eq_some found
  obtain ⟨_, layouts, -⟩ := exists_of_bind_eq_some found
  have boundedPages : Bounded (Reader.list Page.read) (.array (d.pages.map Page.toJson)) :=
    bounded_list fun p _ => p.bounded
  have boundedLayouts : Bounded (Reader.table readForest)
      (.object (d.layouts.entries.map fun e => (e.1, .array (Node.forestJson e.2)))) :=
    bounded_dict fun e _ => Node.bounded_readForest e.2
  have inPages := keeps.required List.mem_cons_self rfl boundedPages pages
  have inLayouts := keeps.withDefault (List.mem_cons_of_mem _ List.mem_cons_self) rfl
    boundedLayouts layouts
  simp only [List.map_cons, List.map_nil, List.forall_mem_cons, Option.some.injEq, forall_eq',
    height_string, Nat.zero_le, List.not_mem_nil, false_implies, implies_true, and_true]
  exact ⟨inPages, inLayouts⟩

/-- The layouts of a document are those of its draft or empty. -/
theorem Draft.Gives.layout {draft : Draft} (gives : draft.Gives d) (id : String) :
    d.layout id = [] ∨ draft.layouts.get? id = some (d.layout id) := by
  unfold Document.layout
  by_cases mem : id ∈ draft.pageIds
  · rw [gives.listed id mem, Option.getD_some]
    unfold Draft.layout
    cases draft.layouts.get? id with
    | none => exact .inl rfl
    | some forest => exact .inr rfl
  · rw [gives.unlisted id mem]
    exact .inl rfl

/-- A document that was read is valid, and its links can be written. -/
theorem read_ok {v : Source} (found : read v = .ok d) :
    d.Valid ∧ d.All Element.LinkStorable := by
  obtain ⟨draft, drafted, made⟩ := exists_of_bind_eq_ok found
  replace drafted : Draft.read v = some draft := ReadError.eq_some_of_ofOption_eq_ok drafted
  obtain ⟨sound, gives⟩ := ofDraft_eq_ok_iff.mp (eq_ok_of_mapError_eq_ok made)
  refine ⟨gives.valid sound, fun id => ?_⟩
  rcases gives.layout id with empty | here
  · rw [empty]
    exact Node.forestAll_nil
  · obtain ⟨fields, -, drafted⟩ := exists_of_bind_eq_some drafted
    obtain ⟨_, -, drafted⟩ := exists_of_bind_eq_some drafted
    obtain ⟨table, forests, drafted⟩ := exists_of_bind_eq_some drafted
    obtain ⟨_, -, drafted⟩ := exists_of_bind_eq_some drafted
    cases drafted
    rcases Fields.exists_of_withDefault forests with rfl | ⟨w, value⟩
    · cases here
    · obtain ⟨u, forest⟩ := Reader.exists_of_get?_table value here
      exact Node.linkStorable_of_readForest forest

/-! ## Changes -/

section Changes

variable {P : Element → Prop}

theorem All.withLayout {forest : List Node} (all : d.All P) (new : Node.ForestAll P forest)
    (changed : d.withLayout id forest = .ok e) : e.All P := by
  obtain ⟨-, rfl⟩ := withLayout_ok_iff.mp changed
  intro l
  rw [layout_insert]
  split
  next => exact new
  next => exact all l

theorem All.withPageAdded {p : Page} (all : d.All P) (changed : d.withPageAdded p = .ok e) :
    e.All P := by
  obtain ⟨-, rfl⟩ := withPageAdded_ok_iff.mp changed
  intro l
  have layouts : layout ⟨d.pages ++ [p], d.layouts.insert p.id [], p.id⟩ l =
      if l = p.id then [] else d.layout l := layout_insert d p.id l []
  rw [layouts]
  split
  next => exact Node.forestAll_nil
  next => exact all l

theorem All.withPageUpdated {patch : PagePatch} (all : d.All P)
    (changed : d.withPageUpdated id patch = .ok e) : e.All P := by
  obtain ⟨-, rfl⟩ := withPageUpdated_ok_iff.mp changed
  exact all

theorem All.withPageRemoved (all : d.All P) (changed : d.withPageRemoved id = .ok e) :
    e.All P := by
  obtain ⟨-, first, rest, -, rfl⟩ := withPageRemoved_ok_iff.mp changed
  intro l
  unfold layout
  rw [Dict.get?_erase]
  split
  next => exact Node.forestAll_nil
  next => exact all l

theorem All.withActivePage (all : d.All P) (changed : d.withActivePage id = .ok e) : e.All P := by
  obtain ⟨-, rfl⟩ := withActivePage_ok_iff.mp changed
  exact all

end Changes

end Document

end PageStudio
