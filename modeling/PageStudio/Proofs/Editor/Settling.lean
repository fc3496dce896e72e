import PageStudio.Proofs.Document.Numeric
import PageStudio.Proofs.Editor.Commuting
import PageStudio.Proofs.Editor.Refusal
import PageStudio.Proofs.Editor.Writable

/-!
# Edits that are made a second time

A patch says what a node has, a removal what a page does not have, and a new layout what is on a
page. So the document behind such an edit has what the edit asks for, and the same edit gives the
same document once more, node for node and value for value.

That a session counts it as no edit is another matter: it compares the documents, and a document
with NaN is not the same as itself.

## Main statements

* `Mutation.apply_apply`: a second edit gives the document behind the first.
* `Session.apply_again`: a session after a second edit.
* `Session.exists_recorded_twice`: an edit that brings NaN along, recorded both times.
-/

namespace PageStudio

open List

/-! ## Patches -/

/-- Of a value that may be missing it makes no difference how often it is preferred. -/
theorem getD_getD {α : Type} (o : Option α) (a : α) : o.getD (o.getD a) = o.getD a := by
  cases o with
  | none => rfl
  | some b => rfl

theorem NodePatch.apply_apply (p : NodePatch) (n : Node) : p.apply (p.apply n) = p.apply n := by
  obtain ⟨e, children⟩ := n
  have styles (lower upper : Dict String Style.Appearance) :
      (lower.union upper).union upper = lower.union upper := by
    refine Dict.ext_get? fun viewport => ?_
    rw [Dict.get?_union, Dict.get?_union, ← Option.or_assoc, Option.or_self]
  simp only [apply, Node.element, Node.children, getD_getD, styles]

theorem PagePatch.apply_apply (p : PagePatch) (page : Page) :
    p.apply (p.apply page) = p.apply page := by
  have once {α : Type} (new old : Option α) : (new <|> (new <|> old)) = (new <|> old) := by
    cases new with
    | none => rfl
    | some a => rfl
  simp only [apply, getD_getD, once]

/-! ## Forests -/

namespace Node

variable {id : String} {f : Node → Node}

/-- A change of a node with the id changes nothing inside it, where the id occurs once. -/
theorem mapTree_of_own : {n : Node} → n.subtreeIds.Nodup → n.id = id →
    mapTree (changeOf id f) n = f n
  | .mk e children, distinct, own => by
    have absent : id ∉ forestIds children := own ▸ (nodup_cons.mp distinct).1
    rw [mapTree, mapForest_of_absent absent, changeOf, if_pos own]

mutual
theorem mapTree_mapTree (keeps : ∀ n, (f n).id = n.id) (settles : ∀ n, f (f n) = f n) :
    {n : Node} → (mapTree (changeOf id f) n).subtreeIds.Nodup →
    mapTree (changeOf id f) (mapTree (changeOf id f) n) = mapTree (changeOf id f) n
  | .mk e children, distinct => by
    by_cases own : e.id = id
    · have changed : mapTree (changeOf id f) (.mk e children) =
          f (.mk e (mapForest (changeOf id f) children)) := if_pos own
      rw [changed] at distinct ⊢
      rw [mapTree_of_own distinct ((keeps _).trans own), settles]
    · have kept (below : List Node) : mapTree (changeOf id f) (.mk e below) =
          .mk e (mapForest (changeOf id f) below) := if_neg own
      rw [kept] at distinct ⊢
      rw [kept, mapForest_mapForest keeps settles (nodup_cons.mp distinct).2]

/-- A change that adds nothing to itself is made at the nodes of an id once. That the id occurs once
behind it is needed: the change may bring nodes of the id along, and find them the second time. -/
theorem mapForest_mapForest (keeps : ∀ n, (f n).id = n.id) (settles : ∀ n, f (f n) = f n) :
    {forest : List Node} → (forestIds (mapForest (changeOf id f) forest)).Nodup →
    mapForest (changeOf id f) (mapForest (changeOf id f) forest) =
      mapForest (changeOf id f) forest
  | [], _ => rfl
  | n :: rest, distinct => by
    obtain ⟨here, there, -⟩ := nodup_append.mp distinct
    rw [mapForest, mapForest, mapTree_mapTree keeps settles here,
      mapForest_mapForest keeps settles there]
end

end Node

namespace Forest

open Node

variable {forest : List Node}

theorem patch_patch {id : String} {p : NodePatch} (distinct : (forestIds forest).Nodup)
    (distinct' : (forestIds (patch forest id p)).Nodup) :
    patch (patch forest id p) id p = patch forest id p := by
  rw [patch_eq distinct', patch_eq distinct]
  rw [patch_eq distinct] at distinct'
  have keeps (n : Node) : (p.apply n).id = n.id := rfl
  exact mapForest_mapForest keeps p.apply_apply distinct'

mutual
theorem thinNode_thinNode (id : String) : (n : Node) →
    thinNode id (thinNode id n) = thinNode id n
  | .mk e children => congrArg (Node.mk e) (without_without id children)

theorem without_without (id : String) : (forest : List Node) →
    without id (without id forest) = without id forest
  | [] => rfl
  | n :: rest => by
    have later := without_without id rest
    by_cases own : n.id = id
    · simp only [without, if_pos own, later]
    · simp only [without, if_neg own, id_thinNode, thinNode_thinNode id n, later]
end

theorem remove_remove (distinct : (forestIds forest).Nodup) (id : String) :
    remove (remove forest id) id = remove forest id := by
  rw [remove_eq (distinct.sublist (forestIds_remove forest id)), remove_eq distinct,
    without_without]

end Forest

/-! ## Documents -/

/-- A page that has what a patch says is not changed by it. -/
theorem Document.withPageUpdated_again {d e : Document} {id : String} {p : PagePatch}
    (changed : d.withPageUpdated id p = .ok e) : e.withPageUpdated id p = .ok e := by
  have ids := pageIds_withPageUpdated changed
  obtain ⟨page, rfl⟩ := withPageUpdated_ok_iff.mp changed
  refine withPageUpdated_ok_iff.mpr ⟨ids ▸ page, ?_⟩
  congr 1
  rw [map_map]
  refine map_congr_left fun q _ => ?_
  by_cases own : (q.id == id) = true
  · simp only [Function.comp_apply, if_pos own, p.apply_apply, ite_self]
  · simp only [Function.comp_apply, if_neg own]

namespace Mutation

variable {d e : Document} {ids : IdSource} {m : Mutation}

/-- The edits that say what is there afterwards: patches of nodes and pages, removals of nodes and
new layouts. -/
def Settles : Mutation → Prop
  | updateNode .. | removeNode .. | clearPage .. | replaceLayout .. | updatePage .. => True
  | insertNode .. | duplicateNode .. | addPage .. | deletePage .. => False

/-- Such an edit takes no ids. -/
theorem Settles.draft_snd (settles : m.Settles) : (m.draft d ids).2 = ids := by
  cases m with
  | updateNode | removeNode | clearPage | replaceLayout | updatePage => rfl
  | insertNode | duplicateNode | addPage | deletePage => exact settles.elim

/-- An edit of the active layout is made once where it adds nothing to itself. -/
theorem withActiveLayout_again {f : List Node → List Node} (valid : e.Valid)
    (edited : withActiveLayout d (f d.activeLayout) = .ok e)
    (once : f (f d.activeLayout) = f d.activeLayout) :
    withActiveLayout e (f e.activeLayout) = .ok e := by
  have relaid := Document.activeLayout_of_withLayout (lift_ok_iff.mp edited)
  rw [relaid, once, ← relaid]
  exact lift_ok_iff.mpr (Document.withLayout_activeLayout valid)

theorem Settles.draft_again (settles : m.Settles) (valid : d.Valid) (valid' : e.Valid)
    (drafted : (m.draft d ids).1 = .ok e) (ids' : IdSource) : m.draft e ids' = (.ok e, ids') := by
  refine Prod.ext ?_ settles.draft_snd
  cases m with
  | updateNode id p =>
    have relaid := Document.activeLayout_of_withLayout (lift_ok_iff.mp drafted)
    exact withActiveLayout_again (f := (Forest.patch · id p)) valid' drafted
      (Forest.patch_patch valid.activeLayout_nodup (relaid ▸ valid'.activeLayout_nodup))
  | removeNode id =>
    exact withActiveLayout_again (f := (Forest.remove · id)) valid' drafted
      (Forest.remove_remove valid.activeLayout_nodup id)
  | clearPage id | replaceLayout id nodes =>
    have changed := lift_ok_iff.mp drafted
    exact lift_ok_iff.mpr ((Document.withLayout_withLayout changed _).trans changed)
  | updatePage id p =>
    exact lift_ok_iff.mpr (Document.withPageUpdated_again (lift_ok_iff.mp drafted))
  | insertNode | duplicateNode | addPage | deletePage => exact settles.elim

/-- A second edit gives the document behind the first. -/
theorem Settles.apply_apply (settles : m.Settles) (valid : d.Valid)
    (applied : (m.apply d ids).1 = .ok e) (ids' : IdSource) : m.apply e ids' = (.ok e, ids') := by
  have valid' : e.Valid := valid_of_apply valid applied
  have drafted := settles.draft_again valid valid' (apply_ok_iff.mp applied).1 ids'
  refine Prod.ext (apply_ok_iff.mpr ⟨congrArg Prod.fst drafted, valid'.nodeIds_nodup⟩) ?_
  exact apply_snd.trans (congrArg Prod.snd drafted)

/-- No progress that comes with a mutation is NaN. -/
def Numeric : Mutation → Prop
  | insertNode _ n => n.All Element.Numeric
  | updateNode _ p =>
    (∀ c ∈ p.content, ∀ x ∈ c.progress, x.isNaN = false) ∧
      ∀ children ∈ p.children, Node.ForestAll Element.Numeric children
  | replaceLayout _ nodes => Node.ForestAll Element.Numeric nodes
  | _ => True

theorem Numeric.brings (numeric : m.Numeric) : m.Brings Element.Numeric := by
  cases m with
  | insertNode parent n => exact numeric
  | updateNode id p =>
    rintro ⟨e, children⟩ all
    obtain ⟨own, below⟩ := Node.all_mk_iff.mp all
    refine Node.all_mk_iff.mpr ⟨?_, ?_⟩
    · show ∀ x, (p.content.getD e.content).progress = some x → _
      cases given : p.content with
      | none => exact own
      | some c => exact numeric.1 c given
    · show Node.ForestAll _ (p.children.getD children)
      cases given : p.children with
      | none => exact below
      | some forest => exact numeric.2 forest given
  | replaceLayout id nodes => exact numeric
  | _ => trivial

end Mutation

/-! ## Sessions -/

namespace Session

variable {s t : Session} {m : Mutation} {changed : Bool}

/-- A session stores what a mutation makes of its document. -/
theorem apply_eq {next : Document} {ids : IdSource}
    (applied : m.apply s.document s.ids = (.ok next, ids)) :
    s.apply m = (.ok (s.history.commit next).1,
      prune { s with history := (s.history.commit next).2, ids }) := by
  rw [apply, applied]

/-- A session that stores its own document again is the same session, if it takes the document for
the same. -/
theorem Live.apply_eq_self_iff {next : Document} (live : s.Live)
    (applied : m.apply s.document s.ids = (.ok next, s.ids)) :
    s.apply m = (.ok false, s) ↔ (next == s.document) = true := by
  rw [apply_eq applied]
  constructor
  · intro same
    have stored : (s.history.commit next).1 = false := by injection congrArg Prod.fst same
    unfold History.commit at stored
    split at stored
    next equal => exact equal
    next => cases stored
  · intro same
    have kept : s.history.commit next = (false, s.history) := if_pos same
    rw [kept]
    exact congrArg _ live.prune_eq

/-- An edit that says what is there afterwards leaves the document as it is when it is made a second
time. The session says so, and keeps its history with all else, exactly where no progress of the
document is NaN, and so where none is in the document before nor in the edit. -/
theorem apply_again (s t : Session) (m : Mutation) (changed : Bool) (valid : s.document.Valid)
    (numeric : s.document.All Element.Numeric) (settles : m.Settles)
    (applied : s.apply m = (.ok changed, t)) :
    (m.Numeric → t.apply m = (.ok false, t)) ∧
    (t.apply m = (.ok false, t) ↔ t.document.All Element.Numeric) ∧
    (t.apply m).2.document = t.document := by
  obtain ⟨next, made, -, -⟩ := apply_of_accepted (congrArg Prod.fst applied)
  have made' : m.apply s.document s.ids = (.ok next, s.ids) := Prod.ext made settles.draft_snd
  have after : t = _ := (congrArg Prod.snd ((apply_eq made').symm.trans applied)).symm
  have live : t.Live := after ▸ Live.select _ _
  -- The document is the old one, which counts as the new one, or the new one.
  have stored : (next == s.document) = true ∧ t.document = s.document ∨ t.document = next := by
    rw [congrArg document after]
    exact s.history.present_commit next
  have again : m.apply t.document t.ids = (.ok next, t.ids) := by
    rcases stored with ⟨-, old⟩ | new
    · rw [old, congrArg ids after]
      exact made'
    · rw [new]
      exact settles.apply_apply valid made t.ids
  have same : (next == t.document) = true ↔ t.document.All Element.Numeric := by
    rcases stored with ⟨equal, old⟩ | new
    · rw [old]
      exact iff_of_true equal numeric
    · rw [new]
      exact Document.beq_self_iff
  have exactly := (live.apply_eq_self_iff again).trans same
  refine ⟨fun edit => exactly.mpr ?_, exactly, ?_⟩
  · rcases stored with ⟨-, old⟩ | new
    · rw [old]
      exact numeric
    · rw [new]
      exact Mutation.all_draft Element.aboutContent_numeric numeric edit.brings
        (Mutation.apply_ok_iff.mp made).1
  · rcases stored with ⟨equal, old⟩ | new
    · rw [(live.apply_eq_self_iff again).mpr (old ▸ equal)]
    · rw [apply_eq again]
      show (t.history.commit next).2.present = t.document
      rcases t.history.present_commit next with ⟨-, kept⟩ | taken
      · exact kept
      · rw [taken, new]

/-- A card on a shelf gets a look and another text inside, where the text that it had goes. -/
theorem apply_again_shelved :
    let s := start Mutation.shelved { seed := "s" }
    let look : Style.Appearance := { base := Dict.ofList [(.width, "10px")] }
    let p : NodePatch :=
      { styles := some (Dict.ofList [("Mobile", look)])
        children := some [Node.bare "w" .text "Text"] }
    let m := Mutation.updateNode "card" p
    let t := (s.apply m).2
    s.document.Valid ∧ s.document.All Element.Numeric ∧ m.Settles ∧
      s.apply m = (.ok true, t) ∧ m.Numeric ∧ t.apply m = (.ok false, t) := by
  intro s look p m t
  have numeric : s.document.All Element.Numeric := Document.beq_self_iff.mp (by decide)
  have applied : s.apply m = (.ok true, t) := Prod.ext (by decide +kernel) rfl
  have edit : m.Numeric := by
    refine ⟨fun c given => absurd given (Option.not_mem_none c), fun children given => ?_⟩
    cases given
    exact Node.sameForest_self_iff.mp (by decide)
  exact ⟨Mutation.valid_shelved, numeric, trivial, applied, edit,
    (apply_again s t m true Mutation.valid_shelved numeric trivial applied).1 edit⟩

/-- An edit that brings NaN along is taken for a change each time that it is made, though there was
no NaN in the document before. -/
theorem exists_recorded_twice :
    ∃ (s : Session) (m : Mutation), s.document.Valid ∧ s.document.All Element.Numeric ∧
      m.Settles ∧ (s.apply m).1 = .ok true ∧ ((s.apply m).2.apply m).1 = .ok true ∧
      ((s.apply m).2.apply m).2.history ≠ (s.apply m).2.history := by
  let s := start Mutation.shelved { seed := "s" }
  let m := Mutation.updateNode "card" { content := some { progress := some (0 / 0) } }
  have numeric : s.document.All Element.Numeric := Document.beq_self_iff.mp (by decide)
  have pasts : ((s.apply m).2.apply m).2.history.past.length = 2 ∧
      (s.apply m).2.history.past.length = 1 := by decide
  refine ⟨s, m, Mutation.valid_shelved, numeric, trivial, by decide, by decide, fun same => ?_⟩
  have lengths := congrArg (·.past.length) same
  exact absurd (pasts.1.symm.trans (lengths.trans pasts.2)) (by decide)

end Session

end PageStudio
