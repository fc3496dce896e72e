import PageStudio.Proofs.Css.NodeItems
import PageStudio.Proofs.Editor.NodeEdits
import PageStudio.Proofs.Editor.Refusal
import PageStudio.Proofs.Node.Descendants
import PageStudio.Proofs.Style.Resolve

/-!
# New nodes in other viewports

A node from the palette has its place and size for the viewport that is called `Desktop`, while
the reference of a session is the first of its viewports, whatever that is called. Where the names
differ, a new node has no styles at all in the reference, and the style sheet does not place it.

## Main statements

* `addNode_resolved`: what a new node looks like in the reference viewport, and its rules.
* `addNode_unplaced`: a new node without a place.
-/

namespace PageStudio

open Style

/-! ## Inserted nodes -/

namespace Forest

variable {n : Node}

/-- An inserted node is one of the forest. -/
theorem mem_forestNodes_insert? {forest forest' : List Node} {parent : Option String}
    (inserted : insert? forest parent n = some forest') : n ∈ Node.forestNodes forest' := by
  cases parent with
  | none =>
    cases inserted
    rw [Node.forestNodes_append, Node.forestNodes, Node.forestNodes, List.append_nil]
    exact List.mem_append_right _ n.mem_withDescendants_self
  | some id =>
    obtain ⟨p, -, place⟩ := changesAt_update? inserted
    refine place.subset_forestNodes ?_
    rw [Node.withDescendants_withChild]
    exact List.mem_cons_of_mem _ (List.mem_append_right _ n.mem_withDescendants_self)

end Forest

/-! ## Nodes from the palette -/

/-- A layer has the place and the size of a new node. -/
def Kind.Places (k : Kind) (layer : Layer) : Prop :=
  layer.get? .top = some "0px" ∧ layer.get? .left = some "0px" ∧
    layer.get? .width = some k.newSize.1 ∧ layer.get? .height = some k.newSize.2

instance (k : Kind) (layer : Layer) : Decidable (k.Places layer) :=
  inferInstanceAs (Decidable (_ ∧ _))

theorem Kind.places_newBase (k : Kind) : k.Places k.newBase := by
  cases k <;> decide

/-- In the reference viewport a new node looks as the palette has it where that is the viewport of
the palette, and has no styles elsewhere. -/
theorem resolve_fresh (id : String) (kind : Kind) (reference : Viewport)
    (others : List Viewport) :
    resolve (Node.fresh id kind) reference (reference :: others) =
      if reference.name = Viewport.referenceName then { base := kind.newBase } else {} := by
  rw [resolve_reference, Node.styles_fresh]
  split
  next => rfl
  next => rfl

/-! ## Adding a node -/

namespace Session

variable {s : Session} {kind : Kind} {parent : Option String} {id : String}

/-- A document with one more node on its active page does not count as the one it was. -/
theorem beq_of_insertNode {d e : Document} {ids : IdSource} {n : Node}
    (inserted : ((Mutation.insertNode parent n).apply d ids).1 = .ok e) : (e == d) = false := by
  obtain ⟨layout, added, changed⟩ := Mutation.insertInto_ok (Mutation.apply_ok_iff.mp inserted).1
  obtain ⟨-, rfl⟩ := Document.withLayout_ok_iff.mp changed
  refine Bool.eq_false_iff.mpr fun same => ?_
  have ids := Document.forestIds_layout_of_beq same d.activePageId
  rw [Document.layout_insert, if_pos rfl] at ids
  have more := (Forest.forestIds_insert? added).length_eq
  rw [ids, List.length_append, Node.subtreeIds_eq, List.length_cons] at more
  have here : d.layout d.activePageId = d.activeLayout := rfl
  rw [here] at more
  omega

/-- An inserted node is among the nodes of the active page. -/
theorem mem_activeLayout_nodes_of_insertNode {d e : Document} {ids : IdSource} {n : Node}
    (inserted : ((Mutation.insertNode parent n).apply d ids).1 = .ok e) :
    n ∈ Node.forestNodes e.activeLayout :=
  Forest.mem_forestNodes_insert?
    (Mutation.insert?_of_insertInto (Mutation.apply_ok_iff.mp inserted).1)

/-- The answer to a request for a new node is the id of a node from the palette, which is then on
the active page. -/
theorem addNode_ok (added : (s.addNode kind parent).1 = .ok id) :
    Node.fresh id kind ∈ Node.forestNodes (s.addNode kind parent).2.document.activeLayout := by
  unfold addNode at added ⊢
  simp only at added ⊢
  split at added
  next => cases added
  next changed t accepted =>
    cases added
    obtain ⟨next, applied, -, -⟩ := apply_of_accepted (congrArg Prod.fst accepted)
    have document := document_apply applied (beq_of_insertNode applied)
    rw [accepted] at document
    have here := mem_activeLayout_nodes_of_insertNode applied
    rw [← document] at here
    exact here

/-- Whatever the viewports of a session are: a node that is added is on the active page with all its
rules in the style sheet. In the reference viewport it has the place and the size of the palette
exactly where that viewport has the name that the palette knows. There, and where its kind has one
whatever the styles are, it has a rule of its own that holds at every width. -/
theorem addNode_resolved {reference : Viewport} {others : List Viewport}
    (viewports : s.viewports = reference :: others)
    (added : (s.addNode kind parent).1 = .ok id) :
    let layout := (s.addNode kind parent).2.document.activeLayout
    ∃ n ∈ Node.forestNodes layout, n.id = id ∧ n.kind = kind ∧
      Css.elementItems s.viewports n.element ⊆ Css.layoutSheet layout s.viewports ∧
      (kind.Places (resolve n reference s.viewports).base ↔
        reference.name = Viewport.referenceName) ∧
      ((∃ r, .rule r ∈ Css.elementItems s.viewports n.element ∧
          r.selector = Css.selector id) ↔
        reference.name = Viewport.referenceName ∨ kind = .alert ∨ kind = .spinner) := by
  intro layout
  have here : Node.fresh id kind ∈ Node.forestNodes layout := addNode_ok added
  refine ⟨_, here, rfl, rfl, ?_, ?_, ?_⟩
  · exact fun i hi => List.mem_append_left _
      (Css.elementItems_subset_forestItems _ here hi)
  · rw [viewports, resolve_fresh]
    split
    next named => exact iff_of_true kind.places_newBase named
    next other => exact iff_of_false (fun ⟨top, _⟩ => nomatch top) other
  · rw [viewports]
    exact Css.exists_rule_fresh_iff id kind reference others

/-- A session on an empty page whose only viewport is not called as the palette has it. -/
def wideOnly : Session :=
  (start (.ofPage { id := "home", name := "Home" }) { seed := "s" }).withViewports
    [⟨"Wide", 1000, 700, 1000⟩]

/-- A text is added to it, without a place and without a rule of its own. -/
theorem addNode_resolved_wideOnly :
    wideOnly.viewports = [⟨"Wide", 1000, 700, 1000⟩] ∧
      (wideOnly.addNode .text none).1 = .ok "text-s-1" ∧
      ∃ n, ¬ Kind.text.Places (resolve n ⟨"Wide", 1000, 700, 1000⟩ wideOnly.viewports).base ∧
        ¬ ∃ r, .rule r ∈ Css.elementItems wideOnly.viewports n.element ∧
          r.selector = Css.selector "text-s-1" := by
  have viewports : wideOnly.viewports = [⟨"Wide", 1000, 700, 1000⟩] := rfl
  have added : (wideOnly.addNode .text none).1 = .ok "text-s-1" := by decide
  obtain ⟨n, -, -, -, -, places, rule⟩ := addNode_resolved viewports added
  exact ⟨viewports, added, n, fun h => absurd (places.mp h) (by decide),
    fun h => absurd (rule.mp h) (by decide)⟩

/-- A node that is added without any styles for the reference viewport, to a page whose style sheet
is empty afterwards. -/
theorem addNode_unplaced :
    let t := (wideOnly.addNode .text none).2
    (wideOnly.addNode .text none).1 = .ok "text-s-1" ∧
      (t.resolved?.map (·.base.get? .top)) = some none ∧
      Css.layoutSheet t.document.activeLayout t.viewports = [] := by
  decide

end Session

end PageStudio
