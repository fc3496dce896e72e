import Mathlib.Data.List.Basic
import PageStudio.Css.Layout
import PageStudio.Node.Palette
import PageStudio.Proofs.Node.Descendants

/-!
# The nodes that the parts of a style sheet are for

The style sheet of a layout is put together node by node (`forestItems_eq`), and each node has rules
for its styles and rules that its kind needs. The rule for the node itself has the selector of the
node; the others have a longer one.

## Main statements

* `elementItems_subset_forestItems`: every node of a layout is in its style sheet.
* `exists_rule_fresh_iff`: which new nodes have a rule for themselves.
-/

namespace PageStudio.Css

open Style

/-! ## All nodes -/

mutual
theorem nodeItems_eq (viewports : List Viewport) : (n : Node) → nodeItems viewports n =
    n.withDescendants.flatMap fun m => elementItems viewports m.element
  | .mk _ children => congrArg _ (forestItems_eq viewports children)

/-- The rules of a forest are those of its nodes. -/
theorem forestItems_eq (viewports : List Viewport) : (forest : List Node) →
    forestItems viewports forest =
      (Node.forestNodes forest).flatMap fun m => elementItems viewports m.element
  | [] => rfl
  | n :: rest => by
    rw [forestItems, Node.forestNodes, List.flatMap_append, nodeItems_eq viewports n,
      forestItems_eq viewports rest]
end

/-- The rules of every node of a forest are among those of the forest. -/
theorem elementItems_subset_forestItems (viewports : List Viewport) {n : Node} {forest : List Node}
    (mem : n ∈ Node.forestNodes forest) :
    elementItems viewports n.element ⊆ forestItems viewports forest := by
  rw [forestItems_eq]
  exact fun i own => List.mem_flatMap_of_mem mem own

mutual
theorem hasSpinner_eq : (n : Node) →
    hasSpinner n = n.withDescendants.any fun m => m.kind == .spinner
  | .mk e children => congrArg (e.kind == .spinner || ·) (anySpinner_eq children)

/-- There is a spinner in a forest if one of its nodes is one. -/
theorem anySpinner_eq : (forest : List Node) →
    anySpinner forest = (Node.forestNodes forest).any fun m => m.kind == .spinner
  | [] => rfl
  | n :: rest => by
    rw [anySpinner, Node.forestNodes, List.any_append, hasSpinner_eq n, anySpinner_eq rest]
end

/-! ## The rules of one node -/

theorem selector_append_ne (id : String) {suffix : String} (some : suffix.length ≠ 0) :
    selector id ++ suffix ≠ selector id := by
  intro same
  have lengths := congrArg String.length same
  rw [String.length_append] at lengths
  omega

/-- Beside the rules for the reference viewport and those of its kind, a node has conditional rules
only. -/
theorem rule_mem_elementItems_iff {reference : Viewport} {others : List Viewport} {e : Element}
    {r : Rule} : .rule r ∈ elementItems (reference :: others) e ↔
      r ∈ viewportRules e reference ∨ r ∈ kindRules e := by
  have narrow : Item.rule r ∉ others.flatMap (narrowItems e) := by
    intro mem
    obtain ⟨v, -, mem⟩ := List.mem_flatMap.mp mem
    unfold narrowItems at mem
    split at mem
    next => cases mem
    next => cases List.mem_singleton.mp mem
  have plain : ∀ rules : List Rule, Item.rule r ∈ rules.map .rule ↔ r ∈ rules := fun rules =>
    List.mem_map_of_injective fun _ _ => Item.rule.inj
  simp only [elementItems, styleItems, List.mem_append, plain, narrow, or_false]

/-- Of all kinds, two have a rule for the node itself whatever its styles are. -/
theorem exists_kindRules_iff (e : Element) :
    (∃ r ∈ kindRules e, r.selector = selector e.id) ↔ e.kind = .alert ∨ e.kind = .spinner := by
  have inner : selector e.id ++ " .progress-bar-inner" ≠ selector e.id :=
    selector_append_ne e.id (by decide)
  unfold kindRules
  cases e.kind <;> simp [inner]

/-! ## The rules of a new node -/

theorem declarations_newBase_ne_nil (k : Kind) : declarations k.newBase ≠ [] := by
  cases k <;> decide

theorem viewportRules_fresh (id : String) (kind : Kind) (v : Viewport) :
    viewportRules (Node.fresh id kind).element v =
      if v.name = Viewport.referenceName then
        [⟨selector id, ("position", "absolute") :: declarations kind.newBase⟩]
      else [] := by
  unfold viewportRules
  rw [Node.styles_fresh]
  split
  next =>
    show baseRule id kind.newBase ++ [] = _
    unfold baseRule
    split
    next none => exact absurd none (declarations_newBase_ne_nil kind)
    next => exact List.append_nil _
  next => rfl

/-- A new node has a rule of its own that holds at every width where its styles are for the
reference viewport, or where its kind has one whatever the styles are. -/
theorem exists_rule_fresh_iff (id : String) (kind : Kind) (reference : Viewport)
    (others : List Viewport) :
    (∃ r, .rule r ∈ elementItems (reference :: others) (Node.fresh id kind).element ∧
        r.selector = selector id) ↔
      reference.name = Viewport.referenceName ∨ kind = .alert ∨ kind = .spinner := by
  have styled : (∃ r ∈ viewportRules (Node.fresh id kind).element reference,
      r.selector = selector id) ↔ reference.name = Viewport.referenceName := by
    rw [viewportRules_fresh]
    split
    next named => exact iff_of_true ⟨_, List.mem_singleton_self _, rfl⟩ named
    next other => exact iff_of_false (fun ⟨_, mem, _⟩ => nomatch mem) other
  have kinds := exists_kindRules_iff (Node.fresh id kind).element
  simp only [rule_mem_elementItems_iff, or_and_right, exists_or]
  exact or_congr styled kinds

end PageStudio.Css
