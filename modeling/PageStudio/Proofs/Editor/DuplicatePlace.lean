import PageStudio.Proofs.Decimal.Whole
import PageStudio.Proofs.Editor.NewNode
import PageStudio.Proofs.Node.Moved
import PageStudio.Proofs.Style.Length

/-!
# Places of copies

A copy is moved in the viewport that is called `Desktop`, while the reference of a session is the
first of its viewports, whatever that is called. Where the names differ, a copy stands exactly on
what it copies.

## Main statements

* `duplicateNode_displaced_iff`: where a copy stands in the reference viewport.
* `not_forall_displaced`: a copy that stands on what it copies.
-/

namespace PageStudio

open Style

namespace Node

variable {n : Node} {reference : Viewport} {others : List Viewport} {s : String} {k : Nat}

/-! ## Moved pixels -/

theorem ofNat_add_copyOffset (small : k < 1000000) :
    Float.ofNat k + copyOffset = Float.ofNat (k + 20) := by
  show Float.ofNat k + Float.ofNat 20 = _
  have few : k + 20 < 2 * Decimal.leadingOne := by
    rw [Decimal.leadingOne]
    omega
  rcases k.eq_zero_or_pos with rfl | positive
  · rfl
  · exact Decimal.ofNat_add positive (by decide) (Decimal.log2_le_of_lt few)

/-- A whole number of pixels is moved by twenty. -/
theorem movedCoordinate?_of_isPixels (pixels : Length.IsPixels s k) (small : k < 1000000) :
    movedCoordinate? (some s) = some (String.ofList (Nat.toDigits 10 (k + 20)) ++ "px") := by
  have few : (k + 20) * 10000 < 2 * Decimal.leadingOne := by
    rw [Decimal.leadingOne]
    omega
  rw [movedCoordinate?, Length.ofText?_of_isPixels pixels, Option.map_some,
    ofNat_add_copyOffset small]
  show some (Decimal.brief (Float.ofNat (k + 20)) ++ "px") = _
  rw [Decimal.brief_ofNat (Nat.succ_pos _) (Decimal.log2_le_of_lt few)]

/-! ## Resolved places -/

theorem styles_copy (n : Node) (ids : IdSource) :
    (n.copy ids).1.element.styles = moved n.element.styles := by
  cases n
  rfl

theorem styles_namedAsCopy (n : Node) : n.namedAsCopy.element.styles = n.element.styles := by
  cases n
  rfl

theorem resolve_congr {m : Node} (same : m.element.styles = n.element.styles) (target : Viewport)
    (viewports : List Viewport) : resolve m target viewports = resolve n target viewports := by
  rw [resolve, resolve, same]

/-- In the reference viewport a node stands where its own styles for that viewport place it. -/
theorem get?_resolve_reference (n : Node) (reference : Viewport) (others : List Viewport)
    (p : Property) :
    (resolve n reference (reference :: others)).base.get? p =
      n.element.baseValue? reference.name p := by
  rw [resolve_reference, Element.baseValue?]
  cases n.element.styles.get? reference.name with
  | some a => rfl
  | none => rfl

/-- A copy is moved by twenty pixels where the reference viewport is the one that copies are moved
in, and stands where its source stands elsewhere. -/
theorem top_copy (top : (resolve n reference (reference :: others)).base.get? .top = some s)
    (pixels : Length.IsPixels s k) (small : k < 1000000) (ids : IdSource) :
    (resolve (n.copy ids).1 reference (reference :: others)).base.get? .top =
      some (if reference.name = Viewport.referenceName then
        String.ofList (Nat.toDigits 10 (k + 20)) ++ "px" else s) := by
  rw [get?_resolve_reference] at top ⊢
  rw [Element.baseValue?] at top
  rw [Element.baseValue?, styles_copy]
  split
  next named =>
    rw [named] at top ⊢
    rw [get?_moved_coordinate _ (.inl rfl), top, movedCoordinate?_of_isPixels pixels small]
    rfl
  -- Under any other name the copy has the styles of its source.
  next other => rw [get?_moved_of_ne other, top]

end Node

namespace Mutation

/-- A duplicate is the renamed copy of the node that is found by its id. -/
theorem mem_activeLayout_nodes_of_duplicateNode {d e : Document} {ids : IdSource} {id : String}
    {n : Node} (found : Forest.find? d.activeLayout id = some n)
    (duplicated : ((duplicateNode id).apply d ids).1 = .ok e) :
    (n.copy ids).1.namedAsCopy ∈ Node.forestNodes e.activeLayout := by
  obtain ⟨place, located, rfl⟩ := Option.map_eq_some_iff.mp found
  have inserted := (apply_ok_iff.mp duplicated).1
  rw [draft, duplicateIn, located] at inserted
  exact Forest.mem_forestNodes_insert? (insert?_of_insertInto inserted)

/-- Whatever the viewports are: a node that stands a whole number of pixels from the top in the
reference viewport, and its copy. The copy stands elsewhere exactly where that viewport has the name
that copies are moved under, and it is twenty pixels further down there. A duplicate on a page
stands where the copy does. -/
theorem duplicateNode_displaced_iff (reference : Viewport) (others : List Viewport) (n : Node)
    (s : String) (k : Nat)
    (standing : (resolve n reference (reference :: others)).base.get? .top = some s)
    (pixels : Length.IsPixels s k) (small : k < 1000000) (ids : IdSource) :
    let top (m : Node) := (resolve m reference (reference :: others)).base.get? .top
    (top (n.copy ids).1 ≠ top n ↔ reference.name = Viewport.referenceName) ∧
    (reference.name = Viewport.referenceName →
      ∃ s', top (n.copy ids).1 = some s' ∧ Length.IsPixels s' (k + 20)) ∧
    ∀ d e id, Forest.find? d.activeLayout id = some n →
      ((duplicateNode id).apply d ids).1 = .ok e →
        ∃ copy ∈ Node.forestNodes e.activeLayout, copy.id = (n.copy ids).1.id ∧
          top copy = top (n.copy ids).1 := by
  intro top
  have copied : top (n.copy ids).1 = _ := Node.top_copy standing pixels small ids
  have before : top n = some s := standing
  refine ⟨?_, fun named => ?_, fun d e id found duplicated => ?_⟩
  · rw [copied, before]
    split
    next named =>
      refine iff_of_true (fun same => ?_) named
      have lower := pixels.unique (Option.some.inj same ▸ Length.isPixels_toDigits (k + 20))
      omega
    next other => exact iff_of_false (not_not_intro rfl) other
  · rw [if_pos named] at copied
    exact ⟨_, copied, Length.isPixels_toDigits (k + 20)⟩
  · refine ⟨_, mem_activeLayout_nodes_of_duplicateNode found duplicated, ?_, ?_⟩
    · cases n
      rfl
    · exact congrArg (·.base.get? .top) (Node.resolve_congr (Node.styles_namedAsCopy _) _ _)

/-- A card that has a place in a viewport that is called `Wide`. -/
def wideCard : Node :=
  (Node.bare "card" .card "Card").withStyles "Wide" { base := Dict.ofList [(.top, "10px")] }

/-- A page with this card. -/
def wideCardPage : Document where
  pages := [{ id := "home", name := "Home" }]
  layouts := Dict.ofList [("home", [wideCard])]
  activePageId := "home"

/-- A duplicate of the card stands on the card where the reference viewport has that name. -/
theorem duplicateNode_displaced_iff_wideCard :
    let wide : Viewport := ⟨"Wide", 1000, 700, 1000⟩
    let ids : IdSource := { seed := "s" }
    (resolve wideCard wide [wide]).base.get? .top = some "10px" ∧
      Length.IsPixels "10px" 10 ∧ 10 < 1000000 ∧
      Forest.find? wideCardPage.activeLayout "card" = some wideCard ∧
      ∃ e, ((duplicateNode "card").apply wideCardPage ids).1 = .ok e ∧
        ∃ copy ∈ Node.forestNodes e.activeLayout, copy.id = "card-s-1" ∧
          (resolve copy wide [wide]).base.get? .top = some "10px" := by
  intro wide ids
  have standing : (resolve wideCard wide [wide]).base.get? .top = some "10px" := by decide
  have pixels : Length.IsPixels "10px" 10 :=
    ⟨['1', '0'], by decide, List.all_eq_true.mp (by decide), rfl, rfl⟩
  have found : Forest.find? wideCardPage.activeLayout "card" = some wideCard := rfl
  have first : (wideCard.copy ids).1.id = "card-s-1" := by decide
  obtain ⟨displaced, -, duplicates⟩ :=
    duplicateNode_displaced_iff wide [] wideCard "10px" 10 standing pixels (by decide) ids
  have stays := not_not.mp fun other => absurd (displaced.mp other) (by decide)
  obtain ⟨e, duplicated⟩ : ∃ e, ((duplicateNode "card").apply wideCardPage ids).1 = .ok e :=
    ⟨_, rfl⟩
  obtain ⟨copy, there, named, place⟩ := duplicates wideCardPage e "card" found duplicated
  exact ⟨standing, pixels, by decide, found, e, duplicated, copy, there,
    named.trans first, (place.trans stays).trans standing⟩

/-- Not every copy of a node with such a place stands elsewhere than the node. -/
theorem not_forall_displaced :
    ¬ ∀ (reference : Viewport) (others : List Viewport) (n : Node) (k : Nat) (ids : IdSource),
      k < 1000000 →
      (resolve n reference (reference :: others)).base.get? .top =
        some (String.ofList (Nat.toDigits 10 k) ++ "px") →
      (resolve (n.copy ids).1 reference (reference :: others)).base.get? .top ≠
        (resolve n reference (reference :: others)).base.get? .top := by
  intro all
  exact all ⟨"Wide", 1000, 700, 1000⟩ [] wideCard 10 { seed := "s" } (by decide) (by decide)
    (by decide)

end Mutation

end PageStudio
