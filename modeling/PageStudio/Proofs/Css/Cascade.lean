import PageStudio.Proofs.Css.Declarations
import PageStudio.Proofs.Css.NodeItems

/-!
# What a style sheet shows at a width

In a style sheet later declarations override earlier ones, as long as the width of the screen lets
them apply. A node that has styles for a viewport shows them over those of the reference, and over
or below those of every other viewport whose breakpoint is not less than the width (`shownBase_eq`).
What the node is resolved to knows of the reference only (`resolve_of_own`). Both are the same where
every property is `Carried`.
-/

namespace PageStudio.Css

open Style

/-! ## Reading a style sheet -/

/-- The declarations that a rule makes for a selector. -/
def Rule.declarationsFor (sel : String) (r : Rule) : List Declaration :=
  if r.selector = sel then r.declarations else []

/-- The declarations that a part of a style sheet makes for a selector on a screen of a width. -/
def Item.declarationsFor (sel : String) (width : Nat) : Item → List Declaration
  | .rule r => r.declarationsFor sel
  | .upToWidth pixels rules => if width ≤ pixels then rules.flatMap (·.declarationsFor sel) else []
  | .animation .. => []

/-- What a style sheet shows for a selector on a screen of a width, by the names of declarations. -/
def shown (sheet : Sheet) (sel : String) (width : Nat) : Dict String String :=
  Dict.ofList (sheet.flatMap (·.declarationsFor sel width))

/-- What the styles of a node show beside the way that the node is placed. -/
def shownBase (e : Element) (viewports : List Viewport) (width : UInt32) : Dict String String :=
  (shown (styleItems e viewports) (selector e.id) width.toNat).erase "position"

/-- What a layer declares, by names. -/
def declared (layer : Layer) : Dict String String := Dict.ofList (declarations layer)

/-- The base layer of a node for a viewport, empty where the node has no styles for it. -/
def baseOf (e : Element) (v : Viewport) : Layer := ((e.styles.get? v.name).getD {}).base

/-- The layers that apply on a screen of a width, later ones over earlier ones: that of the
reference and those of the other viewports with a breakpoint that is not less. -/
def appliedLayers (e : Element) (viewports : List Viewport) (width : UInt32) : List Layer :=
  match viewports with
  | [] => []
  | reference :: others =>
    baseOf e reference :: (others.filter fun v => decide (width ≤ v.breakpoint)).map (baseOf e)

/-! ## The rules of a node -/

variable {e : Element} {layer : Layer}

/-- The declarations of a base layer in a style sheet, the placing in front. -/
def placed (layer : Layer) : List Declaration :=
  match declarations layer with
  | [] => []
  | ds => ("position", "absolute") :: ds

theorem declarationsFor_baseRule (id : String) (layer : Layer) :
    (baseRule id layer).flatMap (·.declarationsFor (selector id)) = placed layer := by
  unfold baseRule placed
  cases declarations layer with
  | nil => rfl
  | cons d rest =>
    simp only [List.flatMap_cons, List.flatMap_nil, Rule.declarationsFor, if_true,
      List.append_nil]

/-- The rules for the time that a pointer rests on a node have a selector of their own. -/
theorem declarationsFor_hoverRule (id : String) (layer : Layer) :
    (hoverRule id layer).flatMap (·.declarationsFor (selector id)) = [] := by
  have other : selector id ++ ":hover" ≠ selector id := selector_append_ne id (by decide)
  unfold hoverRule
  split
  · rfl
  · simp only [List.flatMap_cons, List.flatMap_nil, Rule.declarationsFor, other, if_false,
      List.append_nil]

theorem declarationsFor_viewportRules (e : Element) (v : Viewport) :
    (viewportRules e v).flatMap (·.declarationsFor (selector e.id)) = placed (baseOf e v) := by
  unfold viewportRules baseOf
  cases e.styles.get? v.name with
  | none => rfl
  | some a =>
    show (appearanceRules e.id a).flatMap _ = placed a.base
    unfold appearanceRules
    rw [List.flatMap_append, declarationsFor_baseRule]
    cases a.hover with
    | none => exact List.append_nil _
    | some hover =>
      show placed a.base ++ (hoverRule e.id hover).flatMap _ = _
      rw [declarationsFor_hoverRule, List.append_nil]

theorem declarationsFor_narrowItems (e : Element) (v : Viewport) (width : UInt32) :
    (narrowItems e v).flatMap (·.declarationsFor (selector e.id) width.toNat) =
      if width ≤ v.breakpoint then placed (baseOf e v) else [] := by
  simp only [← declarationsFor_viewportRules, UInt32.le_iff_toNat_le]
  unfold narrowItems
  cases viewportRules e v with
  | nil => exact (ite_self _).symm
  | cons r rest => exact List.append_nil _

/-- No property is declared under the name of the placing. -/
theorem filter_placed (layer : Layer) :
    (placed layer).filter (fun d => !decide ("position" = d.1)) = declarations layer := by
  have kept : (declarations layer).filter (fun d => !decide ("position" = d.1)) =
      declarations layer := by
    refine List.filter_eq_self.mpr fun d hd => ?_
    obtain ⟨p, own⟩ := exists_isOf hd
    have differ : "position" ≠ d.1 := by
      intro same
      have owned := owner?_of_mem_names d.1 (isOf_iff.mp own)
      rw [← same] at owned
      have free : owner? "position" = none := by decide
      rw [free] at owned
      cases owned
    rw [decide_eq_false differ]
    rfl
  unfold placed
  split
  next none => rw [none]; rfl
  next => exact kept

theorem filter_narrowItems (e : Element) (others : List Viewport) (width : UInt32) :
    ((others.flatMap (narrowItems e)).flatMap
      (·.declarationsFor (selector e.id) width.toNat)).filter
        (fun d => !decide ("position" = d.1)) =
      ((others.filter fun v => decide (width ≤ v.breakpoint)).map (baseOf e)).flatMap
        declarations := by
  induction others with
  | nil => rfl
  | cons v others ih =>
    rw [List.flatMap_cons, List.flatMap_append, List.filter_append, ih,
      declarationsFor_narrowItems, List.filter_cons]
    by_cases applies : width ≤ v.breakpoint
    · simp only [applies, if_true, decide_true, filter_placed, List.map_cons, List.flatMap_cons]
    · simp only [applies, if_false, decide_false, Bool.false_eq_true, List.filter_nil,
        List.nil_append]

/-- The styles of a node show the layers that apply, one over the other. -/
theorem shownBase_eq (e : Element) (viewports : List Viewport) (width : UInt32) :
    shownBase e viewports width =
      Dict.ofList ((appliedLayers e viewports width).flatMap declarations) := by
  unfold shownBase shown
  -- What is erased are the placings, since no property is declared under their name.
  rw [Dict.erase_ofList]
  congr 1
  cases viewports with
  | nil => rfl
  | cons reference others =>
    have front : ((viewportRules e reference).map Item.rule).flatMap
        (·.declarationsFor (selector e.id) width.toNat) = placed (baseOf e reference) := by
      rw [List.flatMap_map]
      exact declarationsFor_viewportRules e reference
    unfold styleItems appliedLayers
    rw [List.flatMap_append, List.filter_append, front, filter_placed, filter_narrowItems,
      List.flatMap_cons]

/-! ## Showing what is resolved -/

/-- On a screen that is as wide as a viewport, the styles of a node show what it is resolved to for
that viewport. -/
def ShowsResolved (n : Node) (viewports : List Viewport) (t : Viewport) : Prop :=
  shownBase n.element viewports t.width = declared (resolve n t viewports).base

instance (n : Node) (viewports : List Viewport) (t : Viewport) :
    Decidable (ShowsResolved n viewports t) := inferInstanceAs (Decidable (_ = _))

/-- A node with styles for a viewport is resolved to these over the styles of the reference. -/
theorem resolve_of_own {n : Node} {reference t : Viewport} {others : List Viewport}
    {own : Appearance} (entry : n.element.styles.get? t.name = some own) :
    (resolve n t (reference :: others)).base = own.base.atop (baseOf n.element reference) := by
  rw [Style.resolve_of_own entry]
  rfl

/-- Layers one over the other declare what a single one does exactly when they do for each property.
-/
theorem ofList_flatMap_eq_iff (layers : List Layer) (layer : Layer) :
    Dict.ofList (layers.flatMap declarations) = declared layer ↔
      ∀ p, Dict.ofList (layers.flatMap (declarationsOf · p)) = declaredOf layer p := by
  have owned : ∀ d ∈ layers.flatMap declarations, ∃ p, isOf p d.1 = true := by
    intro d hd
    obtain ⟨_, -, here⟩ := List.mem_flatMap.mp hd
    exact exists_isOf here
  unfold declared declaredOf
  rw [ofList_eq_iff owned fun d hd => exists_isOf hd]
  simp only [List.filter_flatMap, filter_declarations]

/-- What comes from a list where only one place gives anything comes from that place. -/
theorem flatMap_eq_of_only {α β : Type} {l : List α} {a : α} {f : α → List β} (once : l.Nodup)
    (mem : a ∈ l) (only : ∀ b ∈ l, b ≠ a → f b = []) : l.flatMap f = f a := by
  induction l with
  | nil => cases mem
  | cons b rest ih =>
    obtain ⟨first, rest_once⟩ := List.nodup_cons.mp once
    rw [List.flatMap_cons]
    rcases List.mem_cons.mp mem with rfl | there
    · have nothing : rest.flatMap f = [] := List.flatMap_eq_nil_iff.mpr fun c hc =>
        only c (List.mem_cons_of_mem _ hc) fun same => first (same ▸ hc)
      rw [nothing, List.append_nil]
    · have other : b ≠ a := fun same => first (same ▸ there)
      rw [only b List.mem_cons_self other, List.nil_append]
      exact ih rest_once there fun c hc => only c (List.mem_cons_of_mem _ hc)

/-- Where no other styles apply, the layers are those of the reference and of the viewport. -/
theorem flatMap_appliedLayers {e : Element} {reference t : Viewport} {others : List Viewport}
    {own : Appearance} (once : others.Nodup) (listed : t ∈ others)
    (entry : e.styles.get? t.name = some own) (applies : t.width ≤ t.breakpoint)
    (alone : ∀ v ∈ others, v ≠ t → t.width ≤ v.breakpoint → declarations (baseOf e v) = [])
    (p : Property) :
    (appliedLayers e (reference :: others) t.width).flatMap (declarationsOf · p) =
      declarationsOf (baseOf e reference) p ++ declarationsOf own.base p := by
  have mine : baseOf e t = own.base := by
    unfold baseOf
    rw [entry]
    rfl
  unfold appliedLayers
  rw [List.flatMap_cons, List.flatMap_map]
  refine congrArg _ ?_
  rw [flatMap_eq_of_only (once.filter _)
    (List.mem_filter.mpr ⟨listed, decide_eq_true applies⟩), mine]
  intro v hv other
  obtain ⟨there, within⟩ := List.mem_filter.mp hv
  rw [← filter_declarations, alone v there other (of_decide_eq_true within)]
  rfl

/-- A node with styles for the two smaller built-in viewports. -/
def staggered : Node :=
  ((Node.bare "n" .text "Text").withStyles "Tablet"
    { base := Dict.ofList [(.top, "5px")] }).withStyles "Mobile"
    { base := Dict.ofList [(.left, "1px")] }

/-- Own styles for a viewport are not enough: a small screen also shows the styles for a middle one,
which the node is not resolved to. -/
theorem not_forall_showsResolved :
    ¬ ∀ (n : Node) (viewports : List Viewport) (t : Viewport), viewports ≠ [] →
      (viewports.map (·.name)).Nodup → t ∈ viewports → viewports.head? ≠ some t →
      (n.element.styles.get? t.name).isSome = true → ShowsResolved n viewports t := by
  intro all
  have shows := all staggered Viewport.builtIn Viewport.mobile (by decide) (by decide) (by decide)
    (by decide) (by decide)
  have differs : ¬ ShowsResolved staggered Viewport.builtIn Viewport.mobile := by decide
  exact differs shows

/-- When the styles of a node show what it is resolved to, for a viewport that it has own styles
for. First, in general: the layers that apply must agree with the resolved one by property.
Second, where the own styles apply at the width and no others do besides those of the reference:
every property must be carried. -/
theorem showsResolved_iff {n : Node} {reference t : Viewport} {others : List Viewport}
    {own : Appearance} (names : ((reference :: others).map (·.name)).Nodup) (listed : t ∈ others)
    (entry : n.element.styles.get? t.name = some own) :
    (ShowsResolved n (reference :: others) t ↔ ∀ p,
      Dict.ofList ((appliedLayers n.element (reference :: others) t.width).flatMap
        (declarationsOf · p)) = declaredOf (own.base.atop (baseOf n.element reference)) p) ∧
    (t.width ≤ t.breakpoint →
      (∀ v ∈ others, v ≠ t → t.width ≤ v.breakpoint →
        declarations (baseOf n.element v) = []) →
      (ShowsResolved n (reference :: others) t ↔
        ∀ p, Carried (baseOf n.element reference) own.base p)) := by
  have general : ShowsResolved n (reference :: others) t ↔ ∀ p,
      Dict.ofList ((appliedLayers n.element (reference :: others) t.width).flatMap
        (declarationsOf · p)) = declaredOf (own.base.atop (baseOf n.element reference)) p := by
    unfold ShowsResolved
    rw [shownBase_eq, resolve_of_own entry, ofList_flatMap_eq_iff]
  refine ⟨general, fun applies alone => ?_⟩
  have once : others.Nodup := (List.nodup_cons.mp names).2.of_map _
  rw [general]
  refine forall_congr' fun p => ?_
  rw [flatMap_appliedLayers once listed entry applies alone, ofList_append_eq_iff]

/-- A node whose only own styles are for the smallest viewport. -/
theorem showsResolved_iff_mobile :
    let n := (Node.bare "n" .text "Text").withStyles "Mobile" { base := Dict.ofList [(.left, "1px")] }
    let own : Appearance := { base := Dict.ofList [(.left, "1px")] }
    (Viewport.builtIn.map (·.name)).Nodup ∧ Viewport.mobile ∈ [Viewport.tablet, Viewport.mobile] ∧
      n.element.styles.get? "Mobile" = some own ∧
      (ShowsResolved n Viewport.builtIn Viewport.mobile ↔
        ∀ p, Carried (baseOf n.element Viewport.desktop) own.base p) := by
  intro n own
  have names : (Viewport.builtIn.map (·.name)).Nodup := by decide
  have listed : Viewport.mobile ∈ [Viewport.tablet, Viewport.mobile] := by decide
  have entry : n.element.styles.get? "Mobile" = some own := by decide
  exact ⟨names, listed, entry,
    (showsResolved_iff names listed entry).2 (by decide) (by decide)⟩

end PageStudio.Css
