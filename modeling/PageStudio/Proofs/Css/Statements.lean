import PageStudio.Proofs.Css.NodeItems
import PageStudio.Proofs.Css.Values

/-!
# What the style sheet of a layout is read as

The statements that a layout is meant to have, told node by node, and that the text of its style
sheet is read as exactly these (`statements?_layoutText`): whatever the values of its styles are,
none of them begins, ends or joins a rule or a declaration.
-/

namespace PageStudio.Css

open Style

/-! ## The intended statements -/

/-- Declarations between braces. -/
def ruleBlock (selector : String) (ds : List Declaration) : Statement :=
  .block selector (ds.map fun d => .declaration d.1 d.2)

/-- The rules of an appearance: one that places the node and has its base declarations, and one for
the time that a pointer rests on it, each where there are any. -/
def appearanceStatements (id : String) (a : Appearance) : List Statement :=
  (if (declarations a.base).isEmpty then []
    else [ruleBlock ("#" ++ id) (("position", "absolute") :: declarations a.base)]) ++
  match a.hover with
  | none => []
  | some hover =>
    if (declarations hover).isEmpty then []
    else [ruleBlock ("#" ++ id ++ ":hover") (declarations hover)]

/-- The statements of a node for the viewport at a place of the list: nothing where the node has no
styles for it, the rules themselves for the first viewport, and one block around them, where there
are any, for every other one. -/
def viewportStatements (e : Element) (v : Viewport) (place : Nat) : List Statement :=
  match e.styles.get? v.name with
  | none => []
  | some a =>
    if place = 0 then appearanceStatements e.id a
    else if (appearanceStatements e.id a).isEmpty then []
    else [.block ("@media (max-width: " ++ digits v.breakpoint.toNat ++ "px)")
      (appearanceStatements e.id a)]

/-- The statements of a node: those for each viewport in turn, then those that its kind needs. -/
def elementStatements (viewports : List Viewport) (e : Element) : List Statement :=
  (viewports.zipIdx.flatMap fun (v, place) => viewportStatements e v place) ++
    (kindRules e).map fun r => ruleBlock r.selector r.declarations

/-- The statements of a layout: those of each node, and the turning of spinners if there are any. -/
def layoutStatements (layout : List Node) (viewports : List Viewport) : List Statement :=
  ((Node.forestNodes layout).flatMap fun n => elementStatements viewports n.element) ++
    if (Node.forestNodes layout).any fun n => n.kind == .spinner then
      [.block "@keyframes spin" [ruleBlock "to" [("transform", "rotate(360deg)")]]]
    else []

/-! ## All rules -/

variable {e : Element} {v : Viewport} {layout : List Node} {viewports : List Viewport}

/-- The rules of a node, whatever the widths that they apply at. -/
def nodeRules (viewports : List Viewport) (e : Element) : List Rule :=
  viewports.flatMap (viewportRules e) ++ kindRules e

theorem flatMap_rules_map (rules : List Rule) : (rules.map Item.rule).flatMap Item.rules = rules :=
  (List.flatMap_map _ _ _).trans (List.flatMap_singleton' rules)

theorem flatMap_rules_narrowItems (e : Element) (v : Viewport) :
    (narrowItems e v).flatMap Item.rules = viewportRules e v := by
  unfold narrowItems
  cases viewportRules e v with
  | nil => rfl
  | cons r rest => exact List.append_nil _

theorem flatMap_rules_elementItems (viewports : List Viewport) (e : Element) :
    (elementItems viewports e).flatMap Item.rules = nodeRules viewports e := by
  rw [elementItems, List.flatMap_append, flatMap_rules_map]
  refine congrArg (· ++ kindRules e) ?_
  cases viewports with
  | nil => rfl
  | cons reference others =>
    rw [styleItems, List.flatMap_append, flatMap_rules_map, List.flatMap_assoc, List.flatMap_cons]
    simp only [flatMap_rules_narrowItems]

/-- The rules of a layout are those of its nodes and, behind them, that of spinners. -/
theorem flatMap_rules_layoutSheet (layout : List Node) (viewports : List Viewport) :
    (layoutSheet layout viewports).flatMap Item.rules =
      ((Node.forestNodes layout).flatMap fun n => nodeRules viewports n.element) ++
        if anySpinner layout then spin.rules else [] := by
  rw [layoutSheet, List.flatMap_append, forestItems_eq, List.flatMap_assoc]
  simp only [flatMap_rules_elementItems]
  refine congrArg _ ?_
  split
  · exact List.append_nil _
  · rfl

/-- A rule of a layout is one of a node or, if there are spinners, that of spinners. -/
theorem exists_rules_layoutSheet_iff {P : Rule → Prop} :
    (∃ i ∈ layoutSheet layout viewports, ∃ r ∈ i.rules, P r) ↔
      (∃ n ∈ Node.forestNodes layout, ∃ r ∈ nodeRules viewports n.element, P r) ∨
        anySpinner layout = true ∧ ∃ r ∈ spin.rules, P r := by
  have flat : ∀ {α : Type} (l : List α) (f : α → List Rule),
      (∃ a ∈ l, ∃ r ∈ f a, P r) ↔ ∃ r ∈ l.flatMap f, P r := by
    intro α l f
    constructor
    · rintro ⟨a, mem, r, inside, holds⟩
      exact ⟨r, List.mem_flatMap.mpr ⟨a, mem, inside⟩, holds⟩
    · rintro ⟨r, mem, holds⟩
      obtain ⟨a, here, inside⟩ := List.mem_flatMap.mp mem
      exact ⟨a, here, r, inside, holds⟩
  rw [flat, flat, flatMap_rules_layoutSheet]
  simp only [List.mem_append, or_and_right, exists_or]
  refine or_congr_right ?_
  cases anySpinner layout with
  | false => exact ⟨nofun, nofun⟩
  | true => exact ⟨fun last => ⟨rfl, last⟩, And.right⟩

/-- What holds for the rules of every node and for that of spinners holds for all rules. -/
theorem forall_rules_layoutSheet {P : Rule → Prop}
    (nodes : ∀ n ∈ Node.forestNodes layout, ∀ r ∈ nodeRules viewports n.element, P r)
    (spinner : ∀ r ∈ spin.rules, P r) :
    ∀ i ∈ layoutSheet layout viewports, ∀ r ∈ i.rules, P r := by
  intro i mem r inside
  rcases exists_rules_layoutSheet_iff.mp ⟨i, mem, r, inside, rfl⟩ with
    ⟨n, node, _, mine, rfl⟩ | ⟨-, _, last, rfl⟩
  · exact nodes n node _ mine
  · exact spinner _ last

/-- The only animation is that of spinners. -/
theorem name_of_mem_layoutSheet {i : Item} (mem : i ∈ layoutSheet layout viewports) :
    i.name = "" ∨ i.name = "spin" := by
  have rules : ∀ {l : List Rule}, ∀ i ∈ l.map Item.rule, i.name = "" := fun {l} =>
    List.forall_mem_map.mpr fun _ _ => rfl
  have narrow : ∀ e v, ∀ i ∈ narrowItems e v, i.name = "" := by
    intro e v i mem
    unfold narrowItems at mem
    split at mem
    · cases mem
    · rw [List.mem_singleton.mp mem]
      rfl
  have styles : ∀ e, ∀ i ∈ styleItems e viewports, i.name = "" := by
    intro e
    cases viewports with
    | nil => nofun
    | cons reference others =>
      refine List.forall_mem_append.mpr ⟨rules, fun i inside => ?_⟩
      obtain ⟨v, -, here⟩ := List.mem_flatMap.mp inside
      exact narrow e v i here
  rcases List.mem_append.mp mem with nodes | last
  · rw [forestItems_eq] at nodes
    obtain ⟨n, -, here⟩ := List.mem_flatMap.mp nodes
    exact .inl (List.forall_mem_append.mpr ⟨styles n.element, rules⟩ i here)
  · split at last
    · rw [List.mem_singleton.mp last]
      exact .inr rfl
    · cases last

theorem forall_names_layoutSheet {P : String → Prop} (unnamed : P "") (spinner : P "spin") :
    ∀ i ∈ layoutSheet layout viewports, P i.name := by
  intro i mem
  rcases name_of_mem_layoutSheet mem with none | spin
  · exact none ▸ unnamed
  · exact spin ▸ spinner

/-! ## One node -/

theorem map_statement_appearanceRules (id : String) (a : Appearance) :
    (appearanceRules id a).map Rule.statement = appearanceStatements id a := by
  have base : (baseRule id a.base).map Rule.statement = if (declarations a.base).isEmpty then []
      else [ruleBlock ("#" ++ id) (("position", "absolute") :: declarations a.base)] := by
    unfold baseRule
    cases declarations a.base with
    | nil => rfl
    | cons d ds => rfl
  have hover : ∀ layer, (hoverRule id layer).map Rule.statement =
      if (declarations layer).isEmpty then []
      else [ruleBlock ("#" ++ id ++ ":hover") (declarations layer)] := by
    intro layer
    unfold hoverRule
    cases declarations layer with
    | nil => rfl
    | cons d ds => rfl
  unfold appearanceRules appearanceStatements
  rw [List.map_append, base]
  cases a.hover with
  | none => rfl
  | some layer => exact congrArg _ (hover layer)

/-- The rules for the reference viewport are read as they are. -/
theorem map_statement_viewportRules (e : Element) (v : Viewport) :
    (viewportRules e v).map Rule.statement = viewportStatements e v 0 := by
  unfold viewportRules viewportStatements
  cases e.styles.get? v.name with
  | none => rfl
  | some a => exact map_statement_appearanceRules e.id a

/-- The rules for another viewport are read as one block, where there are any. -/
theorem map_statement_narrowItems (e : Element) (v : Viewport) (place : Nat) :
    (narrowItems e v).map Item.statement = viewportStatements e v (place + 1) := by
  unfold narrowItems viewportStatements viewportRules
  cases e.styles.get? v.name with
  | none => rfl
  | some a =>
    simp only [Option.map_some, Option.getD_some, Nat.add_one_ne_zero, if_false,
      ← map_statement_appearanceRules]
    cases appearanceRules e.id a with
    | nil => rfl
    | cons r rest => rfl

theorem map_statement_rules (rules : List Rule) :
    (rules.map Item.rule).map Item.statement = rules.map Rule.statement :=
  List.map_map

theorem map_statement_styleItems (e : Element) (viewports : List Viewport) :
    (styleItems e viewports).map Item.statement =
      viewports.zipIdx.flatMap fun (v, place) => viewportStatements e v place := by
  -- Behind the reference the place in the list does not matter any more.
  have others : ∀ (l : List Viewport) (n : Nat), (l.flatMap (narrowItems e)).map Item.statement =
      (l.zipIdx (n + 1)).flatMap fun (v, place) => viewportStatements e v place := by
    intro l
    induction l with
    | nil => exact fun _ => rfl
    | cons v l ih =>
      intro n
      rw [List.flatMap_cons, List.map_append, List.zipIdx_cons, List.flatMap_cons,
        map_statement_narrowItems e v n, ih]
  cases viewports with
  | nil => rfl
  | cons reference l =>
    rw [styleItems, List.map_append, map_statement_rules, map_statement_viewportRules, others l 0,
      List.zipIdx_cons, List.flatMap_cons]

theorem map_statement_elementItems (viewports : List Viewport) (e : Element) :
    (elementItems viewports e).map Item.statement = elementStatements viewports e := by
  rw [elementItems, List.map_append, map_statement_styleItems, map_statement_rules]
  rfl

/-! ## The whole layout -/

theorem legible_layoutSheet (ids : ∀ id ∈ Node.forestIds layout, Plain id) :
    ∀ i ∈ layoutSheet layout viewports, ∀ r ∈ i.rules, LegibleRule r := by
  refine forall_rules_layoutSheet (fun n mem => ?_) ?_
  · have plain : Plain n.element.id := ids _ (Node.id_mem_forestIds mem)
    refine List.forall_mem_append.mpr ⟨fun r inside => ?_, legible_kindRules plain⟩
    obtain ⟨v, -, here⟩ := List.mem_flatMap.mp inside
    exact legible_viewportRules plain v r here
  · have step : LegiblePrelude "to" := ⟨by decide, 't', ['o'], rfl, rfl⟩
    exact List.forall_mem_singleton.mpr ⟨step, by dsimp only; decide⟩

theorem map_statement_layoutSheet (layout : List Node) (viewports : List Viewport) :
    (layoutSheet layout viewports).map Item.statement = layoutStatements layout viewports := by
  have nodes : (forestItems viewports layout).map Item.statement =
      (Node.forestNodes layout).flatMap fun n => elementStatements viewports n.element := by
    rw [forestItems_eq, List.map_flatMap]
    simp only [map_statement_elementItems]
  rw [layoutSheet, List.map_append, nodes, anySpinner_eq, layoutStatements]
  split
  · rfl
  · rfl

/-- Read by nothing but its braces and semicolons, the style sheet of a layout has the intended
statements and no others. Only ids of nodes stand in it unchecked. -/
theorem statements?_layoutText (layout : List Node) (viewports : List Viewport)
    (ids : ∀ id ∈ Node.forestIds layout, Plain id) :
    statements? (layoutText layout viewports) = some (layoutStatements layout viewports) := by
  have names : ∀ i ∈ layoutSheet layout viewports, Plain i.name :=
    forall_names_layoutSheet (by decide) (by decide)
  rw [layoutText, statements?_text names (legible_layoutSheet ids), map_statement_layoutSheet]

/-- A spinner with values that try to end what they stand in. -/
def unruly : Node := .mk
  { id := "t", kind := .spinner, name := "T", styles := Dict.ofList [
    ("Desktop",
      { base := Dict.ofList [(.top, "1px; \x7d body \x7b top: 0"), (.left, "#1 : 2"),
          (.border, "dashed"), (.borderColor, "#\x7d")],
        hover := some (Dict.ofList [(.width, "w-full")]) }),
    ("Mobile", { base := Dict.ofList [(.left, "calc(1px)")] })] } []

theorem statements?_layoutText_unruly :
    (∀ id ∈ Node.forestIds [unruly], Plain id) ∧
    statements? (layoutText [unruly] Viewport.builtIn) = some [
      .block "#t" [.declaration "position" "absolute", .declaration "left" "#1 : 2",
        .declaration "border" "1px solid #6b7280", .declaration "border-style" "dashed"],
      .block "#t:hover" [.declaration "width" "100%"],
      .block "@media (max-width: 767px)" [
        .block "#t" [.declaration "position" "absolute", .declaration "left" "calc(1px)"]],
      .block "#t" [.declaration "border" "4px solid #4b5563",
        .declaration "border-top-color" "#3b82f6", .declaration "border-radius" "50%",
        .declaration "animation" "spin 1s linear infinite"],
      .block "@keyframes spin" [.block "to" [.declaration "transform" "rotate(360deg)"]]] :=
  have plain : ∀ id ∈ Node.forestIds [unruly], Plain id := by decide
  ⟨plain, (statements?_layoutText [unruly] Viewport.builtIn plain).trans rfl⟩

end PageStudio.Css
