import PageStudio.Proofs.Css.Statements
import PageStudio.Proofs.Html.Ids
import PageStudio.Proofs.Node.Everywhere

/-!
# What is written after a removal

A style sheet is written node by node in reading order, and a removal cuts one run of nodes out of
that order (`Forest.TakesOut.cut`), wherever the node stands. So it cuts one run of text out of the
style sheet, and only the end, which tells spinners how to turn, depends on what is left. The
markup of what is left has none of the ids that are gone.

## Main statements

* `Css.layoutText_eq`: the text of a style sheet, node by node.
* `layoutText_remove`: the style sheet and the markup of a forest after a removal.
-/

namespace PageStudio

/-! ## The text of a style sheet -/

namespace Css

open Style

variable {viewports : List Viewport}

/-- The texts of the rules of elements, one behind another. -/
def elementsText (viewports : List Viewport) (es : List Element) : String :=
  concat (es.map fun e => text (elementItems viewports e))

/-- The end of the style sheet of a layout: the turning of spinners, if there is a spinner at any
depth. -/
def spinText (layout : List Node) : String :=
  if ∃ n ∈ Node.forestNodes layout, n.kind = .spinner then spin.text else ""

theorem text_flatMap {α : Type} (l : List α) (f : α → Sheet) :
    text (l.flatMap f) = concat (l.map fun a => text (f a)) := by
  induction l with
  | nil => rfl
  | cons a l ih =>
    rw [List.flatMap_cons, text_append, ih]
    rfl

theorem elementsText_append (viewports : List Viewport) (es es' : List Element) :
    elementsText viewports (es ++ es') = elementsText viewports es ++ elementsText viewports es' := by
  rw [elementsText, List.map_append, concat_append]
  rfl

theorem text_nodeItems (viewports : List Viewport) (n : Node) :
    text (nodeItems viewports n) = elementsText viewports n.elements := by
  rw [nodeItems_eq, text_flatMap, elementsText, Node.elements, List.map_map]
  rfl

theorem text_forestItems (viewports : List Viewport) (forest : List Node) :
    text (forestItems viewports forest) = elementsText viewports (Node.forestElements forest) := by
  rw [forestItems_eq, text_flatMap, elementsText, Node.forestElements, List.map_map]
  rfl

/-- The style sheet of a layout is written node by node, and the turning of spinners behind all. -/
theorem layoutText_eq (layout : List Node) (viewports : List Viewport) :
    layoutText layout viewports =
      elementsText viewports (Node.forestElements layout) ++ spinText layout := by
  have spins : anySpinner layout = true ↔ ∃ n ∈ Node.forestNodes layout, n.kind = .spinner := by
    rw [anySpinner_eq, List.any_eq_true]
    simp only [beq_iff_eq]
  have last : text (if anySpinner layout then [spin] else []) = spinText layout := by
    unfold spinText
    simp only [spins]
    split
    · exact String.append_empty
    · rfl
  rw [layoutText, layoutSheet, text_append, text_forestItems, last]

/-- The style sheets before and after a removal: that of the removed node and of all nodes inside it
is cut out, those of the other nodes stay as they are and in their order, and the turning of spinners
is at the end if there is one among them. -/
theorem layoutText_of_takesOut {a : Node} {forest forest' : List Node}
    (taken : Forest.TakesOut a forest forest') :
    ∃ front back, Node.forestElements forest = front ++ (a.elements ++ back) ∧
      Node.forestElements forest' = front ++ back ∧ ∀ viewports,
        layoutText forest viewports = elementsText viewports front ++
          (text (nodeItems viewports a) ++ (elementsText viewports back ++ spinText forest)) ∧
        layoutText forest' viewports = elementsText viewports front ++
          (elementsText viewports back ++ spinText forest') := by
  obtain ⟨front, back, old, new⟩ := taken.cut
  refine ⟨front, back, old, new, fun viewports => ⟨?_, ?_⟩⟩
  · rw [layoutText_eq, old, elementsText_append, elementsText_append, text_nodeItems]
    simp only [String.append_assoc]
  · rw [layoutText_eq, new, elementsText_append, String.append_assoc]

end Css

/-! ## Removals -/

namespace Site

open Html

/-- A removal of a node from a forest with distinct ids cuts one run out of its style sheet, the text
of the node and of all nodes inside it. The texts of all other nodes stay as they are and in their
order, and the turning of spinners stays at the end if there is still a spinner at any depth. Where
no event is named like the id, no element of the markup has an id of a removed node. -/
theorem layoutText_remove {forest : List Node} (distinct : (Node.forestIds forest).Nodup)
    {id : String} (mem : id ∈ Node.forestIds forest) :
    ∃ removed ∈ Node.forestNodes forest, removed.id = id ∧
      Forest.remove? forest id = some (Forest.remove forest id, removed) ∧
      (∃ front back, Node.forestElements forest = front ++ (removed.elements ++ back) ∧
        Node.forestElements (Forest.remove forest id) = front ++ back ∧ ∀ viewports,
          Css.layoutText forest viewports = Css.elementsText viewports front ++
            (Css.text (Css.nodeItems viewports removed) ++
              (Css.elementsText viewports back ++ Css.spinText forest)) ∧
          Css.layoutText (Forest.remove forest id) viewports = Css.elementsText viewports front ++
            (Css.elementsText viewports back ++ Css.spinText (Forest.remove forest id))) ∧
      ((∀ n ∈ Node.forestNodes (Forest.remove forest id), LeavesId n.element) → ∀ mode,
        (∀ i ∈ removed.subtreeIds,
          i ∉ idsOf (blocksMarks (forestBlocks mode (Forest.remove forest id)))) ∧
        ∀ format : Format, Plain format.indent.toList →
          ∃ ts, read? (layoutText mode format (Forest.remove forest id)) = some ts ∧
            ∀ i ∈ removed.subtreeIds, i ∉ idsOf ts) := by
  obtain ⟨removed, found⟩ := Option.isSome_iff_exists.mp (Forest.isSome_find?_iff.mpr mem)
  have taken : Forest.remove? forest id = some (Forest.remove forest id, removed) := by
    rw [Forest.remove?_eq distinct, Forest.remove_eq distinct, found]
    rfl
  have place : Forest.TakesOut removed forest (Forest.remove forest id) :=
    Forest.takesOut_remove? taken
  refine ⟨removed, Forest.mem_of_find? found, Forest.id_of_find? found, taken,
    Css.layoutText_of_takesOut place, ?_⟩
  intro leaves mode
  have gone : ∀ i ∈ removed.subtreeIds,
      i ∉ idsOf (blocksMarks (forestBlocks mode (Forest.remove forest id))) := by
    intro i inside written
    rw [idsOf_forestBlocks_of_leaves mode leaves] at written
    have left := (sublist_forestIds_forestWrittenIds _).subset written
    exact place.not_mem distinct i inside left
  refine ⟨gone, fun format plain => ?_⟩
  obtain ⟨ts, read, ids⟩ := exists_idsOf_layoutText mode format plain (Forest.remove forest id)
  exact ⟨ts, read, ids ▸ gone⟩

/-- A card with a spinner in it, between another spinner and a text. -/
def spinningCard : Node :=
  .mk { id := "card", kind := .card, name := "", styles := Dict.ofList [
    ("Mobile", { base := Dict.ofList [(.left, "2px")] })] } [.bare "wheel" .spinner ""]

/-- The rules of the card and of the spinner in it. -/
def cardText : String :=
  "@media (max-width: 767px) \x7b\n#card \x7b position: absolute; left: 2px; \x7d\n\x7d\n" ++
  "#wheel \x7b border: 4px solid #4b5563; border-top-color: #3b82f6; border-radius: 50%; " ++
  "animation: spin 1s linear infinite; \x7d\n"

/-- A page with a card in the middle. -/
def spinningPage : List Node :=
  [.mk { id := "page", kind := .container, name := "", styles := Dict.ofList [
      ("Desktop", { base := Dict.ofList [(.width, "w-full")] })] }
    [.bare "first" .spinner "", spinningCard,
     .mk
      { id := "last", kind := .text, name := "", events := Dict.empty.insert "onclick" "go()",
        styles := Dict.ofList [("Mobile", { base := Dict.ofList [(.top, "1px")] })] } []]]

theorem layoutText_remove_spinning :
    (∃ front back,
      Css.layoutText spinningPage Style.Viewport.builtIn = front ++ (cardText ++ back) ∧
      Css.layoutText (Forest.remove spinningPage "card") Style.Viewport.builtIn =
        front ++ back) ∧
    ∃ ts, read? (layoutText .singlePage {} (Forest.remove spinningPage "card")) = some ts ∧
      "card" ∉ idsOf ts ∧ "wheel" ∉ idsOf ts := by
  have distinct : (Node.forestIds spinningPage).Nodup := by decide
  have mem : "card" ∈ Node.forestIds spinningPage := by decide
  obtain ⟨removed, -, -, taken, ⟨front, back, -, -, texts⟩, ids⟩ := layoutText_remove distinct mem
  obtain rfl : removed = spinningCard :=
    (Prod.mk.inj (Option.some.inj (taken.symm.trans rfl))).2
  have run : Css.text (Css.nodeItems Style.Viewport.builtIn spinningCard) = cardText := by
    decide +kernel
  -- The first spinner is left.
  have spins : Css.spinText spinningPage = Css.spinText (Forest.remove spinningPage "card") := by
    decide
  obtain ⟨before, after⟩ := texts Style.Viewport.builtIn
  obtain ⟨ts, read, gone⟩ := (ids (by decide) .singlePage).2 {} (by decide)
  refine ⟨⟨_, _, before.trans ?_, after⟩, ts, read, gone _ (by decide), gone _ (by decide)⟩
  rw [run, spins]

end Site

end PageStudio
