import PageStudio.Proofs.Html.Links

/-!
# Layouts in both link modes

How links to pages are written has a say in one attribute: the address of the anchor around a node
with such a link. A layout is written in every mode with the lines of one outline, which leaves
these addresses open.

## Main statements

* `exists_outlines_forestBlocks`: the outline of a layout.
* `layoutText_linkModes`: the texts of a layout in both modes are the same but for the addresses.
-/

namespace PageStudio.Html

/-! ## Outlines -/

/-- A line whose address may be left open. -/
inductive OpenLine where
  | text (s : String)
  /-- The opening tag of an anchor that leads to a page. -/
  | anchor (page : String)

/-- The line with addresses for pages. -/
def OpenLine.fill (address : String → String) : OpenLine → String
  | .text s => s
  | .anchor page => openTag "a" [.value "href" (address page)]

/-- The page that a line leads to. -/
def OpenLine.page? : OpenLine → Option String
  | .text _ => none
  | .anchor page => some page

@[simp] theorem OpenLine.page?_text (s : String) : (OpenLine.text s).page? = none := rfl

@[simp] theorem OpenLine.page?_anchor (page : String) :
    (OpenLine.anchor page).page? = some page := rfl

/-- A line without a page is the same whatever addresses pages have. -/
theorem OpenLine.fill_eq_of_page?_eq_none {l : OpenLine} (closed : l.page? = none)
    (address address' : String → String) : l.fill address = l.fill address' := by
  cases l with
  | text s => rfl
  | anchor page => cases closed

/-- Blocks in which the addresses of pages are left open. -/
inductive Outline where
  | block (b : Block)
  | group (tag : String) (attributes : List Attribute) (content : List Outline)
  /-- A block inside an anchor that leads to a page. -/
  | anchor (page : String) (content : Outline)

mutual
/-- The block with addresses for pages. -/
def Outline.fill (address : String → String) : Outline → Block
  | .block b => b
  | .group tag attributes content => .group tag attributes (fillAll address content)
  | .anchor page content => .group "a" [.value "href" (address page)] [content.fill address]

/-- The blocks with addresses for pages. -/
def fillAll (address : String → String) : List Outline → List Block
  | [] => []
  | o :: rest => o.fill address :: fillAll address rest
end

mutual
/-- The pages that are left open, in order. -/
def Outline.pages : Outline → List String
  | .block _ => []
  | .group _ _ content => pagesOf content
  | .anchor page content => page :: content.pages

/-- The pages that are left open in outlines, in order. -/
def pagesOf : List Outline → List String
  | [] => []
  | o :: rest => o.pages ++ pagesOf rest
end

mutual
/-- The lines of an outline with their levels. -/
def Outline.lines (depth : Nat) : Outline → List (Nat × OpenLine)
  | .block b => (b.lines depth).map fun l => (l.1, .text l.2)
  | .group tag attributes content =>
    (depth, .text (openTag tag attributes)) :: openLinesOf (depth + 1) content ++
      [(depth, .text (closeTag tag))]
  | .anchor page content =>
    (depth, .anchor page) :: content.lines (depth + 1) ++ [(depth, .text (closeTag "a"))]

/-- The lines of outlines one below another. -/
def openLinesOf (depth : Nat) : List Outline → List (Nat × OpenLine)
  | [] => []
  | o :: rest => o.lines depth ++ openLinesOf depth rest
end

/-! ### What is filled in -/

section

variable (address : String → String)

mutual
theorem Outline.lines_fill (depth : Nat) : (o : Outline) →
    (o.fill address).lines depth = (o.lines depth).map fun l => (l.1, l.2.fill address)
  | .block b => by
    have same : (b.lines depth).map (fun l => (l.1, (OpenLine.text l.2).fill address)) =
        b.lines depth := List.map_id _
    rw [Outline.fill, Outline.lines, List.map_map]
    exact same.symm
  | .group tag attributes content => by
    rw [Outline.fill, Outline.lines, Block.lines, linesOf_fillAll (depth + 1) content,
      List.map_append, List.map_cons]
    rfl
  | .anchor page content => by
    rw [Outline.fill, Outline.lines, Block.lines, linesOf, linesOf, List.append_nil,
      Outline.lines_fill (depth + 1) content, List.map_append, List.map_cons]
    rfl

/-- The lines of filled outlines are the filled lines. -/
theorem linesOf_fillAll (depth : Nat) : (os : List Outline) →
    linesOf depth (fillAll address os) =
      (openLinesOf depth os).map fun l => (l.1, l.2.fill address)
  | [] => rfl
  | o :: rest => by
    rw [fillAll, linesOf, openLinesOf, List.map_append, Outline.lines_fill depth o,
      linesOf_fillAll depth rest]
end

end

mutual
theorem Outline.filterMap_page?_lines (depth : Nat) : (o : Outline) →
    (o.lines depth).filterMap (fun l => l.2.page?) = o.pages
  | .block b => by
    rw [Outline.lines, List.filterMap_map]
    exact List.filterMap_eq_nil_iff.mpr fun _ _ => rfl
  | .group tag attributes content => by
    have inner := filterMap_page?_openLinesOf (depth + 1) content
    simp only [Outline.lines, Outline.pages, List.cons_append, List.filterMap_cons,
      List.filterMap_append, List.filterMap_nil, List.append_nil, OpenLine.page?_text,
      inner]
  | .anchor page content => by
    have inner := Outline.filterMap_page?_lines (depth + 1) content
    simp only [Outline.lines, Outline.pages, List.cons_append, List.filterMap_cons,
      List.filterMap_append, List.filterMap_nil, List.append_nil, OpenLine.page?_text,
      OpenLine.page?_anchor, inner]

/-- The pages that are left open are left open in the lines. -/
theorem filterMap_page?_openLinesOf (depth : Nat) : (os : List Outline) →
    (openLinesOf depth os).filterMap (fun l => l.2.page?) = pagesOf os
  | [] => rfl
  | o :: rest => by
    rw [openLinesOf, pagesOf, List.filterMap_append, Outline.filterMap_page?_lines depth o,
      filterMap_page?_openLinesOf depth rest]
end

/-! ## Outlines of elements -/

section

variable {address : String → String}

/-- The panel of a tab around an outline. -/
def openPanel (active : UInt64) (child : Outline × Nat) : Outline :=
  .group "div"
    [stateClass "tab-content" active child.2, .value "data-tab-content" (Css.digits child.2)]
    [child.1]

theorem fillAll_openPanels (active : UInt64) (os : List Outline) (index : Nat) :
    fillAll address ((os.zipIdx index).map (openPanel active)) =
      ((fillAll address os).zipIdx index).map (tabPanel active) := by
  induction os generalizing index with
  | nil => rfl
  | cons o rest ih =>
    rw [List.zipIdx_cons, List.map_cons, fillAll, ih, fillAll, List.zipIdx_cons, List.map_cons]
    rfl

theorem pagesOf_openPanels (active : UInt64) (os : List Outline) (index : Nat) :
    pagesOf ((os.zipIdx index).map (openPanel active)) = pagesOf os := by
  induction os generalizing index with
  | nil => rfl
  | cons o rest ih =>
    rw [List.zipIdx_cons, List.map_cons, pagesOf, ih, pagesOf, openPanel, Outline.pages, pagesOf,
      pagesOf, List.append_nil]

/-- An element around outlines has an outline, which leaves open what they do, where it shows its
children. -/
theorem exists_outline_elementBlock (e : Element) (os : List Outline) :
    ∃ o : Outline, (∀ address, o.fill address = elementBlock e (fillAll address os)) ∧
      o.pages = if showsChildren e.kind then pagesOf os else [] := by
  by_cases shows : showsChildren e.kind = true
  · rw [if_pos shows]
    unfold elementBlock
    cases kind : e.kind with
    | container | card => exact ⟨.group _ _ os, fun _ => rfl, rfl⟩
    | form => exact ⟨.group _ _ os, fun _ => rfl, rfl⟩
    | fieldset =>
      let legend := lineOf "legend" [] (shown e.content.legendText)
      exact ⟨.group _ _ (.block legend :: os), fun _ => rfl, rfl⟩
    | tabs =>
      let active := e.content.activeTab.getD 0
      let nav := Block.group "div" [cls "tabs-nav"]
        ((e.content.tabs.getD []).zipIdx.map (tabButton active))
      let panels := Outline.group "div" [cls "tabs-content-wrapper"]
        (os.zipIdx.map (openPanel active))
      refine ⟨.group "div" (nodeAttributes e ++ [cls "tabs-container"]) [.block nav, panels],
        fun address => ?_, ?_⟩
      · simp only [Outline.fill, fillAll, panels, fillAll_openPanels, nav, active]
      · simp only [Outline.pages, pagesOf, panels, pagesOf_openPanels, List.nil_append,
          List.append_nil]
    | _ =>
      rw [kind] at shows
      cases shows
  · rw [if_neg shows]
    refine ⟨.block (elementBlock e []), fun address => ?_, rfl⟩
    exact elementBlock_of_hides (Bool.eq_false_iff.mpr shows) [] _

end

/-! ## Outlines of layouts -/

/-- The page that the link of a node leads to. -/
def pageLink? (n : Node) : Option String :=
  match n.element.link with
  | some (.page id) => some id
  | _ => none

/-- The address that a link mode has for a page. -/
def LinkMode.pageAddress (mode : LinkMode) (page : String) : String := mode.address (.page page)

mutual
theorem exists_outline_nodeBlock : (n : Node) →
    ∃ o : Outline, (∀ mode : LinkMode, o.fill mode.pageAddress = nodeBlock mode n) ∧
      o.pages = (shownNode n).withDescendants.filterMap pageLink?
  | .mk e children => by
    obtain ⟨os, filled, open_pages⟩ := exists_outlines_forestBlocks children
    obtain ⟨o, element, pages⟩ := exists_outline_elementBlock e os
    have inner : ∀ mode : LinkMode,
        o.fill mode.pageAddress = elementBlock e (forestBlocks mode children) :=
      fun mode => (element _).trans (congrArg (elementBlock e) (filled mode))
    have below : o.pages = (Node.forestNodes
        (if showsChildren e.kind then shownForest children else [])).filterMap pageLink? := by
      rw [pages, open_pages]
      cases showsChildren e.kind <;> rfl
    rw [shownNode, Node.withDescendants, List.filterMap_cons, ← below]
    simp only [pageLink?, Node.element]
    cases link : e.link with
    | none =>
      refine ⟨o, fun mode => ?_, rfl⟩
      rw [inner, nodeBlock, link, linked]
    | some l =>
      cases l with
      | external address =>
        refine ⟨.group "a" [.value "href" address] [o], fun mode => ?_, ?_⟩
        · rw [Outline.fill, fillAll, fillAll, inner, nodeBlock, link, linked]
          rfl
        · rw [Outline.pages, pagesOf, pagesOf, List.append_nil]
      | page id =>
        refine ⟨.anchor id o, fun mode => ?_, rfl⟩
        rw [Outline.fill, inner, nodeBlock, link, linked]
        rfl

/-- A layout has an outline that leaves open the pages that its shown nodes lead to. -/
theorem exists_outlines_forestBlocks : (layout : List Node) →
    ∃ os : List Outline,
      (∀ mode : LinkMode, fillAll mode.pageAddress os = forestBlocks mode layout) ∧
      pagesOf os = (Node.forestNodes (shownForest layout)).filterMap pageLink?
  | [] => ⟨[], fun _ => rfl, rfl⟩
  | n :: rest => by
    obtain ⟨o, filled, pages⟩ := exists_outline_nodeBlock n
    obtain ⟨os, filled', pages'⟩ := exists_outlines_forestBlocks rest
    refine ⟨o :: os, fun mode => ?_, ?_⟩
    · rw [fillAll, filled, filled', forestBlocks]
    · rw [pagesOf, pages, pages', shownForest, Node.forestNodes, List.filterMap_append]
end

mutual
theorem sublist_withDescendants_shownNode : (n : Node) →
    ((shownNode n).withDescendants.map Node.element).Sublist (n.withDescendants.map Node.element)
  | .mk e children => by
    rw [shownNode, Node.withDescendants, Node.withDescendants, List.map_cons, List.map_cons]
    refine List.Sublist.cons_cons e ?_
    split
    next => exact sublist_forestNodes_shownForest children
    next => exact List.nil_sublist _

/-- The elements that are shown are among those of a layout, in order. -/
theorem sublist_forestNodes_shownForest : (layout : List Node) →
    ((Node.forestNodes (shownForest layout)).map Node.element).Sublist
      ((Node.forestNodes layout).map Node.element)
  | [] => List.Sublist.slnil
  | n :: rest => by
    rw [shownForest, Node.forestNodes, Node.forestNodes, List.map_append, List.map_append]
    exact (sublist_withDescendants_shownNode n).append (sublist_forestNodes_shownForest rest)
end

/-- The text of a layout is made of the lines of an outline. -/
theorem layoutText_eq_openLines {mode : LinkMode} {layout : List Node} {os : List Outline}
    (filled : fillAll mode.pageAddress os = forestBlocks mode layout) (format : Format) :
    layoutText mode format layout = Css.concat
      ((openLinesOf 0 os).map fun l => format.line (l.1, l.2.fill mode.pageAddress)) := by
  rw [layoutText, write, ← filled, linesOf_fillAll, List.map_map]
  rfl

/-- In both link modes a layout is written with the same lines, but for the anchors around the shown
nodes that lead to a page: their addresses are the files of the pages in one mode, where there are
any, and lead nowhere in the other. Where no node leads to a page, both texts are the same. -/
theorem layoutText_linkModes (layout : List Node) :
    (∃ lines : List (Nat × OpenLine),
      lines.filterMap (fun l => l.2.page?) =
          (Node.forestNodes (shownForest layout)).filterMap pageLink? ∧
        ∀ (format : Format) (files : Dict String String),
          layoutText (.project files) format layout = Css.concat (lines.map fun l =>
              format.line (l.1, l.2.fill fun page => (files.get? page).getD "#")) ∧
            layoutText .singlePage format layout = Css.concat (lines.map fun l =>
              format.line (l.1, l.2.fill fun _ => inertAddress))) ∧
      ((∀ n ∈ Node.forestNodes layout, ∀ id, n.element.link ≠ some (.page id)) →
        ∀ (format : Format) (files : Dict String String),
          layoutText (.project files) format layout = layoutText .singlePage format layout) := by
  obtain ⟨os, filled, pages⟩ := exists_outlines_forestBlocks layout
  have open_pages := filterMap_page?_openLinesOf 0 os
  refine ⟨⟨openLinesOf 0 os, open_pages.trans pages, fun format files => ⟨?_, ?_⟩⟩,
    fun unlinked format files => ?_⟩
  · exact layoutText_eq_openLines (filled (.project files)) format
  · exact layoutText_eq_openLines (filled .singlePage) format
  · have none_shown : (Node.forestNodes (shownForest layout)).filterMap pageLink? = [] := by
      refine List.filterMap_eq_nil_iff.mpr fun n mem => ?_
      have among := (sublist_forestNodes_shownForest layout).subset (List.mem_map_of_mem mem)
      obtain ⟨m, here, same⟩ := List.mem_map.mp among
      have elsewhere := unlinked m here
      rw [same] at elsewhere
      unfold pageLink?
      split
      next id link => exact absurd link (elsewhere id)
      next => rfl
    have closed : ∀ l ∈ openLinesOf 0 os, l.2.page? = none :=
      List.filterMap_eq_nil_iff.mp (open_pages.trans (pages.trans none_shown))
    rw [layoutText_eq_openLines (filled (.project files)),
      layoutText_eq_openLines (filled .singlePage)]
    refine congrArg Css.concat (List.map_congr_left fun l mem => ?_)
    rw [OpenLine.fill_eq_of_page?_eq_none (closed l mem)]

/-- A linked text in a linked card, and a card that leads elsewhere. -/
theorem layoutText_linkModes_nested :
    let inner : Node := .mk { id := "t", kind := .text, name := "T", link := some (.page "q") } []
    let linkedCard : Node :=
      .mk { id := "a", kind := .card, name := "A", link := some (.page "p") } [inner]
    let outward : Node :=
      .mk { id := "b", kind := .card, name := "B", link := some (.external "/") } []
    (∃ lines : List (Nat × OpenLine), lines.filterMap (fun l => l.2.page?) = ["p", "q"] ∧
      layoutText .singlePage {} [linkedCard] = Css.concat (lines.map fun l =>
        Format.line {} (l.1, l.2.fill fun _ => inertAddress))) ∧
      ∀ files, layoutText (.project files) {} [outward] = layoutText .singlePage {} [outward] := by
  intro inner linkedCard outward
  obtain ⟨⟨lines, pages, texts⟩, -⟩ := layoutText_linkModes [linkedCard]
  obtain ⟨-, same⟩ := layoutText_linkModes [outward]
  have unlinked : ∀ n ∈ Node.forestNodes [outward], ∀ id, n.element.link ≠ some (.page id) := by
    intro n mem id
    rw [List.mem_singleton.mp mem]
    exact fun link => nomatch link
  exact ⟨⟨lines, pages.trans (by decide), (texts {} Dict.empty).2⟩, same unlinked {}⟩

end PageStudio.Html
