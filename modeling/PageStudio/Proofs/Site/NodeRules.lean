import PageStudio.Proofs.Css.Selector
import PageStudio.Proofs.Document.NodeIds
import PageStudio.Proofs.Html.Ids
import PageStudio.Style.Viewport

/-!
# The elements that the rules of a node apply to

The style sheet of a layout and its markup name a node by its id: the markup in an attribute, where
every text can stand, and the style sheet in a selector, where not every text says what it is.

## Main statements

* `elementIds_layoutText`: the elements of a layout have the ids of its nodes, each at most once,
  whatever other attributes are written.
* `matches_selector_layout_iff`: the selector of a node matches what has its id, and no other
  element, exactly if the id is an identifier. It matches one element of the markup then.
-/

namespace PageStudio.Site

open Html Css.Lexical

/-! ## The ids of elements -/

/-- The id of an element: the first that its attributes give. -/
def elementId (t : Html.Token) : Option String := (t.attributes.filterMap idOf).head?

/-- Whether a piece of markup begins an element. -/
def beginsElement : Html.Token → Bool
  | .opening .. | .selfClosed .. => true
  | _ => false

theorem overlooks_head? : Overlooks fun as => (as.filterMap idOf).head?.toList := fun as plain => by
  have none : as.filterMap idOf = [] := overlooks_idOf as plain
  show (as.filterMap idOf).head?.toList = []
  rw [none]
  rfl

/-- An attribute that is named like the id comes too late. -/
theorem findsId_head? (e : Element) : FindsId (fun as => (as.filterMap idOf).head?.toList) e := by
  rintro _ ⟨more, rfl, -⟩
  have first : attributeIds (nodeAttributes e ++ more) =
      attributeIds [.value "id" e.id] ++ attributeIds ((nodeAttributes e).tail ++ more) :=
    attributeIds_append [.value "id" e.id] _
  show (attributeIds (nodeAttributes e ++ more)).head?.toList = [e.id]
  rw [first, attributeIds_id]
  rfl

theorem foundIn_head? (ts : List Html.Token) :
    foundIn (fun as => (as.filterMap idOf).head?.toList) ts = ts.filterMap elementId :=
  (List.filterMap_eq_flatMap_toList elementId ts).symm

theorem filterMap_elementId (ts : List Html.Token) :
    (ts.filter beginsElement).filterMap elementId = ts.filterMap elementId := by
  rw [List.filterMap_filter]
  refine List.filterMap_congr fun t _ => ?_
  cases t with
  | opening | selfClosed => rfl
  | _ => rfl

/-- The elements of a layout have the ids of its nodes, whatever other attributes they have. -/
theorem elementIds_layoutText (mode : LinkMode) {format : Format}
    (plain : Plain format.indent.toList) (layout : List Node) :
    ∃ ts, read? (layoutText mode format layout) = some ts ∧
      ts.filterMap elementId = forestWrittenIds layout := by
  obtain ⟨ts, read, marks⟩ := exists_read?_layoutText mode format plain layout
  refine ⟨ts, read, ?_⟩
  rw [← foundIn_head?, ← foundIn_filter_isMark overlooks_head?, marks]
  exact foundIn_forestBlocks overlooks_head? mode layout fun m _ => findsId_head? m.element

/-! ## Elements and rules -/

/-- Where names are given once, one element has a given name. -/
theorem exists_split_of_nodup {α β : Type} {l : List α} {f : α → Option β} {x : β}
    (nodup : (l.filterMap f).Nodup) (mem : x ∈ l.filterMap f) :
    ∃ front e back, l = front ++ e :: back ∧ f e = some x ∧ ∀ a ∈ front ++ back, f a ≠ some x := by
  obtain ⟨e, among, same⟩ := List.mem_filterMap.mp mem
  obtain ⟨front, back, rfl⟩ := List.append_of_mem among
  rw [List.filterMap_append, List.filterMap_cons_some same, List.nodup_middle, List.nodup_cons,
    ← List.filterMap_append] at nodup
  exact ⟨front, e, back, rfl, same, fun a other found =>
    nodup.1 (List.mem_filterMap.mpr ⟨a, other, found⟩)⟩

/-- Elements that begin where markup says so, with the ids that it gives. -/
def IsReadAs {α : Type} (dom : Dom α) (elements : List α) (ts : List Html.Token) : Prop :=
  elements.map dom.id = (ts.filter beginsElement).map elementId

theorem filterMap_of_isReadAs {α : Type} {dom : Dom α} {elements : List α} {ts : List Html.Token}
    (same : IsReadAs dom elements ts) : elements.filterMap dom.id = ts.filterMap elementId := by
  have ids : ∀ {β : Type} (l : List β) (f : β → Option String),
      l.filterMap f = (l.map f).filterMap id := fun l f => by
    rw [List.filterMap_map]
    rfl
  rw [← filterMap_elementId, ids, ids (ts.filter _), same]

/-- For every node of a page, the selector in its rules matches the elements with its id, and no
others, exactly if the id is an identifier. Of the elements that the page is written with, it
matches one then, that of the node, or none if the node has none. -/
theorem matches_selector_layout_iff {d : Document} (valid : d.Valid) {page : String}
    (listed : page ∈ d.pageIds) (mode : LinkMode) {format : Format}
    (plain : Plain format.indent.toList) :
    ∃ ts, read? (layoutText mode format (d.layout page)) = some ts ∧
      ∀ n ∈ Node.forestNodes (d.layout page), ∀ known : List Css.Lexical.Token → Bool,
        ((∀ {α : Type} (dom : Dom α) (e : α),
            dom.Matches known (Css.selector n.id) e ↔ dom.id e = some n.id) ↔
          IsIdentifier n.id.toList) ∧
        (IsIdentifier n.id.toList → ∀ {α : Type} (dom : Dom α) (elements : List α),
          IsReadAs dom elements ts →
            (n.id ∈ forestWrittenIds (d.layout page) → ∃ front e back,
              elements = front ++ e :: back ∧ dom.Matches known (Css.selector n.id) e ∧
                ∀ other ∈ front ++ back, ¬dom.Matches known (Css.selector n.id) other) ∧
            (n.id ∉ forestWrittenIds (d.layout page) →
              ∀ e ∈ elements, ¬dom.Matches known (Css.selector n.id) e)) := by
  obtain ⟨ts, read, written⟩ := elementIds_layoutText mode plain (d.layout page)
  refine ⟨ts, read, fun n _ known => ⟨matches_selector_iff known n.id, ?_⟩⟩
  intro identifier α dom elements same
  have ids : elements.filterMap dom.id = forestWrittenIds (d.layout page) :=
    (filterMap_of_isReadAs same).trans written
  have nodup : (elements.filterMap dom.id).Nodup :=
    ids ▸ (valid.layout_nodup listed).sublist (sublist_forestIds_forestWrittenIds _)
  have iff : ∀ e, dom.Matches known (Css.selector n.id) e ↔ dom.id e = some n.id :=
    matches_selector identifier dom known
  simp only [iff]
  rw [← ids]
  exact ⟨exists_split_of_nodup nodup, fun missing e mem found =>
    missing (List.mem_filterMap.mpr ⟨e, mem, found⟩)⟩

/-- A page of one box with a text in it that has an id. -/
def boxed (id : String) : Document where
  pages := [{ id := "home", name := "Home" }]
  layouts := Dict.ofList [("home", [.mk { id := "box", kind := .container, name := "Box" }
    [.mk { id, kind := .text, name := "Text", styles := Dict.ofList [
      ("Desktop", { base := Dict.ofList [(.top, "1px")] })] } []]])]
  activePageId := "home"

theorem valid_boxed {id : String} (other : id ≠ "box") : (boxed id).Valid where
  pages_ne_nil := List.cons_ne_nil _ _
  pageIds_nodup := List.nodup_singleton _
  mem_layouts_iff _ := Iff.rfl
  active_mem := List.mem_cons_self
  nodeIds_nodup := List.nodup_cons.mpr
    ⟨fun mem => other (List.mem_singleton.mp mem).symm, List.nodup_singleton _⟩

/-- The markup of the page. -/
def boxedMarkup : List Html.Token :=
  [.opening "div" [("id", some "box")], .text "\n  ", .opening "p" [("id", some "text-1a2b-1")],
   .closing "p", .text "\n", .closing "div", .text "\n"]

theorem matches_selector_layout_iff_boxed :
    (boxed "text-1a2b-1").Valid ∧ "home" ∈ (boxed "text-1a2b-1").pageIds ∧
    Plain ({} : Format).indent.toList ∧
    read? (layoutText .singlePage {} ((boxed "text-1a2b-1").layout "home")) = some boxedMarkup ∧
    IsReadAs bareElements [some "box", some "text-1a2b-1"] boxedMarkup ∧
    ∀ known, ∃ front e back, [some "box", some "text-1a2b-1"] = front ++ e :: back ∧
      bareElements.Matches known (Css.selector "text-1a2b-1") e ∧
      ∀ other ∈ front ++ back,
        ¬bareElements.Matches known (Css.selector "text-1a2b-1") other := by
  have valid : (boxed "text-1a2b-1").Valid := valid_boxed (by decide)
  have listed : "home" ∈ (boxed "text-1a2b-1").pageIds := List.mem_cons_self
  have plain : Plain ({} : Format).indent.toList := by decide
  have markup : read? (layoutText .singlePage {} ((boxed "text-1a2b-1").layout "home")) =
      some boxedMarkup := by decide +kernel
  have elements : IsReadAs bareElements [some "box", some "text-1a2b-1"] boxedMarkup := by
    unfold IsReadAs
    decide +kernel
  obtain ⟨ts, read, nodes⟩ := matches_selector_layout_iff valid listed .singlePage plain
  obtain rfl := Option.some.inj (read.symm.trans markup)
  have text := nodes _ (List.mem_cons_of_mem _ List.mem_cons_self)
  exact ⟨valid, listed, plain, markup, elements, fun known =>
    ((text known).2 (by decide) bareElements _ elements).1 (by decide)⟩

/-- A point in the id of a node makes its selector ask for a class: the rule of the node misses the
element with its id. -/
theorem exists_missed_element :
    ∃ d : Document, d.Valid ∧ ∃ page ∈ d.pageIds, ∃ n ∈ Node.forestNodes (d.layout page),
      (∃ r, .rule r ∈ Css.layoutSheet (d.layout page) Style.Viewport.builtIn ∧
        r.selector = Css.selector n.id) ∧
      ∀ known, bareElements.id (some n.id) = some n.id ∧
        ¬bareElements.Matches known (Css.selector n.id) (some n.id) := by
  refine ⟨boxed "a.b", valid_boxed (by decide), "home", List.mem_cons_self, _,
    List.mem_cons_of_mem _ List.mem_cons_self, ⟨_, List.mem_cons_self, rfl⟩, fun known => ⟨rfl, ?_⟩⟩
  rintro ⟨list, read, s, mem, fits⟩
  have cut : tokens (Css.selector "a.b") = [.hash ['a'] true, .delim '.', .ident ['b']] := by
    decide +kernel
  have one : selectors? known (tokens (Css.selector "a.b")) =
      some [.alone [.id ['a'], .hasClass ['b']]] := by
    rw [cut]
    rfl
  obtain rfl := Option.some.inj (one.symm.trans read)
  rw [List.mem_singleton.mp mem] at fits
  exact absurd (fits (.id ['a']) List.mem_cons_self) (by
    show ¬some "a.b" = some (String.ofList ['a'])
    decide)

end PageStudio.Site
