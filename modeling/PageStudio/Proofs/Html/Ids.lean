import PageStudio.Css.Layout
import PageStudio.Proofs.Html.NodeMarkup

/-!
# The ids in the markup of layouts

The ids that elements are written with are those of the nodes of a layout, each node before its
children, but for the children of accordions and carousels. These show the items of their content
alone, though they count as kinds that accept children and style sheets have rules for them.

## Main statements

* `ids_layoutText`: the ids that the elements of a layout are written with.
* `exists_missing_id`: an accordion whose child is missing in the markup.
-/

namespace PageStudio.Html

/-! ## Ids that are read -/

/-- The id that an attribute gives to its element. -/
def idOf (a : String × Option String) : Option String :=
  if isIdName a.1 then some (decode (a.2.getD "")) else none

/-- The ids in pieces of markup, in order. -/
def idsOf (ts : List Token) : List String := ts.flatMap fun t => t.attributes.filterMap idOf

theorem idOf_eq_none {a : String × Option String} (other : isIdName a.1 = false) :
    idOf a = none := by
  rw [idOf, other]
  rfl

theorem idOf_plain {a : String × Option String} (plain : PlainAttribute a) : idOf a = none := by
  have other := plain.2
  simp only [isPlainName, Bool.and_eq_true, Bool.not_eq_true'] at other
  exact idOf_eq_none other.2

/-! ## What is found in attributes -/

section

variable (find : List (String × Option String) → List String)

/-- What is found in the attributes of pieces of markup, in order. -/
def foundIn (ts : List Token) : List String := ts.flatMap fun t => find t.attributes

/-- Nothing is found in attributes that are all plain. -/
def Overlooks : Prop := ∀ as, (∀ a ∈ as, PlainAttribute a) → find as = []

/-- In the attributes of an element its id is found, and nothing else. -/
def FindsId (e : Element) : Prop :=
  ∀ as, OwnAttributes e as → find (as.map Attribute.asRead) = [e.id]

end

variable {find : List (String × Option String) → List String}

theorem foundIn_append (ts us : List Token) :
    foundIn find (ts ++ us) = foundIn find ts ++ foundIn find us :=
  List.flatMap_append

/-- Texts have no attributes. -/
theorem flatMap_attributes_filter_isMark {α : Type} {f : List (String × Option String) → List α}
    (none : f [] = []) (ts : List Token) :
    (ts.filter Token.isMark).flatMap (fun t => f t.attributes) =
      ts.flatMap fun t => f t.attributes := by
  induction ts with
  | nil => rfl
  | cons t ts ih =>
    cases t with
    | text s =>
      rw [List.flatMap_cons, ← ih]
      exact (congrArg (· ++ _) none).symm
    | _ => exact congrArg (_ ++ ·) ih

theorem foundIn_filter_isMark (overlooks : Overlooks find) (ts : List Token) :
    foundIn find (ts.filter Token.isMark) = foundIn find ts :=
  flatMap_attributes_filter_isMark (overlooks [] nofun) ts

theorem foundIn_eq_nil (overlooks : Overlooks find) {ts : List Token}
    (plain : ∀ t ∈ ts, ∀ a ∈ t.attributes, PlainAttribute a) : foundIn find ts = [] :=
  List.flatMap_eq_nil_iff.mpr fun t mem => overlooks _ (plain t mem)

theorem Overlooks.plainly (overlooks : Overlooks find) {as : List Attribute} (plain : Plainly as) :
    find (as.map Attribute.asRead) = [] :=
  overlooks _ (List.forall_mem_map.mpr plain)

theorem foundIn_contentMarks (overlooks : Overlooks find) {content : List Inline}
    (plain : ContentProper PlainAttribute content) : foundIn find (contentMarks content) = [] :=
  foundIn_eq_nil overlooks (contentFragment (fun _ => And.left) content plain).attributes

theorem foundIn_blocksMarks (overlooks : Overlooks find) {blocks : List Block}
    (plain : BlocksProper PlainAttribute blocks) : foundIn find (blocksMarks blocks) = [] :=
  foundIn_eq_nil overlooks
    (blocksFragment (f := {}) (by decide) (fun _ => And.left) blocks 0 plain).attributes

theorem blocksMarks_append (front back : List Block) :
    blocksMarks (front ++ back) = blocksMarks front ++ blocksMarks back := by
  induction front with
  | nil => rfl
  | cons b rest ih => rw [List.cons_append, blocksMarks, ih, ← List.append_assoc, blocksMarks]

/-- What is found in an element is what its attributes give, in front of what its content gives. -/
theorem foundIn_element (overlooks : Overlooks find) (tag : String) (as : List Attribute)
    (marks : List Token) :
    foundIn find (.opening tag (as.map Attribute.asRead) :: marks ++ [.closing tag]) =
      find (as.map Attribute.asRead) ++ foundIn find marks := by
  have closing : foundIn find [.closing tag] = [] := foundIn_eq_nil overlooks (by
    rintro t mem a has
    rw [List.mem_singleton.mp mem] at has
    cases has)
  rw [List.cons_append, foundIn, List.flatMap_cons, ← foundIn, foundIn_append, closing,
    List.append_nil]
  rfl

/-- An element around a block gives nothing if its attributes give nothing. -/
theorem foundIn_around (overlooks : Overlooks find) (tag : String) {as : List Attribute}
    (plain : Plainly as) (b : Block) :
    foundIn find (Block.group tag as [b]).marks = foundIn find b.marks := by
  rw [Block.marks, foundIn_element overlooks, overlooks.plainly plain, blocksMarks, blocksMarks,
    List.append_nil]
  rfl

/-- The panels of tabs give nothing of their own. -/
theorem foundIn_tabPanels (overlooks : Overlooks find) (active : UInt64) (children : List Block)
    (index : Nat) :
    foundIn find (blocksMarks ((children.zipIdx index).map (tabPanel active))) =
      foundIn find (blocksMarks children) := by
  induction children generalizing index with
  | nil => rfl
  | cons b rest ih =>
    have panel : foundIn find (tabPanel active (b, index)).marks = foundIn find b.marks :=
      foundIn_around overlooks "div" (plainly_tabPanel active index) b
    rw [List.zipIdx_cons, List.map_cons, blocksMarks, foundIn_append, ih, panel, ← foundIn_append]
    rfl

theorem Holds.found (overlooks : Overlooks find) {children content : List Block} {shows : Bool}
    (holds : Holds children shows content) :
    foundIn find (blocksMarks content) =
      if shows then foundIn find (blocksMarks children) else [] := by
  cases holds with
  | parts proper => exact foundIn_blocksMarks overlooks proper
  | behind front proper =>
    rw [blocksMarks_append, foundIn_append, foundIn_blocksMarks overlooks proper]
    rfl
  | @panels nav proper tag as wrapper active =>
    have alone : BlocksProper PlainAttribute [nav] := ⟨proper, trivial⟩
    have nav : foundIn find nav.marks = [] :=
      List.append_nil nav.marks ▸ foundIn_blocksMarks overlooks alone
    rw [blocksMarks, blocksMarks, blocksMarks, List.append_nil, foundIn_append, nav, Block.marks,
      foundIn_element overlooks, overlooks.plainly wrapper.2, foundIn_tabPanels overlooks]
    rfl

/-- The block of an element gives the id of the element, and what its children give if they are in
it. -/
theorem Carries.found (overlooks : Overlooks find) {e : Element} (finds : FindsId find e)
    {children : List Block} {shows : Bool} {b : Block} (carries : Carries e children shows b) :
    foundIn find b.marks =
      e.id :: if shows then foundIn find (blocksMarks children) else [] := by
  cases carries with
  | @empty tag as name own =>
    have same : foundIn find (Block.line (.empty tag as)).marks =
        find (as.map Attribute.asRead) := List.append_nil _
    rw [same, finds as own]
    rfl
  | line name own proper =>
    rw [lineOf, Block.marks, Inline.marks, foundIn_element overlooks, finds _ own,
      foundIn_contentMarks overlooks proper]
    rfl
  | group name own holds =>
    rw [Block.marks, foundIn_element overlooks, finds _ own, holds.found overlooks]
    rfl

theorem foundIn_linked (overlooks : Overlooks find) (mode : LinkMode) (link : Option Link)
    (b : Block) : foundIn find (linked mode link b).marks = foundIn find b.marks := by
  cases link with
  | none => rfl
  | some l => exact foundIn_around overlooks "a" (plainly_value (mode.address l) (by decide)) b

instance (e : Element) : Decidable (HasElement e) :=
  decidable_of_iff (e.kind ≠ .unknown ∧
      (e.kind = .icon → (Icon.find? (e.content.iconName.getD "")).isSome = true))
    ⟨fun h => ⟨h.1, h.2⟩, fun h => ⟨h.known, h.icon⟩⟩

mutual
/-- The ids of the elements that a node is written with. -/
def writtenIds : Node → List String
  | .mk e children =>
    if HasElement e then e.id :: if showsChildren e.kind then forestWrittenIds children else []
    else []

/-- The ids of the elements that a layout is written with. -/
def forestWrittenIds : List Node → List String
  | [] => []
  | n :: rest => writtenIds n ++ forestWrittenIds rest
end

mutual
theorem foundIn_nodeBlock (overlooks : Overlooks find) (mode : LinkMode) : (n : Node) →
    (∀ m ∈ n.withDescendants, FindsId find m.element) →
    foundIn find (nodeBlock mode n).marks = writtenIds n
  | .mk e children, finds => by
    obtain ⟨here, below⟩ := Node.forall_mem_withDescendants.mp finds
    rw [nodeBlock, foundIn_linked overlooks, writtenIds]
    split
    next element =>
      rw [(carries_elementBlock element _).found overlooks here,
        foundIn_forestBlocks overlooks mode children below]
      rfl
    next none =>
      obtain ⟨s, comment⟩ := elementBlock_eq_comment none (forestBlocks mode children)
      rw [comment]
      exact foundIn_eq_nil overlooks (by
        rintro t mem a has
        rw [List.mem_singleton.mp mem] at has
        cases has)

/-- In the blocks of a layout the ids of its elements are found, each node before its children. -/
theorem foundIn_forestBlocks (overlooks : Overlooks find) (mode : LinkMode) : (layout : List Node) →
    (∀ m ∈ Node.forestNodes layout, FindsId find m.element) →
    foundIn find (blocksMarks (forestBlocks mode layout)) = forestWrittenIds layout
  | [], _ => rfl
  | n :: rest, finds => by
    obtain ⟨here, there⟩ := Node.forall_mem_forestNodes_cons.mp finds
    rw [forestBlocks, blocksMarks, foundIn_append, foundIn_nodeBlock overlooks mode n here,
      foundIn_forestBlocks overlooks mode rest there, forestWrittenIds]
end

mutual
theorem sublist_subtreeIds_writtenIds : (n : Node) → List.Sublist (writtenIds n) n.subtreeIds
  | .mk e children => by
    rw [writtenIds, Node.subtreeIds]
    split
    · refine List.Sublist.cons_cons _ ?_
      split
      · exact sublist_forestIds_forestWrittenIds children
      · exact List.nil_sublist _
    · exact List.nil_sublist _

/-- The elements of a layout keep the order of their nodes. -/
theorem sublist_forestIds_forestWrittenIds : (layout : List Node) →
    List.Sublist (forestWrittenIds layout) (Node.forestIds layout)
  | [] => List.Sublist.slnil
  | n :: rest =>
    (sublist_subtreeIds_writtenIds n).append (sublist_forestIds_forestWrittenIds rest)
end

/-! ## Ids of nodes -/

/-- The ids that attributes give to their element. -/
def attributeIds (as : List Attribute) : List String := (as.map Attribute.asRead).filterMap idOf

theorem attributeIds_append (as bs : List Attribute) :
    attributeIds (as ++ bs) = attributeIds as ++ attributeIds bs := by
  rw [attributeIds, List.map_append, List.filterMap_append]
  rfl

theorem overlooks_idOf : Overlooks fun as => as.filterMap idOf := fun _ plain =>
  List.filterMap_eq_nil_iff.mpr fun a mem => idOf_plain (plain a mem)

/-- The first attribute of an element is its id. -/
theorem attributeIds_id (id : String) : attributeIds [.value "id" id] = [id] := by
  have name : isIdName "id" = true := by decide
  have read : idOf ("id", some (escape id)) = some id := by
    rw [idOf, if_pos name]
    exact congrArg some (decode_escape id)
  rw [attributeIds, List.map_singleton, Attribute.asRead, List.filterMap_cons, read]
  rfl

/-- No event of an element is named like the id. -/
def LeavesId (e : Element) : Prop := ∀ event ∈ e.events.keys, isIdName event = false

instance (e : Element) : Decidable (LeavesId e) :=
  inferInstanceAs (Decidable (∀ event ∈ e.events.keys, isIdName event = false))

theorem LeavesId.findsId {e : Element} (leaves : LeavesId e) :
    FindsId (fun as => as.filterMap idOf) e := by
  rintro _ ⟨more, rfl, plain⟩
  show attributeIds (nodeAttributes e ++ more) = [e.id]
  -- The id comes first, and what follows is named otherwise.
  have others : attributeIds (nodeAttributes e).tail = [] := by
    refine List.filterMap_eq_nil_iff.mpr (List.forall_mem_map.mpr ?_)
    refine ok_tail_nodeAttributes (fun _ => idOf_plain) fun v entry _ => ?_
    exact idOf_eq_none (leaves v.1 (List.mem_map_of_mem entry))
  have node := attributeIds_append [.value "id" e.id] (nodeAttributes e).tail
  rw [attributeIds_id, others] at node
  have behind : attributeIds more = [] := overlooks_idOf.plainly plain
  rw [attributeIds_append, behind, List.append_nil]
  exact node

/-! ## Ids of layouts -/

mutual
/-- A node without the nodes that are missing in its markup. -/
def shownNode : Node → Node
  | .mk e children => .mk e (if showsChildren e.kind then shownForest children else [])

/-- Nodes without those that are missing in their markup. -/
def shownForest : List Node → List Node
  | [] => []
  | n :: rest => shownNode n :: shownForest rest
end

/-- A node has an element and leaves the id of it alone. -/
structure Marked (n : Node) : Prop where
  element : HasElement n.element
  leaves : LeavesId n.element

instance (n : Node) : Decidable (Marked n) :=
  decidable_of_iff
    ((n.kind ≠ .unknown ∧
      (n.kind = .icon → (Icon.find? (n.content.iconName.getD "")).isSome = true)) ∧
      LeavesId n.element)
    ⟨fun h => ⟨⟨h.1.1, h.1.2⟩, h.2⟩, fun h => ⟨⟨h.element.known, h.element.icon⟩, h.leaves⟩⟩

mutual
theorem writtenIds_eq : (n : Node) → (∀ m ∈ n.withDescendants, HasElement m.element) →
    writtenIds n = (shownNode n).subtreeIds
  | .mk e children, elements => by
    obtain ⟨here, below⟩ := Node.forall_mem_withDescendants.mp elements
    have here : HasElement e := here
    rw [writtenIds, if_pos here, forestWrittenIds_eq children below, shownNode, Node.subtreeIds]
    cases showsChildren e.kind <;> rfl

/-- Where all nodes have elements, those of the shown nodes are written. -/
theorem forestWrittenIds_eq : (layout : List Node) →
    (∀ m ∈ Node.forestNodes layout, HasElement m.element) →
    forestWrittenIds layout = Node.forestIds (shownForest layout)
  | [], _ => rfl
  | n :: rest, elements => by
    obtain ⟨here, there⟩ := Node.forall_mem_forestNodes_cons.mp elements
    rw [forestWrittenIds, writtenIds_eq n here, forestWrittenIds_eq rest there, shownForest,
      Node.forestIds]
end

/-- Where no event is named like the id, the ids in the blocks of a layout are those of its
elements. -/
theorem idsOf_forestBlocks_of_leaves (mode : LinkMode) {layout : List Node}
    (leaves : ∀ n ∈ Node.forestNodes layout, LeavesId n.element) :
    idsOf (blocksMarks (forestBlocks mode layout)) = forestWrittenIds layout :=
  foundIn_forestBlocks overlooks_idOf mode layout fun n mem => (leaves n mem).findsId

/-- The ids in the blocks of a layout are those of the nodes that are shown. -/
theorem idsOf_forestBlocks (mode : LinkMode) (layout : List Node)
    (marked : ∀ m ∈ Node.forestNodes layout, Marked m) :
    idsOf (blocksMarks (forestBlocks mode layout)) = Node.forestIds (shownForest layout) :=
  (idsOf_forestBlocks_of_leaves mode fun m mem => (marked m mem).leaves).trans
    (forestWrittenIds_eq layout fun m mem => (marked m mem).element)

/-- The ids that are written are those that are read in the text. -/
theorem exists_idsOf_layoutText (mode : LinkMode) (format : Format)
    (plain : Plain format.indent.toList) (layout : List Node) :
    ∃ ts, read? (layoutText mode format layout) = some ts ∧
      idsOf ts = idsOf (blocksMarks (forestBlocks mode layout)) := by
  obtain ⟨ts, read, marks⟩ := exists_read?_layoutText mode format plain layout
  have kept : idsOf (ts.filter Token.isMark) = idsOf ts := foundIn_filter_isMark overlooks_idOf ts
  exact ⟨ts, read, by rw [← kept, marks]⟩

mutual
theorem sublist_subtreeIds_shownNode : (n : Node) →
    List.Sublist (shownNode n).subtreeIds n.subtreeIds
  | .mk e children => by
    rw [shownNode, Node.subtreeIds, Node.subtreeIds]
    refine List.Sublist.cons_cons _ ?_
    split
    · exact sublist_forestIds_shownForest children
    · exact List.nil_sublist _

/-- The shown nodes keep their order. -/
theorem sublist_forestIds_shownForest : (layout : List Node) →
    List.Sublist (Node.forestIds (shownForest layout)) (Node.forestIds layout)
  | [] => List.Sublist.slnil
  | n :: rest => (sublist_subtreeIds_shownNode n).append (sublist_forestIds_shownForest rest)
end

/-- Sublists side by side make up the whole only if each is whole. -/
theorem append_eq_append_iff_of_sublist {α : Type} {a a' b b' : List α}
    (first : List.Sublist a a') (second : List.Sublist b b') :
    a ++ b = a' ++ b' ↔ a = a' ∧ b = b' := by
  refine ⟨fun same => ?_, fun ⟨front, back⟩ => by rw [front, back]⟩
  have lengths := congrArg List.length same
  rw [List.length_append, List.length_append] at lengths
  have front := first.length_le
  have back := second.length_le
  exact ⟨first.eq_of_length (by omega), second.eq_of_length (by omega)⟩

/-- A node whose kind does not show children has none. -/
def ShowsAll (n : Node) : Prop := showsChildren n.kind = false → n.children = []

theorem forestIds_eq_nil_iff {layout : List Node} : Node.forestIds layout = [] ↔ layout = [] := by
  cases layout with
  | nil => exact ⟨fun _ => rfl, fun _ => rfl⟩
  | cons n rest =>
    cases n
    exact ⟨nofun, nofun⟩

mutual
theorem subtreeIds_shownNode_eq_iff : (n : Node) →
    ((shownNode n).subtreeIds = n.subtreeIds ↔ ∀ m ∈ n.withDescendants, ShowsAll m)
  | .mk e children => by
    rw [Node.forall_mem_withDescendants, ← forestIds_shownForest_eq_iff children, shownNode,
      Node.subtreeIds, Node.subtreeIds, List.cons_inj_right]
    cases shows : showsChildren e.kind with
    | true =>
      have all : ShowsAll (.mk e children) := fun hides => Bool.noConfusion (shows.symm.trans hides)
      exact ⟨fun same => ⟨all, same⟩, And.right⟩
    | false =>
      -- Every node has an id, so none are missing only where there are no children.
      constructor
      · intro none
        obtain rfl := forestIds_eq_nil_iff.mp none.symm
        exact ⟨fun _ => rfl, rfl⟩
      · rintro ⟨all, -⟩
        obtain rfl : children = [] := all shows
        rfl

/-- No id is missing exactly when no kind that does not show children has any. -/
theorem forestIds_shownForest_eq_iff : (layout : List Node) →
    (Node.forestIds (shownForest layout) = Node.forestIds layout ↔
      ∀ m ∈ Node.forestNodes layout, ShowsAll m)
  | [] => ⟨fun _ => nofun, fun _ => rfl⟩
  | n :: rest => by
    rw [Node.forall_mem_forestNodes_cons, ← subtreeIds_shownNode_eq_iff n,
      ← forestIds_shownForest_eq_iff rest]
    exact append_eq_append_iff_of_sublist (sublist_subtreeIds_shownNode n)
      (sublist_forestIds_shownForest rest)
end

/-- The elements of a layout are written with the ids of the nodes that are shown, in order and
each once, and so they are read. An id is missing exactly where an accordion or a carousel has
children. -/
theorem ids_layoutText (mode : LinkMode) (format : Format) (layout : List Node)
    (accepts : ∀ n ∈ Node.forestNodes layout, n.kind.acceptsChildren = false → n.children = [])
    (marked : ∀ n ∈ Node.forestNodes layout, Marked n)
    (distinct : (Node.forestIds layout).Nodup) :
    ∃ ids, idsOf (blocksMarks (forestBlocks mode layout)) = ids ∧
      (Plain format.indent.toList →
        ∃ ts, read? (layoutText mode format layout) = some ts ∧ idsOf ts = ids) ∧
      ids = Node.forestIds (shownForest layout) ∧ List.Sublist ids (Node.forestIds layout) ∧
      ids.Nodup ∧
      (ids = Node.forestIds layout ↔ ∀ n ∈ Node.forestNodes layout,
        n.kind = .accordion ∨ n.kind = .carousel → n.children = []) := by
  have sublist := sublist_forestIds_shownForest layout
  refine ⟨_, idsOf_forestBlocks mode layout marked, fun plain => ?_, rfl, sublist,
    distinct.sublist sublist, ?_⟩
  · rw [← idsOf_forestBlocks mode layout marked]
    exact exists_idsOf_layoutText mode format plain layout
  · rw [forestIds_shownForest_eq_iff]
    refine forall₂_congr fun n mem => ?_
    have childless := accepts n mem
    unfold ShowsAll
    revert childless
    cases n.kind <;> simp [showsChildren, Kind.acceptsChildren, Kind.isContainer, Kind.isComposite]

/-- A layout with boxes, tabs and an icon. -/
def shownLayout : List Node :=
  [.mk { id := "page", kind := .container, name := "" }
    [.mk { id := "tabs", kind := .tabs, name := "", content := { inputName := some "id=" } }
      [.bare "one" .text "", .bare "two" .accordion ""],
     .mk { id := "<&>", kind := .icon, name := "", content := { iconName := some "star" } } []]]

theorem ids_layoutText_shown :
    ∃ ts, read? (layoutText .singlePage {} shownLayout) = some ts ∧
      idsOf ts = ["page", "tabs", "one", "two", "<&>"] := by
  obtain ⟨ids, -, read, -, -, -, all⟩ :=
    ids_layoutText .singlePage {} shownLayout (by decide) (by decide) (by decide)
  obtain rfl := all.mpr (by decide)
  exact read (by decide)

/-- A spinner inside an accordion. -/
def accordionLayout : List Node :=
  [.mk { id := "a", kind := .accordion, name := "" } [.bare "t" .spinner ""]]

/-- A child that its parent accepts can be missing in the markup, while the style sheet has a rule
for it. -/
theorem exists_missing_id :
    ∃ layout : List Node,
      (∀ n ∈ Node.forestNodes layout, n.kind.acceptsChildren = false → n.children = []) ∧
      (∀ n ∈ Node.forestNodes layout, Marked n) ∧ (Node.forestIds layout).Nodup ∧
      (∃ ts, read? (layoutText .singlePage {} layout) = some ts ∧ "t" ∉ idsOf ts) ∧
      "t" ∈ Node.forestIds layout ∧
      ∃ r, .rule r ∈ Css.layoutSheet layout Style.Viewport.builtIn ∧
        r.selector = Css.selector "t" := by
  refine ⟨accordionLayout, by decide, by decide, by decide, ?_, by decide, ?_⟩
  · refine ⟨[.opening "div" [("id", some "a"), ("class", some "accordion-container")],
      .text "\n", .closing "div", .text "\n"], by decide, by decide⟩
  · exact ⟨_, List.mem_cons_self, rfl⟩

end PageStudio.Html
