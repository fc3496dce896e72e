import PageStudio.Proofs.Html.Ids

/-!
# The anchors of linked nodes

A node with a link is written inside an anchor of its own, wherever in a layout it is shown. The
nodes that are not shown are written neither with their links nor without.

## Main statements

* `marks_nodeBlock_infix`: the marks of every shown node stand in those of its layout.
* `anchored_infix`: those of a linked node do so in an anchor.
-/

namespace PageStudio.Html

/-! ## Nodes that are not shown -/

/-- What is in an element whose kind shows no children does not depend on them. -/
theorem elementBlock_of_hides {e : Element} (hides : showsChildren e.kind = false)
    (children others : List Block) : elementBlock e children = elementBlock e others := by
  revert hides
  unfold elementBlock
  cases e.kind <;> simp [showsChildren, Kind.isContainer]

mutual
theorem nodeBlock_shownNode (mode : LinkMode) : (n : Node) →
    nodeBlock mode (shownNode n) = nodeBlock mode n
  | .mk e children => by
    rw [shownNode, nodeBlock, nodeBlock]
    split
    next => rw [forestBlocks_shownForest mode children]
    next hides =>
      rw [elementBlock_of_hides (Bool.eq_false_iff.mpr hides) _ (forestBlocks mode children)]

/-- Without the nodes that are not shown the blocks are the same. -/
theorem forestBlocks_shownForest (mode : LinkMode) : (layout : List Node) →
    forestBlocks mode (shownForest layout) = forestBlocks mode layout
  | [] => rfl
  | n :: rest => by
    rw [shownForest, forestBlocks, forestBlocks, nodeBlock_shownNode mode n,
      forestBlocks_shownForest mode rest]
end

/-! ## Marks inside marks -/

section Infix

variable {b : Block} {blocks children : List Block}

theorem marks_infix_blocksMarks (mem : b ∈ blocks) : b.marks <:+: blocksMarks blocks := by
  obtain ⟨front, back, rfl⟩ := List.append_of_mem mem
  rw [blocksMarks_append, blocksMarks]
  exact ⟨blocksMarks front, blocksMarks back, List.append_assoc ..⟩

theorem blocksMarks_infix_group (tag : String) (as : List Attribute) (content : List Block) :
    blocksMarks content <:+: (Block.group tag as content).marks :=
  ⟨[_], [_], rfl⟩

theorem marks_infix_linked (mode : LinkMode) (link : Option Link) (b : Block) :
    b.marks <:+: (linked mode link b).marks := by
  cases link with
  | none => exact List.infix_refl _
  | some l =>
    exact (marks_infix_blocksMarks List.mem_cons_self).trans (blocksMarks_infix_group "a" _ [b])

/-- Where children are shown, the marks of each stand in those of the content around them. -/
theorem Holds.marks_infix {content : List Block} (holds : Holds children true content)
    (mem : b ∈ children) : b.marks <:+: blocksMarks content := by
  cases holds with
  | behind front => exact marks_infix_blocksMarks (List.mem_append_right front mem)
  | @panels nav _ tag as _ active =>
    obtain ⟨i, here⟩ := List.mem_iff_getElem?.mp mem
    have panel : tabPanel active (b, i) ∈ children.zipIdx.map (tabPanel active) :=
      List.mem_map_of_mem (List.mem_zipIdx_iff_getElem?.mpr here)
    have panels : Block.group tag as (children.zipIdx.map (tabPanel active)) ∈
        [nav, .group tag as (children.zipIdx.map (tabPanel active))] :=
      List.mem_cons_of_mem _ (List.mem_singleton_self _)
    calc b.marks
        <:+: blocksMarks [b] := marks_infix_blocksMarks (List.mem_singleton_self b)
      _ <:+: (tabPanel active (b, i)).marks := blocksMarks_infix_group _ _ [b]
      _ <:+: blocksMarks _ := marks_infix_blocksMarks panel
      _ <:+: (Block.group tag as _).marks := blocksMarks_infix_group tag as _
      _ <:+: blocksMarks _ := marks_infix_blocksMarks panels

theorem marks_infix_elementBlock {e : Element} (shows : showsChildren e.kind = true)
    (mem : b ∈ children) : b.marks <:+: (elementBlock e children).marks := by
  have has : HasElement e := by
    constructor
    · intro unknown
      rw [unknown] at shows
      cases shows
    · intro icon
      rw [icon] at shows
      cases shows
  have carries := carries_elementBlock has children
  rw [shows] at carries
  -- What shows children is a group.
  generalize elementBlock e children = block at carries ⊢
  cases carries with
  | group _ _ holds => exact (holds.marks_infix mem).trans (blocksMarks_infix_group _ _ _)

end Infix

theorem nodeBlock_mem_forestBlocks (mode : LinkMode) {n : Node} : {layout : List Node} →
    n ∈ layout → nodeBlock mode n ∈ forestBlocks mode layout
  | m :: rest, mem => by
    rw [forestBlocks]
    rcases List.mem_cons.mp mem with rfl | later
    · exact List.mem_cons_self
    · exact List.mem_cons_of_mem _ (nodeBlock_mem_forestBlocks mode later)

mutual
theorem marks_infix_nodeBlock (mode : LinkMode) {n : Node} : {m : Node} →
    n ∈ (shownNode m).withDescendants → (nodeBlock mode n).marks <:+: (nodeBlock mode m).marks
  | .mk e children, mem => by
    rcases List.mem_cons.mp mem with here | below
    · have same : nodeBlock mode n = nodeBlock mode (.mk e children) :=
        here ▸ nodeBlock_shownNode mode (.mk e children)
      rw [same]
    · split at below
      next shows =>
        obtain ⟨m, child, inside⟩ := exists_marks_infix_nodeBlock mode below
        rw [nodeBlock]
        have element := marks_infix_elementBlock shows (nodeBlock_mem_forestBlocks mode child)
        exact (inside.trans element).trans (marks_infix_linked mode e.link _)
      next => cases below

/-- The marks of every shown node stand in those of a node of the layout itself. -/
theorem exists_marks_infix_nodeBlock (mode : LinkMode) {n : Node} : {layout : List Node} →
    n ∈ Node.forestNodes (shownForest layout) →
    ∃ m ∈ layout, (nodeBlock mode n).marks <:+: (nodeBlock mode m).marks
  | [], mem => nomatch mem
  | m :: rest, mem => by
    rcases List.mem_append.mp mem with here | later
    · exact ⟨m, List.mem_cons_self, marks_infix_nodeBlock mode here⟩
    · obtain ⟨m', among, inside⟩ := exists_marks_infix_nodeBlock mode later
      exact ⟨m', List.mem_cons_of_mem _ among, inside⟩
end

/-- The marks of every shown node stand in those of its layout. -/
theorem marks_nodeBlock_infix (mode : LinkMode) {n : Node} {layout : List Node}
    (mem : n ∈ Node.forestNodes (shownForest layout)) :
    (nodeBlock mode n).marks <:+: blocksMarks (forestBlocks mode layout) := by
  obtain ⟨m, among, inside⟩ := exists_marks_infix_nodeBlock mode mem
  exact inside.trans (marks_infix_blocksMarks (nodeBlock_mem_forestBlocks mode among))

/-! ## Linked nodes -/

/-- The marks of an anchor around others. -/
def anchored (address : String) (marks : List Token) : List Token :=
  .opening "a" [("href", some (escape address))] :: marks ++ [.closing "a"]

/-- The marks of the element of a node, with those of the nodes in it. -/
def elementMarks (mode : LinkMode) (n : Node) : List Token :=
  (elementBlock n.element (forestBlocks mode n.children)).marks

/-- A shown node with a link stands in an anchor with the address of the link. -/
theorem anchored_infix (mode : LinkMode) {n : Node} {layout : List Node} {l : Link}
    (mem : n ∈ Node.forestNodes (shownForest layout)) (link : n.element.link = some l) :
    anchored (mode.address l) (elementMarks mode n) <:+:
      blocksMarks (forestBlocks mode layout) := by
  have inside := marks_nodeBlock_infix mode mem
  obtain ⟨e, children⟩ := n
  have link : e.link = some l := link
  have block : (nodeBlock mode (.mk e children)).marks =
      anchored (mode.address l) (elementMarks mode (.mk e children)) := by
    rw [nodeBlock, link, linked, Block.marks, blocksMarks, blocksMarks, List.append_nil]
    rfl
  exact block ▸ inside

/-! ## Addresses that are read -/

/-- The address that an attribute gives to its anchor. -/
def addressOf (a : String × Option String) : Option String :=
  if a.1 = "href" then a.2.map decode else none

/-- The addresses in pieces of markup, in order. -/
def addressesOf (ts : List Token) : List String :=
  ts.flatMap fun t => t.attributes.filterMap addressOf

theorem addressesOf_filter_isMark (ts : List Token) :
    addressesOf (ts.filter Token.isMark) = addressesOf ts :=
  flatMap_attributes_filter_isMark (f := fun as => as.filterMap addressOf) rfl ts

end PageStudio.Html
