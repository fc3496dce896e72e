import PageStudio.Html.NodeMarkup
import PageStudio.Proofs.Html.Markup
import PageStudio.Proofs.Node.Descendants

/-!
# The markup of layouts is sound

Whatever texts a layout holds, they stay inside the texts, values and comments of its markup. The
names of events are the only names that a layout brings in.

## Main definitions

* `Carries`: the few shapes that the element of a node can have.

## Main statements

* `read?_layoutText`: the text of a layout reads as the marks of its tree, nested as the tree is.
-/

namespace PageStudio.Html

/-! ## Names of attributes -/

/-- Whether a name is that of the id, for which the case of letters does not matter. -/
def isIdName (name : String) : Bool := name.toList.map Char.toLower == ['i', 'd']

/-- Whether a name may be that of an attribute other than the id. -/
def isPlainName (name : String) : Bool :=
  name != "" && name.toList.all Text.isNameChar && !isIdName name

/-- A legible attribute with a name, other than the id. -/
def PlainAttribute (a : String × Option String) : Prop :=
  LegibleAttribute a ∧ isPlainName a.1 = true

theorem nameChars_of_isPlainName {name : String} (plain : isPlainName name = true) :
    ∀ c ∈ name.toList, Text.isNameChar c = true := by
  simp only [isPlainName, Bool.and_eq_true, List.all_eq_true] at plain
  exact plain.1.2

theorem ne_empty_of_isPlainName {name : String} (plain : isPlainName name = true) :
    name ≠ "" := by
  simp only [isPlainName, Bool.and_eq_true, bne_iff_ne] at plain
  exact plain.1.1

theorem legibleAttribute_value {name : String} (chars : ∀ c ∈ name.toList, Text.isNameChar c = true)
    (text : String) : LegibleAttribute (name, some (escape text)) :=
  ⟨chars, fun _ => isValueChar_of_mem_escape⟩

theorem legibleAttribute_id (id : String) : LegibleAttribute ("id", some (escape id)) :=
  legibleAttribute_value (List.all_eq_true.mp (by decide)) id

theorem plain_value {name : String} (text : String) (plain : isPlainName name = true) :
    PlainAttribute (name, some (escape text)) :=
  ⟨legibleAttribute_value (nameChars_of_isPlainName plain) text, plain⟩

theorem plain_flag {name : String} (plain : isPlainName name = true) :
    PlainAttribute (name, none) :=
  ⟨⟨nameChars_of_isPlainName plain, ne_empty_of_isPlainName plain⟩, plain⟩

/-- Attributes that are all plain. -/
def Plainly (as : List Attribute) : Prop := ∀ a ∈ as, PlainAttribute a.asRead

theorem Plainly.append {as bs : List Attribute} (first : Plainly as) (second : Plainly bs) :
    Plainly (as ++ bs) := List.forall_mem_append.mpr ⟨first, second⟩

theorem plainly_value {name : String} (text : String) (plain : isPlainName name = true) :
    Plainly [.value name text] := List.forall_mem_singleton.mpr (plain_value text plain)

theorem plainly_values {name name' : String} (text text' : String)
    (plain : isPlainName name = true) (plain' : isPlainName name' = true) :
    Plainly [.value name text, .value name' text'] :=
  (plainly_value text plain).append (plainly_value text' plain')

theorem plainly_flag {name : String} (plain : isPlainName name = true) :
    Plainly [.flag name] := List.forall_mem_singleton.mpr (plain_flag plain)

theorem plainly_option {name : String} (text : Option String) (plain : isPlainName name = true) :
    Plainly (text.map (Attribute.value name)).toList := by
  cases text with
  | none => nofun
  | some text => exact plainly_value text plain

/-! ## The parts of nodes -/

theorem proper_entity {name : String} (plain : Plain name.toList) :
    (Inline.entity name).Proper PlainAttribute := plain

theorem proper_iconMarkup (icon : Icon) {more : List Attribute} (plain : Plainly more) :
    (icon.markup more).Proper PlainAttribute := by
  have box : Plainly [.value "viewBox" icon.viewBox, .value "fill" "currentColor"] :=
    plainly_values _ _ (by decide) (by decide)
  have size : Plainly [.value "width" "24", .value "height" "24"] :=
    plainly_values _ _ (by decide) (by decide)
  have path : Plainly [.value "d" icon.path] := plainly_value _ (by decide)
  exact ⟨⟨by decide, (box.append size).append plain⟩, ⟨by decide, path⟩, trivial⟩

theorem proper_iconContent (name : String) {more : List Attribute} (plain : Plainly more) :
    ContentProper PlainAttribute (iconContent name more) := by
  unfold iconContent
  cases Icon.find? name with
  | none => trivial
  | some icon => exact ⟨proper_iconMarkup icon plain, trivial⟩

theorem proper_alertGlyph (type : AlertType) :
    ContentProper PlainAttribute (alertGlyph type) := by
  unfold alertGlyph
  split
  · exact proper_iconContent _ (plainly_value _ (by decide))
  · exact ⟨trivial, trivial⟩

theorem proper_dropdownEntry (o : DropdownOption) :
    (dropdownEntry o).Proper PlainAttribute :=
  ⟨⟨by decide, nofun⟩, ⟨⟨by decide, plainly_value _ (by decide)⟩, trivial, trivial⟩, trivial⟩

theorem proper_accordionPart (i : AccordionItem) :
    (accordionPart i).Proper PlainAttribute := by
  refine ⟨⟨by decide, plainly_value _ (by decide)⟩, ⟨⟨by decide, ?_⟩, ?_⟩, ⟨⟨by decide, ?_⟩, ?_⟩,
    trivial⟩
  · exact plainly_value _ (by decide)
  · exact ⟨⟨⟨by decide, nofun⟩, trivial, trivial⟩,
      ⟨⟨by decide, plainly_value _ (by decide)⟩, proper_entity (by decide), trivial⟩, trivial⟩
  · exact plainly_value _ (by decide)
  · exact ⟨⟨⟨by decide, nofun⟩, trivial, trivial⟩, trivial⟩

theorem proper_tabButton (active : UInt64) (t : Tab × Nat) :
    (tabButton active t).Proper PlainAttribute :=
  ⟨⟨by decide, plainly_values _ _ (by decide) (by decide)⟩, trivial, trivial⟩

/-- The attributes of the panel of a tab. -/
theorem plainly_tabPanel (active : UInt64) (index : Nat) :
    Plainly [stateClass "tab-content" active index,
      .value "data-tab-content" (Css.digits index)] :=
  plainly_values _ _ (by decide) (by decide)

theorem plainly_toggle (type : String) (checked : Option Bool) :
    Plainly (.value "type" type :: if checked == some true then [.flag "checked"] else []) := by
  refine List.forall_mem_cons.mpr ⟨plain_value type (by decide), ?_⟩
  split
  · exact plainly_flag (by decide)
  · nofun

theorem proper_navEntry (l : NavLink) : (navEntry l).Proper PlainAttribute :=
  ⟨⟨by decide, plainly_value _ (by decide)⟩, trivial, trivial⟩

theorem proper_choices (options : String) : BlocksProper PlainAttribute (choices options) :=
  blocksProper_map.mpr fun _ _ => ⟨⟨by decide, nofun⟩, trivial, trivial⟩

theorem proper_profile (l : SocialLink) : (profile l).Proper PlainAttribute := by
  unfold profile
  split
  · trivial
  · exact ⟨⟨by decide, plainly_values _ _ (by decide) (by decide)⟩, proper_iconContent _ nofun⟩

theorem proper_tableRow (row : List Char × Nat) : (tableRow row).Proper PlainAttribute := by
  refine ⟨⟨by decide, nofun⟩, contentProper_map.mpr fun _ _ => ⟨⟨?_, nofun⟩, trivial, trivial⟩⟩
  split <;> decide

theorem proper_listItems (items : String) : BlocksProper PlainAttribute (listItems items) :=
  blocksProper_map.mpr fun _ _ => ⟨⟨by decide, nofun⟩, trivial, trivial⟩

theorem proper_stars (rating most : UInt32) :
    ContentProper PlainAttribute (stars rating most) := by
  refine contentProper_map.mpr fun i _ =>
    ⟨⟨by decide, ?_⟩, proper_entity (by decide), trivial⟩
  split
  · exact plainly_value _ (by decide)
  · nofun

theorem proper_slide (i : CarouselImage) : (slide i).Proper PlainAttribute :=
  ⟨⟨by decide, plainly_value _ (by decide)⟩,
    ⟨by decide, plainly_values _ _ (by decide) (by decide)⟩, trivial⟩

/-! ## The shapes of elements -/

/-- Attributes that begin with those of an element. -/
def OwnAttributes (e : Element) (as : List Attribute) : Prop :=
  ∃ more, as = nodeAttributes e ++ more ∧ Plainly more

/-- The content of an element, and whether the blocks of its children are in it. -/
inductive Holds (children : List Block) : Bool → List Block → Prop where
  | parts {content : List Block} (proper : BlocksProper PlainAttribute content) :
    Holds children false content
  | behind (front : List Block) (proper : BlocksProper PlainAttribute front) :
    Holds children true (front ++ children)
  /-- The panels of tabs, behind their buttons. -/
  | panels {nav : Block} (proper : nav.Proper PlainAttribute) {tag : String}
    {as : List Attribute} (wrapper : ProperTag PlainAttribute tag as) (active : UInt64) :
    Holds children true [nav, .group tag as (children.zipIdx.map (tabPanel active))]

/-- A block that carries the attributes of an element, and whether the blocks of its children are
in it. -/
inductive Carries (e : Element) (children : List Block) : Bool → Block → Prop where
  | empty {tag : String} {as : List Attribute} (name : (isTagName tag && isVoid tag) = true)
    (own : OwnAttributes e as) : Carries e children false (.line (.empty tag as))
  | line {tag : String} {as : List Attribute} {content : List Inline}
    (name : (isTagName tag && !isVoid tag) = true) (own : OwnAttributes e as)
    (proper : ContentProper PlainAttribute content) :
    Carries e children false (lineOf tag as content)
  | group {tag : String} {as : List Attribute} {shows : Bool} {content : List Block}
    (name : (isTagName tag && !isVoid tag) = true) (own : OwnAttributes e as)
    (holds : Holds children shows content) : Carries e children shows (.group tag as content)

/-- Whether the markup of nodes of a kind has their children in it. -/
def showsChildren (k : Kind) : Bool := k.isContainer || k == .tabs

/-- A node has an element of its own: it is of a known kind and shows a known icon if any. -/
structure HasElement (e : Element) : Prop where
  known : e.kind ≠ .unknown
  icon : e.kind = .icon → (Icon.find? (e.content.iconName.getD "")).isSome = true

section

variable {e : Element}

theorem OwnAttributes.start : OwnAttributes e (nodeAttributes e) :=
  ⟨[], (List.append_nil _).symm, nofun⟩

theorem OwnAttributes.append {as more : List Attribute} (own : OwnAttributes e as)
    (plain : Plainly more) : OwnAttributes e (as ++ more) := by
  obtain ⟨front, rfl, before⟩ := own
  exact ⟨front ++ more, List.append_assoc .., before.append plain⟩

/-- The block of a node carries the attributes of the node. -/
theorem carries_elementBlock (has : HasElement e) (children : List Block) :
    Carries e children (showsChildren e.kind) (elementBlock e children) := by
  have own : OwnAttributes e (nodeAttributes e) := .start
  -- What is decided below are the fixed names of tags and attributes.
  unfold elementBlock
  cases kind : e.kind with
  | container | card => exact .group (by decide) own (.behind [] trivial)
  | form =>
    exact .group (by decide)
      ((own.append (plainly_values _ _ (by decide) (by decide))).append
        (plainly_option _ (by decide)))
      (.behind [] trivial)
  | fieldset =>
    exact .group (by decide) own
      (.behind [_] ⟨⟨⟨by decide, nofun⟩, trivial, trivial⟩, trivial⟩)
  | text | button => exact .line (by decide) own ⟨trivial, trivial⟩
  | image | input =>
    exact .empty (by decide) (own.append (plainly_values _ _ (by decide) (by decide)))
  | textarea => exact .line (by decide) (own.append (plainly_value _ (by decide))) trivial
  | video =>
    have source : ∀ src : String, Plainly [.value "src" src, .value "frameborder" "0"] :=
      fun _ => plainly_values _ _ (by decide) (by decide)
    have player : ∀ allow : String, Plainly [.value "allow" allow, .flag "allowfullscreen"] :=
      fun _ => (plainly_value _ (by decide)).append (plainly_flag (by decide))
    exact .line (by decide) (own.append ((source _).append (player _))) trivial
  | divider => exact .empty (by decide) own
  | icon =>
    obtain ⟨icon, found⟩ := Option.isSome_iff_exists.mp (has.icon kind)
    simp only [iconBlock, found]
    exact .line (by decide) own ⟨proper_iconMarkup icon nofun, trivial⟩
  | alert =>
    refine .line (by decide) own ?_
    rw [contentProper_iff, List.forall_mem_append, ← contentProper_iff, ← contentProper_iff]
    exact ⟨proper_alertGlyph _, ⟨⟨by decide, nofun⟩, trivial, trivial⟩, trivial⟩
  | progressBar =>
    exact .line (by decide) own
      ⟨⟨⟨by decide, plainly_value _ (by decide)⟩, trivial⟩, trivial⟩
  | dropdown =>
    refine .group (by decide) (own.append (plainly_value _ (by decide))) (.parts ⟨?_, ?_, trivial⟩)
    · exact ⟨⟨by decide, plainly_value _ (by decide)⟩, trivial, trivial,
        proper_entity (by decide), trivial⟩
    · exact ⟨⟨by decide, plainly_value _ (by decide)⟩,
        blocksProper_map.mpr fun o _ => proper_dropdownEntry o⟩
  | accordion =>
    exact .group (by decide) (own.append (plainly_value _ (by decide)))
      (.parts (blocksProper_map.mpr fun i _ => proper_accordionPart i))
  | tabs =>
    refine .group (by decide) (own.append (plainly_value _ (by decide))) (.panels ?_ ?_ _)
    · exact ⟨⟨by decide, plainly_value _ (by decide)⟩,
        blocksProper_map.mpr fun t _ => proper_tabButton _ t⟩
    · exact ⟨by decide, plainly_value _ (by decide)⟩
  | navbar | footer =>
    exact .group (by decide) own (.parts (blocksProper_map.mpr fun l _ => proper_navEntry l))
  | label =>
    exact .line (by decide) (own.append (plainly_value _ (by decide))) ⟨trivial, trivial⟩
  | checkbox | radio => exact .empty (by decide) (own.append (plainly_toggle _ _))
  | select => exact .group (by decide) own (.parts (proper_choices _))
  | map =>
    have lazy : Plainly [.value "loading" "lazy", .flag "allowfullscreen"] :=
      (plainly_value _ (by decide)).append (plainly_flag (by decide))
    exact .line (by decide) (own.append (lazy.append (plainly_value _ (by decide)))) trivial
  | socialIcons =>
    exact .group (by decide) own (.parts (blocksProper_map.mpr fun l _ => proper_profile l))
  | table =>
    exact .group (by decide) own (.parts (blocksProper_map.mpr fun row _ => proper_tableRow row))
  | list =>
    refine .group ?_ own (.parts (proper_listItems _))
    split <;> decide
  | blockquote =>
    exact .group (by decide) own (.parts ⟨⟨⟨by decide, nofun⟩, trivial, trivial⟩,
      ⟨⟨by decide, nofun⟩, trivial, trivial, trivial⟩, trivial⟩)
  | spinner => exact .line (by decide) own trivial
  | rating =>
    exact .line (by decide) (own.append (plainly_value _ (by decide))) (proper_stars _ _)
  | carousel =>
    refine .group (by decide) (own.append (plainly_value _ (by decide)))
      (.parts ⟨?_, ?_, ?_, trivial⟩)
    · exact ⟨⟨by decide, plainly_value _ (by decide)⟩,
        blocksProper_map.mpr fun i _ => proper_slide i⟩
    · exact ⟨⟨by decide, plainly_value _ (by decide)⟩, proper_entity (by decide), trivial⟩
    · exact ⟨⟨by decide, plainly_value _ (by decide)⟩, proper_entity (by decide), trivial⟩
  | unknown => exact absurd kind has.known

/-- A node without an element of its own is a comment. -/
theorem elementBlock_eq_comment (none : ¬ HasElement e) (children : List Block) :
    ∃ s, elementBlock e children = .line (.comment s) := by
  by_cases known : e.kind = .unknown
  · simp only [elementBlock, known]
    exact ⟨_, rfl⟩
  · have icon : ¬ (e.kind = .icon → (Icon.find? (e.content.iconName.getD "")).isSome = true) :=
      fun icon => none ⟨known, icon⟩
    obtain ⟨kind, missing⟩ := Classical.not_imp.mp icon
    rw [Bool.not_eq_true, Option.isSome_eq_false_iff, Option.isNone_iff_eq_none] at missing
    simp only [elementBlock, kind, iconBlock, missing]
    exact ⟨_, rfl⟩

/-! ## From elements to layouts -/

variable {ok : String × Option String → Prop}

variable (ok) in
/-- The id of an element, and its events whose code is written, are as asked for. -/
structure ElementProper (e : Element) : Prop where
  id : ok ("id", some (escape e.id))
  event : ∀ v ∈ e.events.entries, isWrittenEvent v.1 v.2 = true → ok (v.1, some (escape v.2))

/-- The attributes of an element behind its id are as asked for when its events are. -/
theorem ok_tail_nodeAttributes (less : ∀ a, PlainAttribute a → ok a)
    (event : ∀ v ∈ e.events.entries, isWrittenEvent v.1 v.2 = true →
      ok (v.1, some (escape v.2))) :
    ∀ a ∈ (nodeAttributes e).tail, ok a.asRead := by
  have name : Plainly (e.content.inputName.map (Attribute.value "name")).toList :=
    plainly_option _ (by decide)
  have hint : Plainly (e.content.autocomplete.map (Attribute.value "autocomplete")).toList :=
    plainly_option _ (by decide)
  have required :
      Plainly (if e.content.isRequired == some true then [.flag "required"] else []) := by
    split
    · exact plainly_flag (by decide)
    · nofun
  simp only [nodeAttributes, List.cons_append, List.tail_cons, List.forall_mem_append,
    List.forall_mem_map, List.mem_filter]
  exact ⟨⟨⟨fun v mem => event v mem.1 mem.2, fun a mem => less _ (name a mem)⟩,
    fun a mem => less _ (required a mem)⟩, fun a mem => less _ (hint a mem)⟩

theorem OwnAttributes.forall_mem (less : ∀ a, PlainAttribute a → ok a) (proper : ElementProper ok e)
    {as : List Attribute} (own : OwnAttributes e as) : ∀ a ∈ as, ok a.asRead := by
  obtain ⟨more, rfl, plain⟩ := own
  refine List.forall_mem_append.mpr ⟨List.forall_mem_cons.mpr ⟨proper.id, ?_⟩,
    fun a mem => less _ (plain a mem)⟩
  exact ok_tail_nodeAttributes less proper.event

theorem Holds.proper (less : ∀ a, PlainAttribute a → ok a) {children content : List Block}
    {shows : Bool} (inner : BlocksProper ok children) (holds : Holds children shows content) :
    BlocksProper ok content := by
  cases holds with
  | parts proper => exact proper.imp less
  | behind front proper => exact blocksProper_append.mpr ⟨proper.imp less, inner⟩
  | panels proper wrapper active =>
    refine ⟨proper.imp less, ⟨wrapper.imp less, blocksProper_map.mpr fun child mem => ?_⟩, trivial⟩
    have panel : ProperTag PlainAttribute "div" _ :=
      ⟨by decide, plainly_tabPanel active child.2⟩
    exact ⟨panel.imp less, blocksProper_iff.mp inner _ (List.fst_mem_of_mem_zipIdx mem), trivial⟩

theorem Carries.proper (less : ∀ a, PlainAttribute a → ok a) (proper : ElementProper ok e)
    {children : List Block} {shows : Bool} {b : Block} (inner : BlocksProper ok children)
    (carries : Carries e children shows b) : b.Proper ok := by
  cases carries with
  | empty name own => exact ⟨name, own.forall_mem less proper⟩
  | line name own content => exact ⟨⟨name, own.forall_mem less proper⟩, content.imp less⟩
  | group name own holds => exact ⟨⟨name, own.forall_mem less proper⟩, holds.proper less inner⟩

/-- The block of an element is proper around proper blocks. -/
theorem proper_elementBlock (less : ∀ a, PlainAttribute a → ok a) (proper : ElementProper ok e)
    {children : List Block} (inner : BlocksProper ok children) :
    (elementBlock e children).Proper ok := by
  by_cases has : HasElement e
  · exact (carries_elementBlock has children).proper less proper inner
  · obtain ⟨s, same⟩ := elementBlock_eq_comment has children
    rw [same]
    trivial

theorem proper_linked (less : ∀ a, PlainAttribute a → ok a) (mode : LinkMode)
    (link : Option Link) {b : Block} (inner : b.Proper ok) : (linked mode link b).Proper ok := by
  cases link with
  | none => exact inner
  | some l =>
    have anchor : ProperTag PlainAttribute "a" [.value "href" (mode.address l)] :=
      ⟨by decide, plainly_value _ (by decide)⟩
    exact ⟨anchor.imp less, inner, trivial⟩

mutual
theorem proper_nodeBlock (less : ∀ a, PlainAttribute a → ok a) (mode : LinkMode) : (n : Node) →
    (∀ m ∈ n.withDescendants, ElementProper ok m.element) → (nodeBlock mode n).Proper ok
  | .mk e children, proper => by
    obtain ⟨here, below⟩ := Node.forall_mem_withDescendants.mp proper
    exact proper_linked less mode e.link
      (proper_elementBlock less here (proper_forestBlocks less mode children below))

/-- The blocks of a layout are proper when the ids and the events of its nodes are. -/
theorem proper_forestBlocks (less : ∀ a, PlainAttribute a → ok a) (mode : LinkMode) :
    (layout : List Node) → (∀ m ∈ Node.forestNodes layout, ElementProper ok m.element) →
    BlocksProper ok (forestBlocks mode layout)
  | [], _ => trivial
  | n :: rest, proper => by
    obtain ⟨here, there⟩ := Node.forall_mem_forestNodes_cons.mp proper
    exact ⟨proper_nodeBlock less mode n here, proper_forestBlocks less mode rest there⟩
end

end

/-! ## The text of a layout -/

/-- The attribute of a written event is legible. -/
theorem legibleAttribute_of_isWrittenEvent {event code : String}
    (written : isWrittenEvent event code = true) :
    LegibleAttribute (event, some (escape code)) := by
  have chars := List.all_eq_true.mp ((Bool.and_eq_true _ _).mp written).2
  exact legibleAttribute_value (fun c mem => (Bool.or_eq_true _ _).mpr (.inl (chars c mem))) code

/-- The text of a layout is read with the marks of its blocks. -/
theorem exists_read?_layoutText (mode : LinkMode) (format : Format)
    (plain : Plain format.indent.toList) (layout : List Node) :
    ∃ ts, read? (layoutText mode format layout) = some ts ∧
      ts.filter Token.isMark = blocksMarks (forestBlocks mode layout) := by
  have proper : BlocksProper LegibleAttribute (forestBlocks mode layout) :=
    proper_forestBlocks (fun _ => And.left) mode layout fun n _ =>
      ⟨legibleAttribute_id n.id, fun _ _ => legibleAttribute_of_isWrittenEvent⟩
  obtain ⟨ts, read, marks, -⟩ := read?_write plain (fun _ => id) proper
  exact ⟨ts, read, marks⟩

theorem plain_of_blank {s : List Char} (blank : ∀ c ∈ s, Text.isBlank c = true) : Plain s :=
  fun c mem => ⟨ne_of_class (blank c mem) (by decide), ne_of_class (blank c mem) (by decide)⟩

/-- The text of a layout is markup with the tags, attributes and comments of its tree and no
others, however its nodes are named and whatever they say: no text in it begins or ends one. -/
theorem read?_layoutText (mode : LinkMode) (format : Format) (layout : List Node)
    (blank : ∀ c ∈ format.indent.toList, Text.isBlank c = true)
    (named : ∀ n ∈ Node.forestNodes layout, ∀ code ∈ n.element.events.get? "", code = "") :
    ∃ ts, read? (layoutText mode format layout) = some ts ∧
      ts.flatMap Token.written = (layoutText mode format layout).toList ∧
      ts.filter Token.isMark = blocksMarks (forestBlocks mode layout) ∧ Nested [] ts ∧
      ∀ t ∈ ts, t.Legible ∧ ∀ a ∈ t.attributes, a.1 ≠ "" := by
  have less : ∀ a, PlainAttribute a → LegibleAttribute a ∧ a.1 ≠ "" :=
    fun a plain => ⟨plain.1, ne_empty_of_isPlainName plain.2⟩
  have proper := proper_forestBlocks less mode layout fun n mem => by
    refine ⟨⟨legibleAttribute_id n.id, show "id" ≠ "" by decide⟩,
      fun v entry written => ⟨legibleAttribute_of_isWrittenEvent written, fun nameless => ?_⟩⟩
    -- An event without a name has no code, so it is not written.
    have found : n.element.events.get? "" = some v.2 :=
      n.element.events.get?_eq_some_iff.mpr (nameless ▸ entry)
    rw [isWrittenEvent, named n mem v.2 found] at written
    exact Bool.noConfusion written
  obtain ⟨ts, read, marks, nested, all⟩ :=
    read?_write (plain_of_blank blank) (fun _ => And.left) proper
  exact ⟨ts, read, written_of_read? read, marks, nested, fun t mem =>
    ⟨(all t mem).1, fun a has => ((all t mem).2 a has).2⟩⟩

/-- A layout whose texts look like markup. -/
def hostileLayout : List Node :=
  [.mk
    { id := "\"><b>", kind := .card, name := "", link := some (.external "'\">"),
      events := Dict.empty.insert "onclick" "</a>" }
    [.mk { id := "t", kind := .text, name := "", content := { text := some "</p><!--" } } [],
     .mk { id := "i", kind := .icon, name := "", content := { iconName := some "-->" } } []]]

theorem read?_layoutText_hostile :
    ∃ ts, read? (layoutText .singlePage {} hostileLayout) = some ts ∧
      ts.filter Token.isMark =
        [.opening "a" [("href", some "&#39;&quot;&gt;")],
         .opening "div" [("id", some "&quot;&gt;&lt;b&gt;"), ("onclick", some "&lt;/a&gt;")],
         .opening "p" [("id", some "t")], .closing "p", .comment " Icon not found: - -&gt; ",
         .closing "div", .closing "a"] ∧
      Nested [] ts := by
  obtain ⟨ts, read, -, marks, nested, -⟩ :=
    read?_layoutText .singlePage {} hostileLayout (List.all_eq_true.mp (by decide)) (by decide)
  exact ⟨ts, read, marks.trans (by decide), nested⟩

end PageStudio.Html
