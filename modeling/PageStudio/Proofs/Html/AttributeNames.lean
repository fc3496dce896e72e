import PageStudio.Proofs.Dict
import PageStudio.Proofs.Html.Links
import PageStudio.Proofs.Text.Part

/-!
# The names of attributes

The element of a node has attributes of four sources: the id, the events with code, the fields of a
form and the renderer of the kind. Those that do not come from events are told apart by their names
in every case of letters. Events are trusted to be named for what they are: their names are taken as
they stand, without a look at the other names.

## Main statements

* `exists_kindAttributes`: what the renderer of a kind adds.
* `attributeNames_nodup_iff`: when no attribute of an element is shadowed by another one.
-/

namespace PageStudio.Html

/-- The name of an attribute. -/
def Attribute.name : Attribute → String
  | value name _ => name
  | flag name => name

/-- The attributes of the outermost tag of a block. -/
def Block.tagAttributes : Block → List Attribute
  | .line (.element _ attributes _) => attributes
  | .line (.empty _ attributes) => attributes
  | .line _ => []
  | .group _ attributes _ => attributes

/-- The names of the attributes of an element, in the order in which they are written. -/
def attributeNames (e : Element) : List String :=
  (elementBlock e []).tagAttributes.map Attribute.name

/-- The names that an element has without its events. -/
def ownNames (e : Element) : List String := attributeNames { e with events := ∅ }

/-- The names of the events whose code is written. -/
def writtenEvents (events : Dict String String) : List String :=
  (events.entries.filter fun v => isWrittenEvent v.1 v.2).map (·.1)

/-- The events that are written on an element. -/
def eventNames (e : Element) : List String :=
  if HasElement e then writtenEvents e.events else []

/-! ## Names that are there without events -/

/-- The names that the attributes of every element can have without events. -/
def nodeNames : List String := ["id", "name", "required", "autocomplete"]

/-- The names that the renderer of a kind can add. -/
def kindNames : Kind → List String
  | .form => ["action", "method", "enctype"]
  | .image => ["src", "alt"]
  | .input => ["type", "placeholder"]
  | .textarea => ["placeholder"]
  | .video => ["src", "frameborder", "allow", "allowfullscreen"]
  | .dropdown | .accordion | .tabs | .rating | .carousel => ["class"]
  | .label => ["for"]
  | .checkbox | .radio => ["type", "checked"]
  | .map => ["loading", "allowfullscreen", "src"]
  | _ => []

theorem nodup_nodeNames_kindNames (kind : Kind) :
    ((nodeNames ++ kindNames kind).map Text.caseless).Nodup := by
  cases kind <;> decide

theorem ne_empty_of_mem_names {kind : Kind} {name : String}
    (mem : name ∈ nodeNames ++ kindNames kind) : name ≠ "" := by
  have all : ((nodeNames ++ kindNames kind).all (· != "")) = true := by cases kind <;> decide
  exact bne_iff_ne.mp (List.all_eq_true.mp all name mem)

section

variable {e : Element}

theorem map_name_option (name : String) (text : Option String) :
    ((text.map (Attribute.value name)).toList.map Attribute.name).Sublist [name] := by
  cases text with
  | none => exact List.nil_sublist _
  | some text => exact List.Sublist.refl _

theorem map_name_flag (name : String) (holds : Bool) :
    ((if holds = true then [Attribute.flag name] else []).map Attribute.name).Sublist [name] := by
  split
  · exact List.Sublist.refl _
  · exact List.nil_sublist _

/-- The attributes of an element are those of the node and some of its kind, which do not depend on
events and children. -/
theorem exists_kindAttributes (has : HasElement e) :
    ∃ more : List Attribute,
      (∀ events children, (elementBlock { e with events := events } children).tagAttributes =
        nodeAttributes { e with events := events } ++ more) ∧
      (more.map Attribute.name).Sublist (kindNames e.kind) := by
  obtain ⟨id, kind, name, styles, content, link, events⟩ := e
  -- What is added is read off the block, so it is given last.
  cases kind with
  | form =>
    refine ⟨?_, fun events children => ?_, ?_⟩
    rotate_left
    · simp only [elementBlock, Block.tagAttributes]
      exact List.append_assoc _ _ _
    · exact ((map_name_option "enctype" content.formEnctype).cons_cons "method").cons_cons "action"
  | checkbox =>
    refine ⟨.value "type" "checkbox" ::
      if content.checked == some true then [.flag "checked"] else [], fun _ _ => rfl, ?_⟩
    exact (map_name_flag "checked" (content.checked == some true)).cons_cons "type"
  | radio =>
    refine ⟨.value "type" "radio" ::
      if content.checked == some true then [.flag "checked"] else [], fun _ _ => rfl, ?_⟩
    exact (map_name_flag "checked" (content.checked == some true)).cons_cons "type"
  | image | input | textarea | video | dropdown | accordion | tabs | rating | carousel | label
  | map =>
    refine ⟨?_, fun events children => ?_, ?_⟩
    rotate_left
    · simp only [elementBlock, lineOf, Block.tagAttributes]
      exact rfl
    · exact List.Sublist.refl _
  | icon =>
    obtain ⟨icon, found⟩ := Option.isSome_iff_exists.mp (has.icon rfl)
    have found : Icon.find? (content.iconName.getD "") = some icon := found
    refine ⟨[], fun events children => ?_, List.Sublist.refl _⟩
    simp only [elementBlock, iconBlock, found, List.append_nil]
    rfl
  | unknown => exact absurd rfl has.known
  | _ => exact ⟨[], fun _ _ => (List.append_nil _).symm, List.Sublist.refl _⟩

/-- The events stand behind the id, and in front of names that do not depend on them. -/
theorem exists_otherNames (has : HasElement e) :
    ∃ others : List String, ("id" :: others).Sublist (nodeNames ++ kindNames e.kind) ∧
      ∀ events children,
        (elementBlock { e with events := events } children).tagAttributes.map Attribute.name =
          "id" :: writtenEvents events ++ others := by
  obtain ⟨more, same, named⟩ := exists_kindAttributes has
  have name := map_name_option "name" e.content.inputName
  have required := map_name_flag "required" (e.content.isRequired == some true)
  have hint := map_name_option "autocomplete" e.content.autocomplete
  refine ⟨_, (((name.append required).append hint).append named).cons_cons "id",
    fun events children => ?_⟩
  rw [same]
  simp only [nodeAttributes, writtenEvents, List.map_append, List.map_cons, List.map_map,
    List.append_assoc, List.cons_append]
  rfl

/-- The events stand between some of the other names. -/
theorem exists_names (e : Element) :
    ∃ front back : List String, (front ++ back).Sublist (nodeNames ++ kindNames e.kind) ∧
      ownNames e = front ++ back ∧ attributeNames e = front ++ eventNames e ++ back := by
  by_cases has : HasElement e
  · obtain ⟨others, named, same⟩ := exists_otherNames has
    refine ⟨["id"], others, named, same ∅ [], ?_⟩
    rw [eventNames, if_pos has]
    exact same e.events []
  · have bare : ¬ HasElement { e with events := ∅ } := fun has' => has ⟨has'.known, has'.icon⟩
    have none : attributeNames e = [] := by
      obtain ⟨s, comment⟩ := elementBlock_eq_comment has []
      rw [attributeNames, comment]
      rfl
    have none' : ownNames e = [] := by
      obtain ⟨s, comment⟩ := elementBlock_eq_comment bare []
      rw [ownNames, attributeNames, comment]
      rfl
    refine ⟨[], [], List.nil_sublist _, none', ?_⟩
    rw [none, eventNames, if_neg has]
    rfl

theorem nodup_ownNames (e : Element) : ((ownNames e).map Text.caseless).Nodup := by
  obtain ⟨front, back, named, own, -⟩ := exists_names e
  rw [own]
  exact (named.map Text.caseless).nodup (nodup_nodeNames_kindNames e.kind)

theorem perm_attributeNames (e : Element) :
    (attributeNames e).Perm (ownNames e ++ eventNames e) := by
  obtain ⟨front, back, -, own, names⟩ := exists_names e
  rw [own, names, List.append_assoc, List.append_assoc]
  exact List.Perm.append_left front List.perm_append_comm

theorem nodup_eventNames (e : Element) : (eventNames e).Nodup := by
  unfold eventNames
  split
  · exact (List.Sublist.map _ List.filter_sublist).nodup e.events.keys_nodup
  · exact List.nodup_nil

/-- A written event without a name is one that has code. -/
theorem ne_empty_of_mem_eventNames (named : ∀ code ∈ e.events.get? "", code = "") {name : String}
    (mem : name ∈ eventNames e) : name ≠ "" := by
  unfold eventNames at mem
  split at mem
  next =>
    obtain ⟨v, kept, rfl⟩ := List.mem_map.mp mem
    obtain ⟨entry, written⟩ := List.mem_filter.mp kept
    intro nameless
    have found : e.events.get? "" = some v.2 :=
      e.events.get?_eq_some_iff.mpr (nameless ▸ entry)
    rw [isWrittenEvent, named v.2 found] at written
    exact Bool.noConfusion written
  next => cases mem

theorem ne_empty_of_mem_attributeNames (named : ∀ code ∈ e.events.get? "", code = "")
    {name : String} (mem : name ∈ attributeNames e) : name ≠ "" := by
  obtain ⟨front, back, known, own, -⟩ := exists_names e
  rcases List.mem_append.mp ((perm_attributeNames e).subset mem) with other | event
  · exact ne_empty_of_mem_names (known.subset (own ▸ other))
  · exact ne_empty_of_mem_eventNames named event

end

/-! ## Names that are read -/

theorem map_fst_asRead (as : List Attribute) :
    (as.map Attribute.asRead).map Prod.fst = as.map Attribute.name := by
  rw [List.map_map]
  refine List.map_congr_left fun a _ => ?_
  cases a <;> rfl

/-- The tag of a block is among its marks. -/
theorem exists_mem_marks {b : Block} (some_attributes : b.tagAttributes ≠ []) :
    ∃ t ∈ b.marks, t.attributes = b.tagAttributes.map Attribute.asRead := by
  cases b with
  | group tag as content => exact ⟨.opening tag _, List.mem_cons_self, rfl⟩
  | line content =>
    cases content with
    | element tag as inner => exact ⟨.opening tag _, List.mem_cons_self, rfl⟩
    | empty tag as => exact ⟨.selfClosed tag _, List.mem_cons_self, rfl⟩
    | text | entity | comment => exact absurd rfl some_attributes

/-- The tag that carries the id of a shown node is read with the names of its attributes. -/
theorem exists_read?_attributeNames (mode : LinkMode) {format : Format}
    (plain : Plain format.indent.toList) {layout : List Node} {n : Node}
    (mem : n ∈ Node.forestNodes (shownForest layout)) (has : HasElement n.element) :
    ∃ ts, read? (layoutText mode format layout) = some ts ∧ ∃ t ∈ ts,
      ("id", some (escape n.element.id)) ∈ t.attributes ∧
        t.attributes.map Prod.fst = attributeNames n.element := by
  obtain ⟨ts, read, marks⟩ := exists_read?_layoutText mode format plain layout
  obtain ⟨e, children⟩ := n
  obtain ⟨more, same, -⟩ := exists_kindAttributes has
  have attributes : ∀ children, (elementBlock e children).tagAttributes =
      nodeAttributes e ++ more := same e.events
  have begins : Attribute.value "id" e.id ∈
      (elementBlock e (forestBlocks mode children)).tagAttributes := by
    rw [attributes]
    exact List.mem_cons_self
  obtain ⟨t, inside, here⟩ := exists_mem_marks (List.ne_nil_of_mem begins)
  have among : t ∈ blocksMarks (forestBlocks mode layout) := by
    have around := marks_nodeBlock_infix mode mem
    refine around.subset ?_
    rw [nodeBlock]
    exact (marks_infix_linked mode e.link _).subset inside
  refine ⟨ts, read, t, (List.mem_filter.mp (marks ▸ among)).1, ?_, ?_⟩
  · rw [here]
    exact List.mem_map_of_mem begins
  · have names := attributes []
    rw [here, map_fst_asRead, attributes, ← names]
    rfl

/-! ## Main results -/

/-- No attribute of an element is nameless, as long as no event without a name has code, and those
that do not come from events have different names in every case of letters. With them stand the
events that are written, each once and under its own name, whatever that is. So all names are
different exactly if the written events have different names, and none that is there without them.
These are the names that are read in the text of a layout. -/
theorem attributeNames_nodup_iff (e : Element) (named : ∀ code ∈ e.events.get? "", code = "") :
    (∀ name ∈ attributeNames e, name ≠ "") ∧
      ((ownNames e).map Text.caseless).Nodup ∧
      (eventNames e).Nodup ∧
      (attributeNames e).Perm (ownNames e ++ eventNames e) ∧
      (((attributeNames e).map Text.caseless).Nodup ↔
        ((eventNames e).map Text.caseless).Nodup ∧
          ∀ name ∈ ownNames e, ∀ event ∈ eventNames e, Text.caseless name ≠ Text.caseless event) ∧
      ∀ (mode : LinkMode) (format : Format) (layout : List Node) (n : Node),
        Plain format.indent.toList → n ∈ Node.forestNodes (shownForest layout) → n.element = e →
        HasElement e → ∃ ts, read? (layoutText mode format layout) = some ts ∧ ∃ t ∈ ts,
          ("id", some (escape e.id)) ∈ t.attributes ∧
            t.attributes.map Prod.fst = attributeNames e := by
  have perm := perm_attributeNames e
  refine ⟨fun name mem => ne_empty_of_mem_attributeNames named mem, nodup_ownNames e,
    nodup_eventNames e, perm, ?_, fun mode format layout n plain mem same has => ?_⟩
  · rw [(perm.map Text.caseless).nodup_iff, List.map_append, List.nodup_append,
      and_iff_right (nodup_ownNames e)]
    simp only [List.forall_mem_map]
  · subst same
    exact exists_read?_attributeNames mode plain mem has

/-- An event that is named for what happens shadows nothing. -/
theorem attributeNames_nodup_iff_handled :
    let e : Element :=
      { id := "c", kind := .checkbox, name := "C", content := { inputName := some "agree" },
        events := Dict.empty.insert "onchange" "send()" }
    (∀ code ∈ e.events.get? "", code = "") ∧
      attributeNames e = ["id", "onchange", "name", "type"] ∧
      ((attributeNames e).map Text.caseless).Nodup := by
  intro e
  have named : ∀ code ∈ e.events.get? "", code = "" := by decide
  obtain ⟨-, -, -, -, distinct, -⟩ := attributeNames_nodup_iff e named
  exact ⟨named, by decide, distinct.mpr (by decide)⟩

/-- An event that is named like an attribute of its element is written all the same. -/
theorem exists_repeated_name :
    let e : Element :=
      { id := "c", kind := .checkbox, name := "C", events := Dict.empty.insert "type" "x" }
    HasElement e ∧ attributeNames e = ["id", "type", "type"] ∧
      layoutText .singlePage {} [.mk e []] =
        "<input id=\"c\" type=\"x\" type=\"checkbox\" />\n" := by
  decide

end PageStudio.Html
