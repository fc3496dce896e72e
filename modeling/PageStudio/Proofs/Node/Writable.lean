import PageStudio.Node.Palette
import PageStudio.Proofs.Json.Inversion
import PageStudio.Proofs.Node.Elements

/-!
# Nodes that can be saved

A node that was read, and carries no progress, can be written to a text and read back from there. So
can a new node from the palette: the progress of a new progress bar is the only floating-point
number that the palette knows.

## Main statements

* `Element.Writable`: what an element keeps in an editor.
* `legible_toJson`: the text of writable nodes is read token by token.
* `Node.Given.writable`, `NodePatch.Given.writable`: what was read can be written.
-/

namespace PageStudio

open Json Style

/-! ## Legible values -/

namespace Json

theorem itemsLegible_iff {items : List Json} : ItemsLegible items ↔ ∀ v ∈ items, v.Legible := by
  induction items with
  | nil => exact ⟨fun _ => nofun, fun _ => trivial⟩
  | cons v rest ih => rw [ItemsLegible, ih, List.forall_mem_cons]

theorem membersLegible_iff {members : List (String × Json)} :
    MembersLegible members ↔ ∀ m ∈ members, m.2.Legible := by
  induction members with
  | nil => exact ⟨fun _ => nofun, fun _ => trivial⟩
  | cons m rest ih => rw [MembersLegible, ih, List.forall_mem_cons]

@[simp] theorem legible_bool (b : Bool) : (Json.bool b).Legible := trivial

@[simp] theorem legible_string (s : String) : (Json.string s).Legible := trivial

@[simp] theorem legible_word32 (n : UInt32) : (Json.number (.natural n.toNat)).Legible :=
  isToken_natural (Nat.lt_trans n.toNat_lt (by decide))

@[simp] theorem legible_word64 (n : UInt64) : (Json.number (.natural n.toNat)).Legible :=
  isToken_natural n.toNat_lt

theorem legible_fifty : (ofFloat 50).Legible := by
  have finite : Float.isFinite 50 = true := by decide +kernel
  unfold ofFloat
  rw [if_pos finite]
  exact isToken_fifty

@[simp] theorem legible_array_map {α : Type} {write : α → Json} {items : List α} :
    (Json.array (items.map write)).Legible ↔ ∀ a ∈ items, (write a).Legible := by
  show ItemsLegible _ ↔ _
  rw [itemsLegible_iff, List.forall_mem_map]

theorem legible_object {members : List (String × Json)} (each : ∀ m ∈ members, m.2.Legible) :
    (Json.object members).Legible := membersLegible_iff.mpr each

theorem legible_object_map {α : Type} {key : α → String} {write : α → Json} {entries : List α}
    (each : ∀ e ∈ entries, (write e).Legible) :
    (Json.object (entries.map fun e => (key e, write e))).Legible :=
  legible_object (List.forall_mem_map.mpr each)

/-- A record is legible where its fields are. -/
theorem legible_ofFields {written : List (String × Option Json)}
    (each : ∀ w ∈ written, ∀ v, w.2 = some v → v.Legible) : (ofFields written).Legible := by
  refine legible_object fun m mem => ?_
  obtain ⟨w, there, same⟩ := List.mem_filterMap.mp mem
  obtain ⟨v, has, rfl⟩ := Option.map_eq_some_iff.mp same
  exact each w there v has

end Json

/-! ## Contents -/

@[simp] theorem DropdownOption.legible (i : DropdownOption) : i.toJson.Legible :=
  legible_object (by simp)

@[simp] theorem AccordionItem.legible (i : AccordionItem) : i.toJson.Legible :=
  legible_object (by simp)

@[simp] theorem Tab.legible (i : Tab) : i.toJson.Legible := legible_object (by simp)

@[simp] theorem NavLink.legible (i : NavLink) : i.toJson.Legible := legible_object (by simp)

@[simp] theorem SocialLink.legible (i : SocialLink) : i.toJson.Legible := legible_object (by simp)

@[simp] theorem CarouselImage.legible (i : CarouselImage) : i.toJson.Legible :=
  legible_object (by simp)

/-- Of all fields of a content only the progress is a floating-point number. -/
theorem Content.legible {c : Content} (progress : ∀ x, c.progress = some x → x = 50) :
    c.toJson.Legible := by
  have fifty : ∀ x, c.progress = some x → (ofFloat x).Legible := by
    intro x has
    rw [progress x has]
    exact legible_fifty
  unfold toJson
  refine legible_ofFields ?_
  simp only [List.forall_mem_cons, textJson, listJson, Option.map_eq_some_iff,
    forall_exists_index, and_imp, forall_apply_eq_imp_iff₂, legible_string, legible_bool,
    legible_word32, legible_word64, legible_array_map, DropdownOption.legible,
    AccordionItem.legible, Tab.legible, NavLink.legible, SocialLink.legible,
    CarouselImage.legible, implies_true, true_and, List.not_mem_nil, false_implies, and_true]
  exact fifty

/-! ## Styles -/

@[simp] theorem Style.Layer.legible (layer : Layer) : layer.toJson.Legible :=
  legible_object_map fun e _ => legible_string e.2

theorem Style.Appearance.legible (a : Appearance) : a.toJson.Legible :=
  legible_ofFields (by simp)

theorem legible_stylesJson (styles : Dict String Appearance) : (stylesJson styles).Legible :=
  legible_object_map fun e _ => e.2.legible

theorem legible_eventsJson (events : Dict String String) : (eventsJson events).Legible :=
  legible_object_map fun e _ => legible_string e.2

/-! ## Writable elements -/

/-- The link of an element, if there is one, can be written. -/
def Element.LinkStorable (e : Element) : Prop := ∀ l, e.link = some l → l.Storable

/-- The element has no progress. -/
def Element.Progressless (e : Element) : Prop := e.content.progress = none

/-- The element has no progress but that of a new progress bar, and its link can be written. -/
structure Element.Writable (e : Element) : Prop where
  progress : ∀ x, e.content.progress = some x → x = 50
  link : e.LinkStorable

theorem Element.aboutContent_linkStorable : AboutContent LinkStorable :=
  fun _ _ _ link storable l has => storable l (link ▸ has)

theorem Element.aboutContent_writable : AboutContent Writable := by
  intro e e' content link writable
  exact ⟨fun x has => writable.progress x (content ▸ has),
    aboutContent_linkStorable content link writable.link⟩

namespace Element.Writable

theorem of_progressless {e : Element} (progressless : e.Progressless) (link : e.LinkStorable) :
    e.Writable where
  progress x has := by
    rw [progressless] at has
    cases has
  link := link

theorem storable {e : Element} (writable : e.Writable) : e.Storable := by
  refine ⟨fun x has => ?_, writable.link⟩
  rw [writable.progress x has]
  decide +kernel

end Element.Writable

theorem Link.storable_ofText (s : String) : (ofText s).Storable := by
  unfold ofText
  split
  next => trivial
  next elsewhere =>
    show ¬ pageMark <+: s.toList
    rw [← Text.isSome_dropFront?_iff, elsewhere]
    exact Bool.false_ne_true

/-- A link that was read can be written. -/
theorem Link.storable_of_read {v : Source} {l : Link} (found : read v = some l) : l.Storable := by
  obtain ⟨s, -, rfl⟩ := Option.map_eq_some_iff.mp found
  exact storable_ofText s

namespace Node

/-! ## Legible nodes -/

theorem legible_elementJson {e : Element} (writable : e.Writable) {children : List Json}
    (inner : (Json.array children).Legible) : (elementJson e children).Legible := by
  have link : ∀ l : Link, l.toJson.Legible := fun l => legible_string l.toText
  have events : ∀ v, (if e.events.isEmpty then none else some (eventsJson e.events)) = some v →
      v.Legible := by
    intro v has
    split at has
    next => cases has
    next =>
      cases has
      exact legible_eventsJson e.events
  refine legible_ofFields ?_
  simp only [List.forall_mem_cons, Option.map_eq_some_iff, forall_exists_index, and_imp,
    forall_apply_eq_imp_iff₂, Option.some.injEq, forall_eq', legible_string, link, implies_true,
    true_and, List.not_mem_nil, false_implies, and_true]
  exact ⟨legible_stylesJson e.styles, Content.legible writable.progress, inner, events⟩

mutual
theorem legible_toJson : {n : Node} → n.All Element.Writable → n.toJson.Legible
  | .mk _ _, all => by
    obtain ⟨own, below⟩ := all_mk_iff.mp all
    exact legible_elementJson own (legible_forestJson below)

theorem legible_forestJson : {forest : List Node} → ForestAll Element.Writable forest →
    (Json.array (forestJson forest)).Legible
  | [], _ => trivial
  | _ :: _, all => by
    obtain ⟨first, others⟩ := forestAll_cons_iff.mp all
    exact ⟨legible_toJson first, legible_forestJson others⟩
end

/-! ## Nodes that were read -/

theorem forestAll_of_list {P : Element → Prop} {read : Reader Node}
    (each : ∀ v n, read v = some n → n.All P) {v : Source} {forest : List Node}
    (found : Reader.list read v = some forest) : ForestAll P forest := by
  refine forestAll_iff.mpr fun n mem => ?_
  obtain ⟨w, value⟩ := Reader.exists_of_mem_list found n mem
  exact each w n value

/-- A reader that goes level by level reads nodes all elements of which have a property, if this
holds of every level by itself. -/
theorem all_of_levels {P : Element → Prop} {level : Reader (List Node) → Reader Node}
    {within : Nat → Reader Node} (zero : within 0 = level fun _ => none)
    (succ : ∀ depth, within (depth + 1) = level (Reader.list (within depth)))
    (step : ∀ readChildren, (∀ v forest, readChildren v = some forest → ForestAll P forest) →
      ∀ {v n}, level readChildren v = some n → n.All P)
    (depth : Nat) {v : Source} {n : Node} (found : within depth v = some n) : n.All P := by
  induction depth generalizing v n with
  | zero =>
    rw [zero] at found
    exact step _ (fun _ _ none => by cases none) found
  | succ depth ih =>
    rw [succ] at found
    exact step _ (fun _ _ all => forestAll_of_list (fun _ _ => ih) all) found

/-- The children and the link of an element were read. -/
theorem linkStorable_of_fields {fields : Fields} {readChildren : Reader (List Node)}
    (inner : ∀ v forest, readChildren v = some forest → ForestAll Element.LinkStorable forest)
    {e : Element} {children : List Node}
    (inside : fields.withDefault "children" readChildren [] = some children)
    (address : fields.optional "linkUrl" Link.read = some e.link) :
    All Element.LinkStorable (.mk e children) := by
  refine all_mk_iff.mpr ⟨fun l has => ?_, ?_⟩
  · rw [has] at address
    obtain ⟨w, value⟩ := Fields.exists_of_optional address
    exact Link.storable_of_read value
  · rcases Fields.exists_of_withDefault inside with rfl | ⟨w, value⟩
    · exact forestAll_nil
    · exact inner w children value

theorem linkStorable_of_readWith {readChildren : Reader (List Node)}
    (inner : ∀ v forest, readChildren v = some forest → ForestAll Element.LinkStorable forest)
    {v : Source} {n : Node} (found : readWith readChildren v = some n) :
    n.All Element.LinkStorable := by
  obtain ⟨fields, -, found⟩ := exists_of_bind_eq_some found
  iterate 5 obtain ⟨_, -, found⟩ := exists_of_bind_eq_some found
  obtain ⟨children, inside, found⟩ := exists_of_bind_eq_some found
  obtain ⟨link, address, found⟩ := exists_of_bind_eq_some found
  obtain ⟨events, -, found⟩ := exists_of_bind_eq_some found
  cases found
  exact linkStorable_of_fields inner inside address

theorem linkStorable_of_readWithin (depth : Nat) {v : Source} {n : Node}
    (found : readWithin depth v = some n) : n.All Element.LinkStorable :=
  all_of_levels rfl (fun _ => rfl) (fun _ => linkStorable_of_readWith) depth found

theorem linkStorable_of_readForest {v : Source} {forest : List Node}
    (found : readForest v = some forest) : ForestAll Element.LinkStorable forest :=
  forestAll_of_list (fun w _ => linkStorable_of_readWithin w.height) found

/-- A node is given as a JSON value without progress. -/
structure Given (n : Node) : Prop where
  read : ∃ v, Node.read v = some n
  progressless : n.All Element.Progressless

/-- A node without progress that can be written is given as what is written. -/
theorem Given.of_linkStorable {n : Node} (links : n.All Element.LinkStorable)
    (progressless : n.All Element.Progressless) : n.Given where
  read := by
    have storable : n.All Element.Storable := fun m mem =>
      (Element.Writable.of_progressless (progressless m mem) (links m mem)).storable
    exact ⟨_, reads_toJson arranges_id (storable_of_all storable)⟩
  progressless := progressless

/-- A node that was given can be written. -/
theorem Given.writable {n : Node} (given : n.Given) : n.All Element.Writable := by
  obtain ⟨v, found⟩ := given.read
  have links : n.All Element.LinkStorable := linkStorable_of_readWithin _ found
  exact fun m mem => .of_progressless (given.progressless m mem) (links m mem)

/-- A new node from the palette can be written. -/
theorem writable_fresh (id : String) (kind : Kind) : (fresh id kind).All Element.Writable := by
  refine all_mk_iff.mpr ⟨⟨fun x has => ?_, fun l has => ?_⟩, forestAll_nil⟩
  · show x = 50
    replace has : (kind.newContent (itemId id)).progress = some x := has
    cases kind <;> cases has
    rfl
  · cases has

end Node

/-! ## Patches -/

namespace NodePatch

/-- A patch is given as a JSON value without progress. -/
structure Given (p : NodePatch) : Prop where
  read : ∃ v, NodePatch.read v = some p
  content : ∀ c, p.content = some c → c.progress = none
  children : ∀ forest, p.children = some forest → Node.ForestAll Element.Progressless forest

/-- What a patch that was read brings with it can be written. -/
theorem linkStorable_of_read {p : NodePatch} {v : Source} (found : read v = some p) :
    (∀ forest, p.children = some forest → Node.ForestAll Element.LinkStorable forest) ∧
      ∀ l, p.link = some (some l) → l.Storable := by
  obtain ⟨fields, -, found⟩ := exists_of_bind_eq_some found
  iterate 4 obtain ⟨_, -, found⟩ := exists_of_bind_eq_some found
  obtain ⟨children, inside, found⟩ := exists_of_bind_eq_some found
  obtain ⟨link, address, found⟩ := exists_of_bind_eq_some found
  obtain ⟨events, -, found⟩ := exists_of_bind_eq_some found
  cases found
  refine ⟨fun forest has => ?_, fun l has => ?_⟩
  · obtain rfl : children = some forest := has
    obtain ⟨w, value⟩ := Fields.exists_of_optional inside
    exact Node.linkStorable_of_readForest value
  · obtain rfl : link = some (some l) := has
    rcases Fields.exists_of_withDefault address with missing | ⟨w, value⟩
    · cases missing
    · obtain ⟨x, value, same⟩ := Option.map_eq_some_iff.mp value
      cases same
      obtain ⟨u, value⟩ := Reader.exists_of_optional value
      exact Link.storable_of_read value

/-- A patch that was given keeps nodes writable. -/
theorem Given.writable {p : NodePatch} (given : p.Given) : ∀ {n : Node},
    n.All Element.Writable → (p.apply n).All Element.Writable
  | .mk e children, all => by
    obtain ⟨own, below⟩ := Node.all_mk_iff.mp all
    obtain ⟨v, found⟩ := given.read
    obtain ⟨inside, address⟩ := linkStorable_of_read found
    refine Node.all_mk_iff.mpr ⟨⟨fun x has => ?_, fun l has => ?_⟩, ?_⟩
    · -- The content is that of the patch, which has no progress, or that of the node.
      replace has : (p.content.getD e.content).progress = some x := has
      cases content : p.content with
      | none => exact own.progress x (by rwa [content] at has)
      | some c =>
        rw [content, Option.getD_some, given.content c content] at has
        cases has
    · replace has : p.link.getD e.link = some l := has
      cases link : p.link with
      | none => exact own.link l (by rwa [link] at has)
      | some new =>
        rw [link, Option.getD_some] at has
        exact address l (link.trans (congrArg some has))
    · show Node.ForestAll _ (p.children.getD children)
      cases new : p.children with
      | none => exact below
      | some forest =>
        have progressless := given.children forest new
        have links := inside forest new
        exact fun m mem => .of_progressless (progressless m mem) (links m mem)

end NodePatch

end PageStudio
