import PageStudio.Proofs.Json.Inversion
import PageStudio.Proofs.Node.Form

/-!
# How deep written nodes are

The reader of nodes looks at all that is written of a node. So it takes a node from a text only
where the levels of the text suffice for the deepest part of the node.
-/

namespace PageStudio

open Json Style

/-! ## Styles -/

theorem bounded_string {α : Type} (read : Reader α) (s : String) : Bounded read (.string s) :=
  Scalar.bounded (v := .string s) trivial read

theorem Style.Layer.bounded (layer : Layer) : Bounded Layer.read layer.toJson :=
  bounded_dict fun e _ => bounded_string _ e.2

theorem Style.Appearance.bounded (a : Appearance) : Bounded Appearance.read a.toJson := by
  refine bounded_record (by rfl) (by decide) fun fields levels b keeps found => ?_
  obtain ⟨_, base, found⟩ := exists_of_bind_eq_some found
  obtain ⟨_, hover, -⟩ := exists_of_bind_eq_some found
  have inBase : a.base.toJson.height ≤ levels :=
    keeps.withDefault List.mem_cons_self rfl a.base.bounded base
  have inHover : ∀ layer, a.hover = some layer → layer.toJson.height ≤ levels := by
    intro layer has
    exact keeps.optional (List.mem_cons_of_mem _ List.mem_cons_self) (by rw [has]; rfl)
      layer.bounded hover
  simp only [List.forall_mem_cons, Option.map_eq_some_iff, forall_exists_index, and_imp,
    forall_apply_eq_imp_iff₂, Option.some.injEq, forall_eq', List.not_mem_nil, false_implies,
    implies_true, and_true]
  exact ⟨inBase, inHover⟩

theorem bounded_stylesJson (styles : Dict String Appearance) :
    Bounded (Reader.table Appearance.read) (stylesJson styles) :=
  bounded_dict fun e _ => e.2.bounded

theorem bounded_eventsJson (events : Dict String String) :
    Bounded (Reader.table Reader.text) (eventsJson events) :=
  bounded_dict fun e _ => bounded_string _ e.2

/-! ## Contents -/

theorem DropdownOption.bounded (i : DropdownOption) : Bounded read i.toJson :=
  bounded_scalars (by simp [Scalar])

theorem AccordionItem.bounded (i : AccordionItem) : Bounded read i.toJson :=
  bounded_scalars (by simp [Scalar])

theorem Tab.bounded (i : Tab) : Bounded read i.toJson :=
  bounded_scalars (by simp [Scalar])

theorem NavLink.bounded (i : NavLink) : Bounded read i.toJson :=
  bounded_scalars (by simp [Scalar])

theorem SocialLink.bounded (i : SocialLink) : Bounded read i.toJson :=
  bounded_scalars (by simp [Scalar])

theorem CarouselImage.bounded (i : CarouselImage) : Bounded read i.toJson :=
  bounded_scalars (by simp [Scalar])

/-- A list that was read has no item too deep. -/
theorem height_listJson_le {α : Type} {write : α → Json} {read : Reader α}
    (each : ∀ a, Bounded read (write a)) {fields : Fields} {levels : Nat}
    {written : List (String × Option Json)} (keeps : fields.Keeps levels written) {name : String}
    {items : Option (List α)} (mem : (name, Content.listJson write items) ∈ written)
    {x : Option (List α)} (found : fields.optional name (Reader.list read) = some x) :
    ∀ v, Content.listJson write items = some v → v.height ≤ levels := by
  intro v has
  refine keeps.optional mem has ?_ found
  obtain ⟨list, -, rfl⟩ := Option.map_eq_some_iff.mp has
  exact bounded_list fun a _ => each a

/-- Only lists of items have levels in a content. -/
theorem Content.bounded (c : Content) : Bounded read c.toJson := by
  unfold toJson
  refine bounded_record (by rfl) (by decide) fun fields levels b keeps found => ?_
  iterate 5 obtain ⟨_, -, found⟩ := exists_of_bind_eq_some found
  obtain ⟨_, options, found⟩ := exists_of_bind_eq_some found
  iterate 8 obtain ⟨_, -, found⟩ := exists_of_bind_eq_some found
  obtain ⟨_, parts, found⟩ := exists_of_bind_eq_some found
  obtain ⟨_, tabs, found⟩ := exists_of_bind_eq_some found
  obtain ⟨_, -, found⟩ := exists_of_bind_eq_some found
  obtain ⟨_, links, found⟩ := exists_of_bind_eq_some found
  obtain ⟨_, profiles, found⟩ := exists_of_bind_eq_some found
  iterate 7 obtain ⟨_, -, found⟩ := exists_of_bind_eq_some found
  obtain ⟨_, slides, -⟩ := exists_of_bind_eq_some found
  simp only [List.forall_mem_cons, textJson, Option.map_eq_some_iff, forall_exists_index, and_imp,
    forall_apply_eq_imp_iff₂, height_string, height_bool, height_number, height_ofFloat,
    Nat.zero_le, implies_true, true_and, List.not_mem_nil, false_implies, and_true]
  refine ⟨?_, ?_, ?_, ?_, ?_, ?_⟩
  · exact height_listJson_le DropdownOption.bounded keeps (by simp) options
  · exact height_listJson_le AccordionItem.bounded keeps (by simp) parts
  · exact height_listJson_le Tab.bounded keeps (by simp) tabs
  · exact height_listJson_le NavLink.bounded keeps (by simp) links
  · exact height_listJson_le SocialLink.bounded keeps (by simp) profiles
  · exact height_listJson_le CarouselImage.bounded keeps (by simp) slides

/-! ## Nodes -/

namespace Node

/-- A node is read only where its children are. -/
theorem bounded_readWith {readChildren : Reader (List Node)} {e : Element} {children : List Node}
    (inner : Bounded readChildren (.array (forestJson children))) :
    Bounded (readWith readChildren) (toJson (.mk e children)) := by
  refine bounded_record (by rfl) (by decide) fun fields levels b keeps found => ?_
  iterate 3 obtain ⟨_, -, found⟩ := exists_of_bind_eq_some found
  obtain ⟨_, styles, found⟩ := exists_of_bind_eq_some found
  obtain ⟨_, content, found⟩ := exists_of_bind_eq_some found
  obtain ⟨_, inside, found⟩ := exists_of_bind_eq_some found
  obtain ⟨_, -, found⟩ := exists_of_bind_eq_some found
  obtain ⟨_, events, -⟩ := exists_of_bind_eq_some found
  have inStyles : (stylesJson e.styles).height ≤ levels :=
    keeps.withDefault (w := ("stylesByViewport", some (stylesJson e.styles))) (by simp) rfl
      (bounded_stylesJson e.styles) styles
  have inContent : e.content.toJson.height ≤ levels :=
    keeps.withDefault (w := ("content", some e.content.toJson)) (by simp) rfl
      e.content.bounded content
  have inChildren : (Json.array (forestJson children)).height ≤ levels :=
    keeps.withDefault (w := ("children", some (.array (forestJson children)))) (by simp) rfl
      inner inside
  have inEvents : ∀ v, (if e.events.isEmpty then none else some (eventsJson e.events)) = some v →
      v.height ≤ levels := by
    intro v has
    refine keeps.withDefault (w := ("events", _)) (by simp; rfl) has ?_ events
    split at has
    next => cases has
    next =>
      cases has
      exact bounded_eventsJson e.events
  simp only [List.forall_mem_cons, Option.map_eq_some_iff, forall_exists_index, and_imp,
    forall_apply_eq_imp_iff₂, Option.some.injEq, forall_eq', Link.toJson, height_string,
    Nat.zero_le, List.not_mem_nil, false_implies, implies_true, and_true, true_and]
  exact ⟨inStyles, inContent, inChildren, inEvents⟩

/-- So it is with any number of levels for nodes inside nodes. -/
theorem bounded_readWithin (depth : Nat) (n : Node) : Bounded (readWithin depth) n.toJson := by
  induction depth generalizing n with
  | zero =>
    obtain ⟨e, children⟩ := n
    exact bounded_readWith fun _ _ found => by cases found
  | succ depth ih =>
    obtain ⟨e, children⟩ := n
    refine bounded_readWith ?_
    rw [forestJson_eq]
    exact bounded_list fun child _ => ih child

theorem bounded_read (n : Node) : Bounded read n.toJson :=
  fun _ _ found => bounded_readWithin _ n found

theorem bounded_readForest (forest : List Node) :
    Bounded readForest (.array (forestJson forest)) := by
  rw [forestJson_eq]
  exact bounded_list fun n _ => n.bounded_read

end Node

end PageStudio
