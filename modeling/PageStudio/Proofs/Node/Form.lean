import PageStudio.Node.Patch
import PageStudio.Proofs.Node.Content
import PageStudio.Proofs.Text.Piece

/-!
# Nodes are read back

The reader of nodes goes as deep as the text is nested, which is deep enough for every node that the
text was written from (`Node.depth_le_height`). A node is not read back where a link leads to an
address that looks like a page, and where a progress is no finite number.
-/

namespace PageStudio

open Json Style

variable {f : Json → Json}

/-! ## Kinds and links -/

theorem Kind.reads_name (h : Arranges f) (k : Kind) : Reads f read (.string k.name) k := by
  unfold Reads read
  rw [h.name k.name, Option.map_some, ofName_name]

/-- An address elsewhere does not look like a page. -/
def Link.Storable : Link → Prop
  | .external address => ¬ pageMark <+: address.toList
  | .page _ => True

theorem Link.ofText_toText {l : Link} (storable : l.Storable) : ofText l.toText = l := by
  unfold ofText
  cases l with
  | external address =>
    have elsewhere : Text.dropFront? pageMark address.toList = none := by
      rw [← Option.not_isSome_iff_eq_none, Text.isSome_dropFront?_iff]
      exact storable
    simp only [toText, elsewhere]
  | page id =>
    have marked : Text.dropFront? pageMark (toText (.page id)).toList = some id.toList := by
      rw [toText, String.toList_ofList]
      exact Text.dropFront?_eq_some_iff.mpr rfl
    simp only [marked, String.ofList_toList]

theorem Link.reads_toJson (h : Arranges f) {l : Link} (storable : l.Storable) :
    Reads f read l.toJson l := by
  unfold Reads read
  rw [toJson, h.text l.toText, Option.map_some, ofText_toText storable]

/-! ## Styles -/

theorem Style.Layer.reads_toJson (h : Arranges f) (layer : Layer) :
    Reads f Layer.read layer.toJson layer :=
  h.dict Property.ofKey?_key fun e _ => h.text e.2

theorem Style.Appearance.reads_toJson (h : Arranges f) (a : Appearance) :
    Reads f Appearance.read a.toJson a := by
  unfold Reads Appearance.read Appearance.toJson
  refine h.record (by rfl) (by decide) fun fields holds => ?_
  refine bind_eq_some (holds.withDefault (by simp) (a.base.reads_toJson h) ∅) ?_
  refine bind_eq_some (holds.optional a.hover (by simp) rfl fun l _ => l.reads_toJson h) ?_
  rfl

theorem reads_stylesJson (h : Arranges f) (styles : Dict String Appearance) :
    Reads f (Reader.table Appearance.read) (stylesJson styles) styles :=
  h.table fun e _ => e.2.reads_toJson h

theorem reads_eventsJson (h : Arranges f) (events : Dict String String) :
    Reads f (Reader.table Reader.text) (eventsJson events) events :=
  h.table fun e _ => h.text e.2

theorem Dict.eq_empty_of_isEmpty {κ α : Type} [KeyOrder κ] {d : Dict κ α}
    (empty : d.isEmpty = true) : d = ∅ := Dict.ext (List.isEmpty_iff.mp empty)

/-! ## Nodes -/

/-- The element can be written: its content and its link can. -/
def Element.Storable (e : Element) : Prop :=
  e.content.Storable ∧ ∀ l, e.link = some l → l.Storable

namespace Node

mutual
/-- All elements of a node can be written. -/
def Storable : Node → Prop
  | .mk e children => e.Storable ∧ ForestStorable children

/-- All elements of a forest can be written. -/
def ForestStorable : List Node → Prop
  | [] => True
  | n :: rest => n.Storable ∧ ForestStorable rest
end

mutual
/-- How deep nodes are nested. -/
def depth : Node → Nat
  | .mk _ children => forestDepth children + 1

/-- The depth of the deepest node. -/
def forestDepth : List Node → Nat
  | [] => 0
  | n :: rest => max n.depth (forestDepth rest)
end

theorem forestJson_eq (forest : List Node) : forestJson forest = forest.map toJson := by
  induction forest with
  | nil => rfl
  | cons n rest ih => exact congrArg (n.toJson :: ·) ih

theorem ForestStorable.of_mem {forest : List Node} (h : ForestStorable forest) {n : Node}
    (mem : n ∈ forest) : n.Storable := by
  induction forest with
  | nil => cases mem
  | cons m rest ih =>
    rcases List.mem_cons.mp mem with rfl | there
    · exact h.1
    · exact ih h.2 there

/-- A node is read back where its children are. -/
theorem reads_readWith (h : Arranges f) {readChildren : Reader (List Node)} {e : Element}
    {children : List Node} (storable : e.Storable)
    (inner : Reads f readChildren (.array (forestJson children)) children) :
    Reads f (readWith readChildren) (toJson (.mk e children)) (.mk e children) := by
  unfold Reads readWith
  rw [toJson, elementJson]
  refine h.record (by rfl) (by decide) fun fields holds => ?_
  refine bind_eq_some (holds.required (by simp) (h.text e.id)) ?_
  refine bind_eq_some (holds.required (by simp) (e.kind.reads_name h)) ?_
  refine bind_eq_some (holds.required (by simp) (h.text e.name)) ?_
  refine bind_eq_some (holds.withDefault (by simp) (reads_stylesJson h e.styles) ∅) ?_
  refine bind_eq_some (holds.withDefault (by simp) (e.content.reads_toJson h storable.1) {}) ?_
  refine bind_eq_some (holds.withDefault (by simp) inner []) ?_
  refine bind_eq_some (holds.optional e.link (by simp) rfl
    fun l has => l.reads_toJson h (storable.2 l has)) ?_
  -- Events are written only where there are any; without them the reader has its default.
  have events : fields.withDefault "events" (Reader.table Reader.text) ∅ = some e.events := by
    cases empty : e.events.isEmpty with
    | true =>
      rw [Dict.eq_empty_of_isEmpty empty]
      exact holds.missing (by simp [empty]) _ _
    | false => exact holds.withDefault (by simp [empty]) (reads_eventsJson h e.events) ∅
  exact bind_eq_some events rfl

mutual
/-- A node is read back with as many levels as it is deep. -/
theorem reads_readWithin (h : Arranges f) : {n : Node} → n.Storable → {levels : Nat} →
    n.depth ≤ levels → Reads f (readWithin levels) n.toJson n
  | .mk e children, storable, levels + 1, deep => by
    refine reads_readWith h storable.1 ?_
    rw [forestJson_eq]
    exact h.list (reads_readWithin_of_mem h storable.2 (Nat.le_of_succ_le_succ deep))

/-- So are the nodes of a forest. -/
theorem reads_readWithin_of_mem (h : Arranges f) : {forest : List Node} →
    ForestStorable forest → {levels : Nat} → forestDepth forest ≤ levels →
    ∀ n ∈ forest, Reads f (readWithin levels) n.toJson n
  | [], _, _, _, _, mem => by cases mem
  | m :: rest, storable, levels, deep, n, mem => by
    rcases List.mem_cons.mp mem with same | there
    · rw [same]
      exact reads_readWithin h storable.1 (Nat.le_trans (Nat.le_max_left _ _) deep)
    · exact reads_readWithin_of_mem h storable.2 (Nat.le_trans (Nat.le_max_right _ _) deep) n there
end

mutual
/-- A written node is nested at least as deep as the node. -/
theorem depth_le_height (h : Arranges f) : (n : Node) →
    n.depth ≤ (f n.toJson).toSource.height
  | .mk e children => by
    have inside : forestDepth children + 1 ≤
        (f (.array (forestJson children))).toSource.height := by
      rw [h.height_array, forestJson_eq, List.map_map]
      exact Nat.succ_le_succ (forestDepth_le_itemsHeight h children)
    -- The children are one level inside the record.
    refine Nat.le_trans inside (Nat.le_of_lt ?_)
    rw [toJson, elementJson]
    refine h.height_lt_record ?_ (show ("children", some _) ∈ _ by simp)
    show fieldNames.Nodup
    decide

/-- A written forest is nested at least as deep as the forest. -/
theorem forestDepth_le_itemsHeight (h : Arranges f) : (forest : List Node) →
    forestDepth forest ≤
      Source.itemsHeight (forest.map fun n => (f n.toJson).toSource)
  | [] => Nat.le_refl _
  | n :: rest => by
    have first := depth_le_height h n
    have others := forestDepth_le_itemsHeight h rest
    exact Nat.max_le.mpr ⟨Nat.le_trans first (Nat.le_max_left _ _),
      Nat.le_trans others (Nat.le_max_right _ _)⟩
end

/-- A node that can be written is read back. -/
theorem reads_toJson (h : Arranges f) {n : Node} (storable : n.Storable) :
    Reads f read n.toJson n := reads_readWithin h storable (depth_le_height h n)

theorem reads_forestJson (h : Arranges f) {forest : List Node}
    (storable : ForestStorable forest) :
    Reads f readForest (.array (forestJson forest)) forest := by
  rw [forestJson_eq]
  exact h.list fun n mem => reads_toJson h (storable.of_mem mem)

end Node

/-! ## Patches -/

/-- The nodes, the link and the content that a patch brings can be written. -/
structure NodePatch.Storable (p : NodePatch) : Prop where
  content : ∀ c, p.content = some c → c.Storable
  children : ∀ forest, p.children = some forest → Node.ForestStorable forest
  link : ∀ l, p.link = some (some l) → l.Storable

/-- A patch is read back, and one that takes the link away is not one without a link. -/
theorem NodePatch.reads_toJson (h : Arranges f) {p : NodePatch} (storable : p.Storable) :
    Reads f read p.toJson p := by
  unfold Reads read
  rw [toJson]
  refine h.record (by rfl) (by decide) fun fields holds => ?_
  refine bind_eq_some (holds.text h p.name (by simp)) ?_
  refine bind_eq_some (holds.optional p.kind (by simp) rfl fun k _ => k.reads_name h) ?_
  refine bind_eq_some (holds.optional p.content (by simp) rfl
    fun c has => c.reads_toJson h (storable.content c has)) ?_
  refine bind_eq_some (holds.optional p.styles (by simp) rfl
    fun styles _ => reads_stylesJson h styles) ?_
  refine bind_eq_some (holds.optional p.children (by simp) rfl
    fun forest has => Node.reads_forestJson h (storable.children forest has)) ?_
  have link : fields.withDefault "linkUrl" (fun v => (Reader.optional Link.read v).map some) none =
      some p.link := by
    cases has : p.link with
    | none => exact holds.missing (by simp [has]) _ _
    | some link =>
      have once : Reads f (Reader.optional Link.read) ((link.map Link.toJson).getD .null) link :=
        h.nullable rfl fun l is => l.reads_toJson h (storable.link l (is ▸ has))
      -- A link that is taken away is written as `null`, and `null` is not read as a missing member.
      have twice : Reads f (fun v => (Reader.optional Link.read v).map some)
          ((link.map Link.toJson).getD .null) (some link) := congrArg (Option.map some) once
      exact holds.withDefault (by simp [has]) twice none
  refine bind_eq_some link ?_
  refine bind_eq_some (holds.optional p.events (by simp) rfl
    fun events _ => reads_eventsJson h events) ?_
  rfl

end PageStudio
