import PageStudio.Proofs.Editor.NodeEdits

/-!
# Edits whose order does not matter

A patch without children changes the elements of a forest one by one, and a removal leaves out those
of an id with all below. As changes of the whole forest the two meet at no place where their order
could show, wherever their nodes stand to each other and whether they are there at all.

On a valid document such an edit exchanges one layout for another without new ids (`Relays`), so it
is never refused, and what is true of forests is true of documents.

## Main statements

* `Node.mapForest_onElement`, `Forest.without_comm`, `Forest.without_mapForest`: two changes of a
  forest, one after the other.
* `Mutation.commute_of_valid`: two edits of a document.
-/

namespace PageStudio

open List

/-! ## Changes of elements -/

/-- A change that is made at the elements of an id. -/
def Element.changedAt (id : String) (f : Element → Element) (e : Element) : Element :=
  if e.id = id then f e else e

/-- Changes that keep ids commute where they are made at different ones. -/
theorem Element.changedAt_comm {a b : String} {f g : Element → Element} (apart : a ≠ b)
    (keepsF : ∀ e, (f e).id = e.id) (keepsG : ∀ e, (g e).id = e.id) (e : Element) :
    changedAt a f (changedAt b g e) = changedAt b g (changedAt a f e) := by
  unfold changedAt
  by_cases first : e.id = a
  · have other : e.id ≠ b := fun second => apart (first.symm.trans second)
    rw [if_neg other, if_pos first, keepsF, if_neg other]
  · rw [if_neg first]
    split
    next => exact if_neg (keepsG e ▸ first)
    next => rfl

theorem Element.id_changedAt {id : String} {f : Element → Element} (keeps : ∀ e, (f e).id = e.id)
    (e : Element) : (changedAt id f e).id = e.id := by
  unfold changedAt
  split
  · exact keeps e
  · rfl

namespace Node

variable {f g : Element → Element}

/-- A change of a node that sees its element alone. -/
def onElement (f : Element → Element) : Node → Node
  | .mk e children => .mk (f e) children

theorem changeOf_onElement (id : String) (f : Element → Element) :
    changeOf id (onElement f) = onElement (Element.changedAt id f) := by
  funext n
  obtain ⟨e, children⟩ := n
  exact (apply_ite (Node.mk · children) _ _ _).symm

mutual
theorem mapTree_onElement : (n : Node) →
    mapTree (onElement f) (mapTree (onElement g) n) = mapTree (onElement (f ∘ g)) n
  | .mk e children => congrArg (Node.mk (f (g e))) (mapForest_onElement children)

/-- Two changes of all elements are one change of all elements. -/
theorem mapForest_onElement : (forest : List Node) →
    mapForest (onElement f) (mapForest (onElement g) forest) = mapForest (onElement (f ∘ g)) forest
  | [] => rfl
  | n :: rest => by
    simp only [mapForest, mapTree_onElement n, mapForest_onElement rest]
end

theorem id_mapTree (keeps : ∀ e, (f e).id = e.id) : (n : Node) →
    (mapTree (onElement f) n).id = n.id
  | .mk e _ => keeps e

mutual
theorem subtreeIds_mapTree (keeps : ∀ e, (f e).id = e.id) : (n : Node) →
    (mapTree (onElement f) n).subtreeIds = n.subtreeIds
  | .mk e children => by
    show (f e).id :: forestIds _ = e.id :: forestIds children
    rw [keeps, forestIds_mapForest keeps children]

/-- A change of elements that keeps ids keeps their order as well. -/
theorem forestIds_mapForest (keeps : ∀ e, (f e).id = e.id) : (forest : List Node) →
    forestIds (mapForest (onElement f) forest) = forestIds forest
  | [] => rfl
  | n :: rest => by
    rw [mapForest, forestIds, forestIds, subtreeIds_mapTree keeps n,
      forestIds_mapForest keeps rest]
end

end Node

/-! ## Changes of forests -/

namespace Forest

open Node

theorem id_thinNode (id : String) : (n : Node) → (thinNode id n).id = n.id
  | .mk _ _ => rfl

mutual
theorem thinNode_comm (a b : String) : (n : Node) →
    thinNode a (thinNode b n) = thinNode b (thinNode a n)
  | .mk e children => congrArg (Node.mk e) (without_comm a b children)

/-- Nodes of two ids are left out in either order. -/
theorem without_comm (a b : String) : (forest : List Node) →
    without a (without b forest) = without b (without a forest)
  | [] => rfl
  | n :: rest => by
    have later := without_comm a b rest
    by_cases first : n.id = a
    · by_cases second : n.id = b
      · simp only [without, if_pos first, if_pos second, later]
      · simp only [without, if_pos first, if_neg second, id_thinNode, later]
    · by_cases second : n.id = b
      · simp only [without, if_neg first, if_pos second, id_thinNode, later]
      · simp only [without, if_neg first, if_neg second, id_thinNode, thinNode_comm a b n, later]
end

variable {f : Element → Element}

mutual
theorem thinNode_mapTree (keeps : ∀ e, (f e).id = e.id) (id : String) : (n : Node) →
    thinNode id (mapTree (onElement f) n) = mapTree (onElement f) (thinNode id n)
  | .mk e children => congrArg (Node.mk (f e)) (without_mapForest keeps id children)

/-- Nodes are left out before a change of elements that keeps ids, or behind it. -/
theorem without_mapForest (keeps : ∀ e, (f e).id = e.id) (id : String) : (forest : List Node) →
    without id (mapForest (onElement f) forest) = mapForest (onElement f) (without id forest)
  | [] => rfl
  | n :: rest => by
    rw [mapForest, without, without, id_mapTree keeps, thinNode_mapTree keeps id n,
      without_mapForest keeps id rest]
    split
    · rfl
    · rfl
end

/-! ## Patches and removals -/

/-- A patch without children changes elements and keeps their ids. -/
theorem exists_onElement {p : NodePatch} (childless : p.children = none) :
    ∃ f : Element → Element, (∀ e, (f e).id = e.id) ∧ p.apply = onElement f := by
  refine ⟨fun e => (p.apply (.mk e [])).element, fun _ => rfl, funext fun ⟨e, children⟩ => ?_⟩
  show Node.mk _ (p.children.getD children) = _
  rw [childless]
  rfl

variable {forest : List Node} {a b : String} {p q : NodePatch}

theorem forestIds_patch (distinct : (forestIds forest).Nodup) (childless : p.children = none) :
    forestIds (patch forest a p) = forestIds forest := by
  obtain ⟨f, keeps, same⟩ := exists_onElement childless
  rw [patch_eq distinct, same, changeAll, changeOf_onElement,
    forestIds_mapForest (Element.id_changedAt keeps)]

/-- Patches of different nodes are applied in either order. -/
theorem patch_comm (distinct : (forestIds forest).Nodup) (childlessP : p.children = none)
    (childlessQ : q.children = none) (apart : a ≠ b) :
    patch (patch forest a p) b q = patch (patch forest b q) a p := by
  rw [patch_eq (forestIds_patch distinct childlessP ▸ distinct), patch_eq distinct,
    patch_eq (forestIds_patch distinct childlessQ ▸ distinct), patch_eq distinct]
  obtain ⟨f, keepsF, sameF⟩ := exists_onElement childlessP
  obtain ⟨g, keepsG, sameG⟩ := exists_onElement childlessQ
  simp only [changeAll, sameF, sameG, changeOf_onElement, mapForest_onElement]
  congr 2
  exact (funext (Element.changedAt_comm apart keepsF keepsG)).symm

/-- Nodes are removed in either order. -/
theorem remove_comm (distinct : (forestIds forest).Nodup) :
    remove (remove forest a) b = remove (remove forest b) a := by
  rw [remove_eq (distinct.sublist (forestIds_remove forest a)), remove_eq distinct,
    remove_eq (distinct.sublist (forestIds_remove forest b)), remove_eq distinct, without_comm]

/-- A node is removed before a patch of the same node or another one, or behind it. -/
theorem remove_patch (distinct : (forestIds forest).Nodup) (childless : p.children = none) :
    remove (patch forest a p) b = patch (remove forest b) a p := by
  rw [remove_eq (forestIds_patch distinct childless ▸ distinct), patch_eq distinct,
    patch_eq (distinct.sublist (forestIds_remove forest b)), remove_eq distinct]
  obtain ⟨f, keeps, same⟩ := exists_onElement childless
  simp only [changeAll, same, changeOf_onElement]
  exact without_mapForest (Element.id_changedAt keeps) b forest

end Forest

/-! ## Edits of documents -/

namespace Mutation

variable {d : Document} {m k : Mutation} {f g : List Node → List Node}

/-- Two edits, one after the other. The second is not made where the first is refused. -/
def andThen (m k : Mutation) (d : Document) (ids : IdSource) :
    Except MutationError Document × IdSource :=
  match m.apply d ids with
  | (.ok e, ids) => k.apply e ids
  | (.error cause, ids) => (.error cause, ids)

/-- Two edits of a document are accepted in either order, and come to the same document. -/
def Commute (d : Document) (m k : Mutation) : Prop :=
  ∀ ids, ∃ e, m.andThen k d ids = (.ok e, ids) ∧ k.andThen m d ids = (.ok e, ids)

/-- An edit exchanges the layout of the active page for one without new ids, and does nothing else.
-/
structure Relays (m : Mutation) (f : List Node → List Node) : Prop where
  draft : ∀ d ids, m.draft d ids = (withActiveLayout d (f d.activeLayout), ids)
  fewer : ∀ forest, (Node.forestIds forest).Nodup →
    Node.forestIds (f forest) <+ Node.forestIds forest

theorem relays_removeNode (id : String) : (removeNode id).Relays (Forest.remove · id) :=
  ⟨fun _ _ => rfl, fun forest _ => Forest.forestIds_remove forest id⟩

theorem relays_updateNode (id : String) {p : NodePatch} (childless : p.children = none) :
    (updateNode id p).Relays (Forest.patch · id p) :=
  ⟨fun _ _ => rfl, fun forest distinct =>
    Forest.forestIds_patch distinct childless ▸ .refl (Node.forestIds forest)⟩

/-- Such an edit of a valid document is accepted, and takes no ids. -/
theorem Relays.exists_apply (relays : m.Relays f) (valid : d.Valid) (ids : IdSource) :
    ∃ e, m.apply d ids = (.ok e, ids) ∧
      d.withLayout d.activePageId (f d.activeLayout) = .ok e ∧ e.Valid := by
  obtain ⟨e, changed⟩ := Document.exists_withLayout valid.active_mem (f d.activeLayout)
  have distinct : e.nodeIds.Nodup := by
    rw [Document.nodeIds_withLayout changed]
    exact valid.nodeIds_nodup.sublist
      (Document.nodeIdsWith_sublist (relays.fewer _ valid.activeLayout_nodup))
  have drafted : m.draft d ids = (.ok e, ids) :=
    (relays.draft d ids).trans (congrArg (·, ids) (lift_ok_iff.mpr changed))
  refine ⟨e, Prod.ext ?_ ?_, changed, ?_⟩
  · exact apply_ok_iff.mpr ⟨congrArg Prod.fst drafted, distinct⟩
  · exact apply_snd.trans (congrArg Prod.snd drafted)
  · exact Document.valid_iff.mpr ⟨valid.paged.withLayout changed, distinct⟩

/-- Two such edits come to one layout of the active page. -/
theorem Relays.exists_andThen (first : m.Relays f) (second : k.Relays g) (valid : d.Valid)
    (ids : IdSource) :
    ∃ e, m.andThen k d ids = (.ok e, ids) ∧
      d.withLayout d.activePageId (g (f d.activeLayout)) = .ok e := by
  obtain ⟨e, applied, changed, valid'⟩ := first.exists_apply valid ids
  obtain ⟨e', applied', changed', -⟩ := second.exists_apply valid' ids
  have relaid := Document.activeLayout_of_withLayout changed
  have active := (Document.sameOutside_of_withLayout changed).1.activePageId
  refine ⟨e', ?_, ?_⟩
  · rw [andThen, applied]
    exact applied'
  · rw [← changed', active, relaid, Document.withLayout_withLayout changed]

/-- What commutes on the layout of the active page commutes on the document. -/
theorem Relays.commute (first : m.Relays f) (second : k.Relays g) (valid : d.Valid)
    (same : g (f d.activeLayout) = f (g d.activeLayout)) : Commute d m k := by
  intro ids
  obtain ⟨e, there, relaid⟩ := first.exists_andThen second valid ids
  obtain ⟨e', back, relaid'⟩ := second.exists_andThen first valid ids
  rw [same, relaid'] at relaid
  cases relaid
  exact ⟨e, there, back⟩

/-- On a valid document, patches without children commute at different nodes, removals commute, and
so do a patch without children and a removal, whether the nodes are different ones or one and the
same, stand inside each other or are not there. -/
theorem commute_of_valid (d : Document) (valid : d.Valid) (a b : String) (p q : NodePatch)
    (childlessP : p.children = none) (childlessQ : q.children = none) :
    (a ≠ b → Commute d (updateNode a p) (updateNode b q)) ∧
    Commute d (removeNode a) (removeNode b) ∧
    Commute d (updateNode a p) (removeNode b) := by
  have distinct := valid.activeLayout_nodup
  refine ⟨fun apart => ?_, ?_, ?_⟩
  · exact (relays_updateNode a childlessP).commute (relays_updateNode b childlessQ) valid
      (Forest.patch_comm distinct childlessP childlessQ apart)
  · exact (relays_removeNode a).commute (relays_removeNode b) valid (Forest.remove_comm distinct)
  · exact (relays_updateNode a childlessP).commute (relays_removeNode b) valid
      (Forest.remove_patch distinct childlessP)

/-- A document with a shelf on its only page. -/
def shelved : Document where
  pages := [{ id := "home", name := "Home" }]
  layouts := Dict.ofList [("home", Forest.shelf)]
  activePageId := "home"

theorem valid_shelved : shelved.Valid where
  pages_ne_nil := cons_ne_nil _ _
  pageIds_nodup := by decide
  mem_layouts_iff := fun _ => Iff.rfl
  active_mem := by decide
  nodeIds_nodup := by decide

/-- A text inside a card gets a name, and the card another one or is removed. -/
theorem commute_of_valid_shelved :
    let p : NodePatch := { name := some "Note" }
    let q : NodePatch := { name := some "Slip", link := some none }
    shelved.Valid ∧ p.children = none ∧ q.children = none ∧ "u" ≠ "card" ∧
      Commute shelved (updateNode "u" p) (updateNode "card" q) ∧
      Commute shelved (removeNode "u") (removeNode "card") ∧
      Commute shelved (updateNode "u" p) (removeNode "card") := by
  intro p q
  have apart : "u" ≠ "card" := by decide
  obtain ⟨patches, removals, mixed⟩ :=
    commute_of_valid shelved valid_shelved "u" "card" p q rfl rfl
  exact ⟨valid_shelved, rfl, rfl, apart, patches apart, removals, mixed⟩

end Mutation

end PageStudio
