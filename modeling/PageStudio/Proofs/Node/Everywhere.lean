import PageStudio.Proofs.Node.Absence

/-!
# Changes made everywhere

The functions that change or remove one node of a forest stop at the first one of its id. Where no
id occurs twice, that comes to a change or a removal of all nodes of the id, which has no order and
looks at every node.

## Main statements

* `update?_eq`, `patch_eq`, `insert?_eq`: the changed forest is the one that is changed everywhere.
* `remove?_eq`: the forest after a removal is the one without all nodes of the id.
* `without_insert?`: the forest without a node that was inserted is the one that was there.
-/

namespace PageStudio

open List

namespace Node

mutual
/-- A node with a change made at itself and at all nodes inside it, the innermost first. -/
def mapTree (f : Node → Node) : Node → Node
  | .mk e children => f (.mk e (mapForest f children))

/-- A forest with a change made at all of its nodes, the innermost first. -/
def mapForest (f : Node → Node) : List Node → List Node
  | [] => []
  | n :: rest => mapTree f n :: mapForest f rest
end

/-- The change that is made at the nodes of an id, and at no other. -/
def changeOf (id : String) (f : Node → Node) (n : Node) : Node := if n.id = id then f n else n

variable {id : String} {f : Node → Node}

mutual
/-- Where an id is not, nothing is changed by it. -/
theorem mapTree_of_absent : {n : Node} → id ∉ n.subtreeIds → mapTree (changeOf id f) n = n
  | .mk e children, absent => by
    obtain ⟨other, below⟩ := not_mem_subtreeIds_iff.mp absent
    rw [mapTree, mapForest_of_absent below]
    exact if_neg fun own => other (beq_iff_eq.mpr own)

theorem mapForest_of_absent : {forest : List Node} → id ∉ forestIds forest →
    mapForest (changeOf id f) forest = forest
  | [], _ => rfl
  | n :: rest, absent => by
    obtain ⟨here, there⟩ := not_mem_forestIds_iff.mp absent
    rw [mapForest, mapTree_of_absent here, mapForest_of_absent there]
end

end Node

namespace Forest

open Node

variable {id : String} {f : Node → Node}

/-- The forest with all nodes of an id changed. -/
def changeAll (id : String) (f : Node → Node) (forest : List Node) : List Node :=
  mapForest (changeOf id f) forest

mutual
theorem updateNode?_eq_mapTree : {n n' : Node} → n.subtreeIds.Nodup →
    updateNode? id f n = some n' → n' = mapTree (changeOf id f) n
  | .mk e children, n', nodup, changed => by
    obtain ⟨once, below⟩ := nodup_cons.mp nodup
    unfold updateNode? at changed
    split at changed
    next own =>
      cases changed
      have here : e.id = id := beq_iff_eq.mp own
      rw [mapTree, mapForest_of_absent (here ▸ once)]
      exact (if_pos here).symm
    next other =>
      obtain ⟨children', inside, rfl⟩ := Option.map_eq_some_iff.mp changed
      rw [mapTree, ← update?_eq_mapForest below inside]
      exact (if_neg fun own => other (beq_iff_eq.mpr own)).symm

theorem update?_eq_mapForest : {forest forest' : List Node} → (forestIds forest).Nodup →
    update? id f forest = some forest' → forest' = mapForest (changeOf id f) forest
  | [], _, _, changed => by cases changed
  | n :: rest, forest', nodup, changed => by
    obtain ⟨here, there, apart⟩ := nodup_append.mp nodup
    unfold update? at changed
    split at changed
    next n' inside =>
      cases changed
      -- The id is inside the first root, so it is nowhere behind it.
      have mem : id ∈ n.subtreeIds := by
        by_contra absent
        rw [updateNode?_eq_none_iff.mpr absent] at inside
        cases inside
      have absent : id ∉ forestIds rest := fun again => apart id mem id again rfl
      rw [mapForest, mapForest_of_absent absent, ← updateNode?_eq_mapTree here inside]
    next outside =>
      obtain ⟨rest', behind, rfl⟩ := Option.map_eq_some_iff.mp changed
      rw [mapForest, mapTree_of_absent (updateNode?_eq_none_iff.mp outside),
        ← update?_eq_mapForest there behind]
end

variable {forest : List Node}

theorem changeAll_of_absent (absent : id ∉ forestIds forest) : changeAll id f forest = forest :=
  mapForest_of_absent absent

/-- A change of the first node of an id is one of all its nodes, and there is none without it. -/
theorem update?_eq (nodup : (forestIds forest).Nodup) :
    update? id f forest = if id ∈ forestIds forest then some (changeAll id f forest) else none := by
  split
  next mem =>
    obtain ⟨forest', changed⟩ := Option.isSome_iff_exists.mp (isSome_update? (f := f) mem)
    rw [changed, update?_eq_mapForest nodup changed, changeAll]
  next absent => exact update?_eq_none_iff.mpr absent

theorem patch_eq (nodup : (forestIds forest).Nodup) (p : NodePatch) :
    patch forest id p = changeAll id p.apply forest := by
  rw [patch, update?_eq nodup]
  split
  next => rfl
  next absent => exact (changeAll_of_absent absent).symm

theorem insert?_eq (nodup : (forestIds forest).Nodup) (n : Node) :
    insert? forest (some id) n =
      if id ∈ forestIds forest then some (changeAll id (·.withChild n) forest) else none :=
  update?_eq nodup

/-! ## Removing -/

mutual
/-- The node without the nodes of an id inside it, at every level. -/
def thinNode (id : String) : Node → Node
  | .mk e children => .mk e (without id children)

/-- The forest without the nodes of an id and all inside them, at every level. -/
def without (id : String) : List Node → List Node
  | [] => []
  | n :: rest => if n.id = id then without id rest else thinNode id n :: without id rest
end

mutual
/-- Where an id is not, nothing goes with it. -/
theorem thinNode_of_absent : {n : Node} → id ∉ n.subtreeIds → thinNode id n = n
  | .mk e _, absent =>
    congrArg (Node.mk e) (without_of_absent (not_mem_subtreeIds_iff.mp absent).2)

theorem without_of_absent : {forest : List Node} → id ∉ forestIds forest →
    without id forest = forest
  | [], _ => rfl
  | n :: rest, absent => by
    obtain ⟨here, there⟩ := not_mem_forestIds_iff.mp absent
    have other : n.id ≠ id := fun own => here (subtreeIds_eq n ▸ own ▸ mem_cons_self)
    rw [without, if_neg other, thinNode_of_absent here, without_of_absent there]
end

theorem without_append (a b : List Node) : without id (a ++ b) = without id a ++ without id b := by
  induction a with
  | nil => rfl
  | cons n a ih =>
    rw [cons_append, without, without, ih]
    split
    · rfl
    · rfl

/-- A node that is not in the first tree is found behind it. -/
theorem find?_cons_of_absent {n : Node} {rest : List Node} (absent : id ∉ n.subtreeIds) :
    find? (n :: rest) id = find? rest id := by
  rw [find?_eq_find?_forestNodes, forestNodes, find?_append, find?_withDescendants_eq_none absent,
    Option.none_or, find?_eq_find?_forestNodes]

/-- A node that is taken out of its row is the one that is found by its id, and none of the row has
that id then. -/
theorem find?_of_takeOut? {row row' : List Node} {n : Node} (nodup : (forestIds row).Nodup)
    (taken : takeOut? id row = some (row', n)) : find? row id = some n ∧ row' = without id row := by
  induction row generalizing row' with
  | nil => cases taken
  | cons m rest ih =>
    obtain ⟨-, there, apart⟩ := nodup_append.mp nodup
    unfold takeOut? at taken
    split at taken
    next own =>
      cases taken
      have here : n.id = id := beq_iff_eq.mp own
      have mem : n.id ∈ n.subtreeIds := subtreeIds_eq n ▸ mem_cons_self
      have absent : id ∉ forestIds rest := fun again => apart n.id mem id again here
      refine ⟨here ▸ find?_of_mem nodup (mem_append_left _ n.mem_withDescendants_self), ?_⟩
      rw [without, if_pos here, without_of_absent absent]
    next other =>
      obtain ⟨⟨rest', _⟩, later, same⟩ := Option.map_eq_some_iff.mp taken
      cases same
      obtain ⟨found, rfl⟩ := ih there later
      have mem : id ∈ forestIds rest := isSome_find?_iff.mp (found ▸ rfl)
      have absent : id ∉ m.subtreeIds := fun again => apart id again id mem rfl
      refine ⟨(find?_cons_of_absent absent).trans found, ?_⟩
      rw [without, if_neg fun own => other (beq_iff_eq.mpr own), thinNode_of_absent absent]

theorem takeOut?_eq_none_iff {row : List Node} :
    takeOut? id row = none ↔ ∀ n ∈ row, n.id ≠ id := by
  induction row with
  | nil => exact ⟨fun _ _ mem => absurd mem not_mem_nil, fun _ => rfl⟩
  | cons n rest ih =>
    rw [takeOut?, forall_mem_cons, ← ih]
    split
    next own =>
      exact iff_of_false (Option.some_ne_none _) fun others => others.1 (beq_iff_eq.mp own)
    next other =>
      rw [Option.map_eq_none_iff]
      exact (and_iff_right fun own => other (beq_iff_eq.mpr own)).symm

/-- What a removal does to a row is known from what it does to the rows inside. -/
theorem remove?_eq_of_below {row : List Node} (nodup : (forestIds row).Nodup)
    (below : (∀ n ∈ row, n.id ≠ id) →
      removeBelow? id row = (find? row id).map fun n => (without id row, n)) :
    remove? row id = (find? row id).map fun n => (without id row, n) := by
  unfold remove?
  split
  next found taken =>
    obtain ⟨first, same⟩ := find?_of_takeOut? nodup taken
    rw [first, Option.map_some, ← same]
  next none => exact below (takeOut?_eq_none_iff.mp none)

theorem removeInside?_mk (e : Element) (children : List Node) :
    removeInside? id (.mk e children) =
      (remove? children id).map fun (children, removed) => (.mk e children, removed) := by
  unfold removeInside? remove?
  cases takeOut? id children with
  | some found => rfl
  | none => rfl

mutual
theorem removeInside?_eq : {n : Node} → n.subtreeIds.Nodup → n.id ≠ id →
    removeInside? id n =
      (n.withDescendants.find? fun m : Node => m.id == id).map fun m => (thinNode id n, m)
  | .mk e children, nodup, other => by
    have below := (nodup_cons.mp nodup).2
    have inside : ¬ (e.id == id) = true := fun own => other (beq_iff_eq.mp own)
    rw [removeInside?_mk, remove?_eq_of_below below (removeBelow?_eq below),
      find?_withDescendants_of_neg inside, ← find?_eq_find?_forestNodes, Option.map_map]
    rfl

theorem removeBelow?_eq : {row : List Node} → (forestIds row).Nodup → (∀ n ∈ row, n.id ≠ id) →
    removeBelow? id row = (find? row id).map fun n => (without id row, n)
  | [], _, _ => rfl
  | n :: rest, nodup, roots => by
    obtain ⟨here, there, apart⟩ := nodup_append.mp nodup
    obtain ⟨other, others⟩ := forall_mem_cons.mp roots
    rw [removeBelow?, without, if_neg other]
    by_cases mem : id ∈ n.subtreeIds
    · -- The id is inside the first root, so it is nowhere behind it.
      have absent : id ∉ forestIds rest := fun again => apart id mem id again rfl
      obtain ⟨m, found⟩ : ∃ m, n.withDescendants.find? (fun m : Node => m.id == id) = some m := by
        rw [subtreeIds_eq_map] at mem
        obtain ⟨m, inside, same⟩ := mem_map.mp mem
        exact Option.isSome_iff_exists.mp (List.find?_isSome.mpr ⟨m, inside, beq_iff_eq.mpr same⟩)
      rw [removeInside?_eq here other, found, find?_eq_find?_forestNodes, forestNodes, find?_append,
        found, without_of_absent absent]
      rfl
    · rw [removeInside?_eq_none mem, removeBelow?_eq there others, find?_cons_of_absent mem,
        thinNode_of_absent mem, Option.map_map]
      rfl
end

/-- A removal of the first node of an id is one of all its nodes, and gives the node that is found
by the id. -/
theorem remove?_eq (nodup : (forestIds forest).Nodup) :
    remove? forest id = (find? forest id).map fun n => (without id forest, n) :=
  remove?_eq_of_below nodup (removeBelow?_eq nodup)

theorem remove_eq (nodup : (forestIds forest).Nodup) : remove forest id = without id forest := by
  rw [remove, remove?_eq nodup]
  cases found : find? forest id with
  | some n => rfl
  | none =>
    have absent : id ∉ forestIds forest := fun mem => by
      have present := isSome_find?_iff.mpr mem
      rw [found] at present
      cases present
    exact (without_of_absent absent).symm

/-! ## Removing what was inserted -/

mutual
/-- A node is as it was without a new child of one inside it. -/
theorem thinNode_updateNode? {n : Node} : {m m' : Node} → n.id ∉ m.subtreeIds →
    updateNode? id (·.withChild n) m = some m' → m'.id = m.id ∧ thinNode n.id m' = m
  | .mk e children, m', fresh, changed => by
    obtain ⟨-, below⟩ := not_mem_subtreeIds_iff.mp fresh
    unfold updateNode? at changed
    split at changed
    next =>
      cases changed
      have last : without n.id [n] = [] := if_pos rfl
      refine ⟨rfl, congrArg (Node.mk e) ?_⟩
      show without n.id (children ++ [n]) = children
      rw [without_append, without_of_absent below, last, append_nil]
    next =>
      obtain ⟨children', inside, rfl⟩ := Option.map_eq_some_iff.mp changed
      exact ⟨rfl, congrArg (Node.mk e) (without_update? below inside)⟩

theorem without_update? {n : Node} : {forest forest' : List Node} → n.id ∉ forestIds forest →
    update? id (·.withChild n) forest = some forest' → without n.id forest' = forest
  | [], _, _, changed => by cases changed
  | m :: rest, forest', fresh, changed => by
    obtain ⟨here, there⟩ := not_mem_forestIds_iff.mp fresh
    have other : m.id ≠ n.id := fun own => here (subtreeIds_eq m ▸ own ▸ mem_cons_self)
    unfold update? at changed
    split at changed
    next m' inside =>
      cases changed
      obtain ⟨named, thinned⟩ := thinNode_updateNode? here inside
      rw [without, if_neg (named ▸ other), thinned, without_of_absent there]
    next =>
      obtain ⟨rest', later, rfl⟩ := Option.map_eq_some_iff.mp changed
      rw [without, if_neg other, thinNode_of_absent here, without_update? there later]
end

/-- The forest without a node that was inserted is the one that was there. -/
theorem without_insert? {n : Node} {parent : Option String} {forest' : List Node}
    (fresh : n.id ∉ forestIds forest) (inserted : insert? forest parent n = some forest') :
    without n.id forest' = forest := by
  cases parent with
  | none =>
    cases inserted
    have last : without n.id [n] = [] := if_pos rfl
    rw [without_append, without_of_absent fresh, last, append_nil]
  | some id => exact without_update? fresh inserted

end Forest

end PageStudio
