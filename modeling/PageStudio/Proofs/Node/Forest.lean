import Mathlib.Data.List.Nodup
import Mathlib.Data.List.Perm.Basic
import PageStudio.Node.Forest
import PageStudio.Proofs.Node.Descendants

/-!
# The ids of a changed forest

What a change of a forest does to the ids in it: a patch exchanges those below one node, an
insertion adds those of the new node, a removal takes some away. The node that is found by an id,
and the one that is changed by it, is the first of the forest in reading order, and there is one
exactly where the id is one of the forest.
-/

namespace PageStudio

open List

namespace Node

theorem forestIds_append (a b : List Node) : forestIds (a ++ b) = forestIds a ++ forestIds b := by
  induction a with
  | nil => rfl
  | cons n a ih =>
    simp only [List.cons_append, forestIds, ih, List.append_assoc]

theorem forestIds_singleton (n : Node) : forestIds [n] = n.subtreeIds := List.append_nil _

theorem subtreeIds_eq (n : Node) : n.subtreeIds = n.id :: forestIds n.children := by
  cases n
  rfl

/-- One more child puts its ids behind those of the others. -/
theorem subtreeIds_withChild (n child : Node) :
    (n.withChild child).subtreeIds = n.subtreeIds ++ child.subtreeIds := by
  rw [subtreeIds_eq n]
  show n.id :: forestIds (n.children ++ [child]) = _
  rw [forestIds_append, forestIds_singleton]
  rfl

mutual
/-- Nodes that count as the same have the same ids in them. -/
theorem subtreeIds_of_same : {a b : Node} → a.same b = true → a.subtreeIds = b.subtreeIds
  | .mk e children, .mk e' children', same => by
    obtain ⟨elements, below⟩ := (Bool.and_eq_true _ _).mp same
    have id : e.id = e'.id := by
      simp only [Element.same, Bool.and_eq_true, beq_iff_eq] at elements
      exact elements.1.1.1.1.1.1
    exact congrArg₂ cons id (forestIds_of_sameForest below)

theorem forestIds_of_sameForest : {as bs : List Node} → sameForest as bs = true →
    forestIds as = forestIds bs
  | [], [], _ => rfl
  | [], _ :: _, same => by cases same
  | _ :: _, [], same => by cases same
  | a :: as, b :: bs, same => by
    obtain ⟨here, there⟩ := (Bool.and_eq_true _ _).mp same
    exact congrArg₂ (· ++ ·) (subtreeIds_of_same here) (forestIds_of_sameForest there)
end

theorem sameForest_eq_beq (as bs : List Node) : sameForest as bs = (as == bs) := by
  induction as generalizing bs with
  | nil => cases bs <;> rfl
  | cons a as ih =>
    cases bs with
    | nil => rfl
    | cons b bs => exact congrArg (a.same b && ·) (ih bs)

variable {id : String} {e : Element} {n : Node} {children rest : List Node}

theorem find?_withDescendants_of_pos (own : (e.id == id) = true) :
    (withDescendants (.mk e children)).find? (fun m : Node => m.id == id) = some (.mk e children) :=
  find?_cons_of_pos (a := Node.mk e children) own

theorem find?_withDescendants_of_neg (other : ¬ (e.id == id) = true) :
    (withDescendants (.mk e children)).find? (fun m : Node => m.id == id) =
      (forestNodes children).find? fun m : Node => m.id == id :=
  find?_cons_of_neg (a := Node.mk e children) other

theorem not_mem_subtreeIds_iff :
    id ∉ subtreeIds (.mk e children) ↔ ¬ (e.id == id) = true ∧ id ∉ forestIds children := by
  rw [subtreeIds, List.mem_cons, not_or, beq_iff_eq, eq_comm]

theorem not_mem_forestIds_iff :
    id ∉ forestIds (n :: rest) ↔ id ∉ n.subtreeIds ∧ id ∉ forestIds rest := by
  rw [forestIds, List.mem_append, not_or]

theorem find?_withDescendants_eq_none (absent : id ∉ n.subtreeIds) :
    n.withDescendants.find? (fun m : Node => m.id == id) = none := by
  rw [subtreeIds_eq_map] at absent
  exact find?_eq_none.mpr fun m mem same => absent (eq_of_beq same ▸ mem_map_of_mem mem)

end Node

namespace Forest

variable {id : String} {f : Node → Node}

/-! ## Changing one node -/

mutual
/-- A node is not changed exactly where the id is neither its own nor one inside it. -/
theorem updateNode?_eq_none_iff : {n : Node} → updateNode? id f n = none ↔ id ∉ n.subtreeIds
  | .mk e children => by
    rw [Node.not_mem_subtreeIds_iff, updateNode?]
    split
    next own => exact ⟨nofun, fun absent => absurd own absent.1⟩
    next other => rw [Option.map_eq_none_iff, and_iff_right other, update?_eq_none_iff]

theorem update?_eq_none_iff : {forest : List Node} →
    update? id f forest = none ↔ id ∉ Node.forestIds forest
  | [] => ⟨fun _ => List.not_mem_nil, fun _ => rfl⟩
  | n :: rest => by
    rw [Node.not_mem_forestIds_iff, update?]
    split
    next n' here =>
      have present : updateNode? id f n ≠ none := here ▸ Option.some_ne_none n'
      exact ⟨nofun, fun absent => absurd (updateNode?_eq_none_iff.mpr absent.1) present⟩
    next absent =>
      rw [Option.map_eq_none_iff, and_iff_right (updateNode?_eq_none_iff.mp absent),
        update?_eq_none_iff]
end

theorem isSome_update? {forest : List Node} (mem : id ∈ Node.forestIds forest) :
    (update? id f forest).isSome = true :=
  Option.isSome_iff_ne_none.mpr fun absent => update?_eq_none_iff.mp absent mem

/-- Two forests differ in one place only, where one has a node and the other has another one. -/
inductive ChangesAt (a b : Node) : List Node → List Node → Prop
  | here (rest : List Node) : ChangesAt a b (a :: rest) (b :: rest)
  | inside {children children' : List Node} (e : Element) (rest : List Node)
      (below : ChangesAt a b children children') :
      ChangesAt a b (.mk e children :: rest) (.mk e children' :: rest)
  | behind {rest rest' : List Node} (n : Node) (later : ChangesAt a b rest rest') :
      ChangesAt a b (n :: rest) (n :: rest')

mutual
/-- A change of the first node of an id is one in its place, and nowhere else. -/
theorem changesAt_updateNode? : {n n' : Node} → updateNode? id f n = some n' →
    ∃ found, n.withDescendants.find? (fun m : Node => m.id == id) = some found ∧
      ∀ rest, ChangesAt found (f found) (n :: rest) (n' :: rest)
  | .mk e children, n', changed => by
    unfold updateNode? at changed
    split at changed
    next own =>
      cases changed
      exact ⟨_, Node.find?_withDescendants_of_pos own, .here⟩
    next other =>
      obtain ⟨children', inside, rfl⟩ := Option.map_eq_some_iff.mp changed
      obtain ⟨found, first, below⟩ := changesAt_update? inside
      exact ⟨found, (Node.find?_withDescendants_of_neg other).trans first,
        fun rest => .inside e rest below⟩

theorem changesAt_update? : {forest forest' : List Node} → update? id f forest = some forest' →
    ∃ found, (Node.forestNodes forest).find? (fun m : Node => m.id == id) = some found ∧
      ChangesAt found (f found) forest forest'
  | [], forest', changed => by cases changed
  | n :: rest, forest', changed => by
    rw [Node.forestNodes, find?_append]
    unfold update? at changed
    split at changed
    next n' here =>
      cases changed
      obtain ⟨found, first, inside⟩ := changesAt_updateNode? here
      refine ⟨found, ?_, inside rest⟩
      rw [first, Option.some_or]
    next absent =>
      obtain ⟨rest', there, rfl⟩ := Option.map_eq_some_iff.mp changed
      obtain ⟨found, first, later⟩ := changesAt_update? there
      refine ⟨found, ?_, .behind n later⟩
      rw [Node.find?_withDescendants_eq_none (updateNode?_eq_none_iff.mp absent), Option.none_or,
        first]
end

/-- Two rows of ids are the same but for those of one node, in whose place are those of another. -/
def Exchanges (a b : Node) (old new : List String) : Prop :=
  ∃ before after, old = before ++ (a.subtreeIds ++ after) ∧ new = before ++ (b.subtreeIds ++ after)

section Exchanges

variable {a b : Node} {old new : List String}

theorem Exchanges.append_left (h : Exchanges a b old new) (front : List String) :
    Exchanges a b (front ++ old) (front ++ new) := by
  obtain ⟨before, after, rfl, rfl⟩ := h
  exact ⟨front ++ before, after, (append_assoc ..).symm, (append_assoc ..).symm⟩

theorem Exchanges.append_right (h : Exchanges a b old new) (back : List String) :
    Exchanges a b (old ++ back) (new ++ back) := by
  obtain ⟨before, after, rfl, rfl⟩ := h
  refine ⟨before, after ++ back, ?_, ?_⟩
  · simp only [append_assoc]
  · simp only [append_assoc]

end Exchanges

section ChangesAt

variable {a b : Node} {forest forest' : List Node}

/-- A change in one place exchanges the ids of no other node. -/
theorem ChangesAt.exchanges (h : ChangesAt a b forest forest') :
    Exchanges a b (Node.forestIds forest) (Node.forestIds forest') := by
  induction h with
  | here rest => exact ⟨[], Node.forestIds rest, rfl, rfl⟩
  | inside e rest _ ih => exact (ih.append_left [e.id]).append_right (Node.forestIds rest)
  | behind n _ ih => exact ih.append_left n.subtreeIds

/-- What is put in the place is in the forest then, with all nodes inside it. -/
theorem ChangesAt.subset_forestNodes (h : ChangesAt a b forest forest') :
    b.withDescendants ⊆ Node.forestNodes forest' := by
  induction h with
  | here rest => exact subset_append_left _ _
  | inside e rest _ ih => exact fun n mem => mem_append_left _ (mem_cons_of_mem _ (ih mem))
  | behind n _ ih => exact fun m mem => mem_append_right _ (ih mem)

end ChangesAt

theorem exchanges_update? {forest forest' : List Node}
    (changed : update? id f forest = some forest') :
    ∃ found, (Node.forestNodes forest).find? (fun m : Node => m.id == id) = some found ∧
      Exchanges found (f found) (Node.forestIds forest) (Node.forestIds forest') := by
  obtain ⟨found, first, place⟩ := changesAt_update? changed
  exact ⟨found, first, place.exchanges⟩

/-- A patch keeps the id, and the children unless it has others. -/
theorem subtreeIds_apply (p : NodePatch) (n : Node) :
    (p.apply n).subtreeIds = n.id :: Node.forestIds (p.children.getD n.children) := rfl

/-- A patched forest has no ids but old ones and those of the children in the patch. -/
theorem mem_forestIds_patch {forest : List Node} {p : NodePatch} {i : String}
    (mem : i ∈ Node.forestIds (patch forest id p)) :
    i ∈ Node.forestIds forest ∨ i ∈ Node.forestIds (p.children.getD []) := by
  unfold patch at mem
  cases changed : update? id p.apply forest with
  | none =>
    rw [changed] at mem
    exact .inl mem
  | some forest' =>
    rw [changed] at mem
    obtain ⟨found, -, before, after, old, new⟩ := exchanges_update? changed
    replace mem : i ∈ Node.forestIds forest' := mem
    rw [new, mem_append, mem_append, subtreeIds_apply, mem_cons] at mem
    rw [old, mem_append, mem_append, Node.subtreeIds_eq, mem_cons]
    rcases mem with h | (h | h) | h
    · exact .inl (.inl h)
    · exact .inl (.inr (.inl (.inl h)))
    · cases children : p.children with
      | none =>
        rw [children] at h
        exact .inl (.inr (.inl (.inr h)))
      | some others =>
        rw [children] at h
        exact .inr h
    · exact .inl (.inr (.inr h))

/-- A row of ids has a run put in at one place. -/
def AddsRun (run old new : List String) : Prop :=
  ∃ before after, old = before ++ after ∧ new = before ++ (run ++ after)

theorem AddsRun.perm {run old new : List String} (h : AddsRun run old new) : new ~ old ++ run := by
  obtain ⟨before, after, rfl, rfl⟩ := h
  rw [append_assoc]
  exact perm_append_comm.append_left before

/-- An insertion puts the ids of the new node in at one place: behind all, or behind those of the
parent. -/
theorem addsRun_insert? {forest forest' : List Node} {parent : Option String} {n : Node}
    (inserted : insert? forest parent n = some forest') :
    AddsRun n.subtreeIds (Node.forestIds forest) (Node.forestIds forest') := by
  cases parent with
  | none =>
    cases inserted
    refine ⟨Node.forestIds forest, [], (append_nil _).symm, ?_⟩
    rw [Node.forestIds_append, Node.forestIds_singleton, append_nil]
  | some id =>
    obtain ⟨found, -, before, after, old, new⟩ := exchanges_update? inserted
    refine ⟨before ++ found.subtreeIds, after, ?_, ?_⟩
    · rw [old, append_assoc]
    · rw [new, Node.subtreeIds_withChild, append_assoc, append_assoc]

theorem forestIds_insert? {forest forest' : List Node} {parent : Option String} {n : Node}
    (inserted : insert? forest parent n = some forest') :
    Node.forestIds forest' ~ Node.forestIds forest ++ n.subtreeIds :=
  (addsRun_insert? inserted).perm

/-- A node can be inserted as a root and into every node of the forest. -/
theorem isSome_insert? {forest : List Node} {parent : Option String} (n : Node)
    (there : ∀ id, parent = some id → id ∈ Node.forestIds forest) :
    (insert? forest parent n).isSome = true := by
  cases parent with
  | none => rfl
  | some id => exact isSome_update? (there id rfl)

/-! ## Removing -/

/-- Two forests differ in one place only, where one has a node that the other has not. -/
inductive TakesOut (a : Node) : List Node → List Node → Prop
  | here (rest : List Node) : TakesOut a (a :: rest) rest
  | inside {children children' : List Node} (e : Element) (rest : List Node)
      (below : TakesOut a children children') :
      TakesOut a (.mk e children :: rest) (.mk e children' :: rest)
  | behind {rest rest' : List Node} (n : Node) (later : TakesOut a rest rest') :
      TakesOut a (n :: rest) (n :: rest')

theorem takesOut_takeOut? {row row' : List Node} {removed : Node}
    (taken : takeOut? id row = some (row', removed)) : TakesOut removed row row' := by
  induction row generalizing row' with
  | nil => cases taken
  | cons n rest ih =>
    unfold takeOut? at taken
    split at taken
    next =>
      cases taken
      exact .here _
    next =>
      obtain ⟨⟨rest', _⟩, later, same⟩ := Option.map_eq_some_iff.mp taken
      cases same
      exact .behind n (ih later)

mutual
theorem takesOut_removeInside? : {n n' removed : Node} → removeInside? id n = some (n', removed) →
    ∀ rest, TakesOut removed (n :: rest) (n' :: rest)
  | .mk e children, n', removed, taken, rest => by
    unfold removeInside? at taken
    split at taken
    next row _ out =>
      cases taken
      exact .inside e rest (takesOut_takeOut? out)
    next =>
      obtain ⟨⟨row, _⟩, below, same⟩ := Option.map_eq_some_iff.mp taken
      cases same
      exact .inside e rest (takesOut_removeBelow? below)

theorem takesOut_removeBelow? : {forest forest' : List Node} → {removed : Node} →
    removeBelow? id forest = some (forest', removed) → TakesOut removed forest forest'
  | [], _, _, taken => by cases taken
  | n :: rest, _, _, taken => by
    unfold removeBelow? at taken
    split at taken
    next inside =>
      cases taken
      exact takesOut_removeInside? inside rest
    next =>
      obtain ⟨⟨rest', _⟩, below, same⟩ := Option.map_eq_some_iff.mp taken
      cases same
      exact .behind n (takesOut_removeBelow? below)
end

/-- A removal takes one node out, wherever it stands. -/
theorem takesOut_remove? {forest forest' : List Node} {removed : Node}
    (taken : remove? forest id = some (forest', removed)) : TakesOut removed forest forest' := by
  unfold remove? at taken
  split at taken
  next found out =>
    cases taken
    exact takesOut_takeOut? out
  next => exact takesOut_removeBelow? taken

/-- In reading order a removal cuts out one run of elements, those of the removed node and of all
nodes inside it, and leaves those in front of it and behind it as they are. -/
theorem TakesOut.cut {a : Node} {forest forest' : List Node} (h : TakesOut a forest forest') :
    ∃ front back, Node.forestElements forest = front ++ (a.elements ++ back) ∧
      Node.forestElements forest' = front ++ back := by
  induction h with
  | here rest => exact ⟨[], Node.forestElements rest, Node.forestElements_cons a rest, rfl⟩
  | inside e rest _ ih =>
    obtain ⟨front, back, old, new⟩ := ih
    refine ⟨e :: front, back ++ Node.forestElements rest, ?_, ?_⟩
    · rw [Node.forestElements_cons, Node.elements_mk, old]
      simp only [cons_append, append_assoc]
    · rw [Node.forestElements_cons, Node.elements_mk, new, cons_append, cons_append, append_assoc]
  | behind n _ ih =>
    obtain ⟨front, back, old, new⟩ := ih
    refine ⟨n.elements ++ front, back, ?_, ?_⟩
    · rw [Node.forestElements_cons, old, append_assoc]
    · rw [Node.forestElements_cons, new, append_assoc]

/-- A removal takes away the ids of the removed node and of all nodes inside it. -/
theorem TakesOut.perm {a : Node} {forest forest' : List Node} (h : TakesOut a forest forest') :
    Node.forestIds forest ~ a.subtreeIds ++ Node.forestIds forest' := by
  obtain ⟨front, back, old, new⟩ := h.cut
  rw [Node.subtreeIds_eq_map_elements, Node.forestIds_eq_map_elements,
    Node.forestIds_eq_map_elements, old, new, ← map_append]
  exact (perm_append_comm_assoc front a.elements back).map _

/-- Where ids are distinct, none of those that are taken away is left. -/
theorem TakesOut.not_mem {a : Node} {forest forest' : List Node} (h : TakesOut a forest forest')
    (distinct : (Node.forestIds forest).Nodup) :
    ∀ id ∈ a.subtreeIds, id ∉ Node.forestIds forest' := by
  have apart := (nodup_append.mp (h.perm.nodup_iff.mp distinct)).2.2
  exact fun id gone left => apart id gone id left rfl

/-- The ids that stay are as they were. -/
theorem TakesOut.sublist {a : Node} {forest forest' : List Node} (h : TakesOut a forest forest') :
    Node.forestIds forest' <+ Node.forestIds forest := by
  obtain ⟨front, back, old, new⟩ := h.cut
  rw [Node.forestIds_eq_map_elements, Node.forestIds_eq_map_elements, old, new]
  exact ((sublist_append_right a.elements back).append_left front).map _

/-- A forest from which a node is removed has no new ids. -/
theorem forestIds_remove (forest : List Node) (id : String) :
    Node.forestIds (remove forest id) <+ Node.forestIds forest := by
  unfold remove
  cases taken : remove? forest id with
  | none => exact Sublist.refl _
  | some found => exact (takesOut_remove? taken).sublist

/-! ## Finding -/

mutual
theorem node_locateAt {parent : Option Node} {siblings : List Node} {index : Nat} : (n : Node) →
    (locateAt id parent siblings index n).map (·.node) =
      n.withDescendants.find? fun m : Node => m.id == id
  | .mk e children => by
    rw [locateAt]
    split
    next own => exact (Node.find?_withDescendants_of_pos own).symm
    next other =>
      rw [Node.find?_withDescendants_of_neg other]
      exact node_locateFrom children

theorem node_locateFrom {parent : Option Node} {siblings : List Node} {index : Nat} :
    (row : List Node) → (locateFrom id parent siblings index row).map (·.node) =
      (Node.forestNodes row).find? fun m : Node => m.id == id
  | [] => rfl
  | n :: rest => by
    rw [Node.forestNodes, find?_append, ← node_locateAt n, ← node_locateFrom rest, locateFrom]
    split
    next found here => rw [here]; rfl
    next absent => rw [absent]; rfl
end

/-- The node that is found is the first one of its id in reading order. -/
theorem find?_eq_find?_forestNodes (forest : List Node) (id : String) :
    find? forest id = (Node.forestNodes forest).find? fun m : Node => m.id == id :=
  node_locateFrom forest

theorem id_of_find? {forest : List Node} {n : Node} (found : find? forest id = some n) :
    n.id = id := by
  rw [find?_eq_find?_forestNodes] at found
  exact eq_of_beq (List.find?_some (p := fun m : Node => m.id == id) found)

theorem mem_of_find? {forest : List Node} {n : Node} (found : find? forest id = some n) :
    n ∈ Node.forestNodes forest := by
  rw [find?_eq_find?_forestNodes] at found
  exact mem_of_find?_eq_some found

/-- A node is found exactly where its id is one of the forest. -/
theorem isSome_find?_iff {forest : List Node} :
    (find? forest id).isSome = true ↔ id ∈ Node.forestIds forest := by
  rw [find?_eq_find?_forestNodes, List.find?_isSome, Node.forestIds_eq_map, mem_map]
  simp only [beq_iff_eq]

theorem isSome_locate? {forest : List Node} (mem : id ∈ Node.forestIds forest) :
    (locate? forest id).isSome = true := Option.isSome_map.symm.trans (isSome_find?_iff.mpr mem)

/-- A node of a forest without repeated ids is the one that is found by its id. -/
theorem find?_of_mem {forest : List Node} {n : Node} (distinct : (Node.forestIds forest).Nodup)
    (mem : n ∈ Node.forestNodes forest) : find? forest n.id = some n := by
  obtain ⟨m, found⟩ :=
    Option.isSome_iff_exists.mp (isSome_find?_iff.mpr (Node.id_mem_forestIds mem))
  have same : m.id = n.id := id_of_find? found
  rw [Node.forestIds_eq_map] at distinct
  rw [found, inj_on_of_nodup_map distinct (mem_of_find? found) mem same]

end Forest

end PageStudio
