import PageStudio.Proofs.Node.Forest

/-!
# Rows of siblings

A node that is found stands in a row: the roots of the forest, or the children of one of its nodes.
An insertion puts a node behind the row of its parent, and changes nothing else.

## Main statements

* `standsIn_locate?`: where a node that is found stands.
* `putBehind_insert?`: where a node that is inserted stands, and what the forest was and is there.
-/

namespace PageStudio

open List

/-- A place is one of a forest: the node stands at it in the row, and the row is the forest itself
or that of the children of a node in it. -/
structure Located.StandsIn (found : Located) (forest : List Node) : Prop where
  node : found.siblings[found.index]? = some found.node
  root : found.parent = none → found.siblings = forest
  inside : ∀ p, found.parent = some p → p ∈ Node.forestNodes forest ∧ found.siblings = p.children

namespace Forest

variable {id : String} {forest forest' : List Node} {n : Node}

/-! ## Finding -/

mutual
/-- What is found at or inside a node of a row stands in that row, or in one of a node inside. -/
theorem row_locateAt {parent : Option Node} {siblings : List Node} {index : Nat}
    {found : Located} : {n : Node} → siblings[index]? = some n →
    locateAt id parent siblings index n = some found →
      found.siblings[found.index]? = some found.node ∧
        ((found.parent = parent ∧ found.siblings = siblings) ∨
          ∃ p ∈ n.withDescendants, found.parent = some p ∧ found.siblings = p.children)
  | .mk e children, here, located => by
    unfold locateAt at located
    split at located
    next =>
      cases located
      exact ⟨here, .inl ⟨rfl, rfl⟩⟩
    next =>
      obtain ⟨node, own | ⟨p, mem, row⟩⟩ := row_locateFrom drop_zero located
      · exact ⟨node, .inr ⟨_, mem_cons_self, own⟩⟩
      · exact ⟨node, .inr ⟨p, mem_cons_of_mem _ mem, row⟩⟩

theorem row_locateFrom {parent : Option Node} {siblings : List Node} {index : Nat}
    {found : Located} : {row : List Node} → siblings.drop index = row →
    locateFrom id parent siblings index row = some found →
      found.siblings[found.index]? = some found.node ∧
        ((found.parent = parent ∧ found.siblings = siblings) ∨
          ∃ p ∈ Node.forestNodes row, found.parent = some p ∧ found.siblings = p.children)
  | [], _, located => by cases located
  | n :: rest, start, located => by
    unfold locateFrom at located
    split at located
    next inside =>
      cases located
      have here : siblings[index]? = some n := by
        rw [← Nat.add_zero index, ← getElem?_drop, start]
        rfl
      obtain ⟨node, own | ⟨p, mem, row⟩⟩ := row_locateAt here inside
      · exact ⟨node, .inl own⟩
      · exact ⟨node, .inr ⟨p, mem_append_left _ mem, row⟩⟩
    next =>
      have behind : siblings.drop (index + 1) = rest := by
        rw [← drop_drop, start]
        rfl
      obtain ⟨node, own | ⟨p, mem, row⟩⟩ := row_locateFrom behind located
      · exact ⟨node, .inl own⟩
      · exact ⟨node, .inr ⟨p, mem_append_right _ mem, row⟩⟩
end

variable {found : Located}

/-- What is found stands in the forest. -/
theorem standsIn_locate? (located : locate? forest id = some found) : found.StandsIn forest := by
  obtain ⟨node, ⟨parent, row⟩ | ⟨p, mem, parent, row⟩⟩ := row_locateFrom drop_zero located
  · refine ⟨node, fun _ => row, fun p inside => ?_⟩
    rw [parent] at inside
    cases inside
  · refine ⟨node, fun root => ?_, fun q inside => ?_⟩
    · rw [parent] at root
      cases root
    · rw [parent] at inside
      cases inside
      exact ⟨mem, row⟩

/-- The parent of a node that is found is a node of the forest. -/
theorem parent_locate? (located : locate? forest id = some found) :
    ∀ i, found.parent.map (·.id) = some i → i ∈ Node.forestIds forest := by
  intro i same
  obtain ⟨p, parent, rfl⟩ := Option.map_eq_some_iff.mp same
  exact Node.id_mem_forestIds ((standsIn_locate? located).inside p parent).1

/-! ## Inserting -/

/-- The row that a node inserted for a parent is put behind: the roots, or the children of the
first node of an id. -/
def rowOf? (forest : List Node) : Option String → Option (List Node)
  | none => some forest
  | some id => (find? forest id).map (·.children)

/-- Two forests differ in one row only, behind which the second one has one more node. -/
inductive PutBehind (n : Node) : List Node → List Node → List Node → Prop
  | root (forest : List Node) : PutBehind n forest forest (forest ++ [n])
  | child {forest forest' : List Node} (p : Node)
      (place : ChangesAt p (p.withChild n) forest forest') :
      PutBehind n p.children forest forest'

/-- A node is put behind the row of its parent. -/
theorem putBehind_insert? {parent : Option String}
    (inserted : insert? forest parent n = some forest') :
    ∃ row, rowOf? forest parent = some row ∧ PutBehind n row forest forest' := by
  cases parent with
  | none =>
    cases inserted
    exact ⟨forest, rfl, .root forest⟩
  | some id =>
    obtain ⟨p, first, place⟩ := changesAt_update? inserted
    rw [← find?_eq_find?_forestNodes] at first
    refine ⟨p.children, ?_, .child p place⟩
    rw [rowOf?, first, Option.map_some]

/-- Where no id is repeated, the row of the parent is the old one and the node then. -/
theorem rowOf?_insert? {parent : Option String} (inserted : insert? forest parent n = some forest')
    (distinct : (Node.forestIds forest').Nodup) :
    ∃ row, rowOf? forest parent = some row ∧ rowOf? forest' parent = some (row ++ [n]) := by
  cases parent with
  | none =>
    cases inserted
    exact ⟨forest, rfl, rfl⟩
  | some id =>
    obtain ⟨p, first, place⟩ := changesAt_update? inserted
    rw [← find?_eq_find?_forestNodes] at first
    have named : p.id = id := id_of_find? first
    have later : find? forest' id = some (p.withChild n) :=
      named ▸ find?_of_mem (n := p.withChild n) distinct
        (place.subset_forestNodes (p.withChild n).mem_withDescendants_self)
    refine ⟨p.children, ?_, ?_⟩
    · rw [rowOf?, first, Option.map_some]
    · rw [rowOf?, later, Option.map_some]
      rfl

/-- Where no id is repeated, the row of a node that is found is the row of its parent. -/
theorem rowOf?_locate? (distinct : (Node.forestIds forest).Nodup)
    (located : locate? forest id = some found) :
    rowOf? forest (found.parent.map (·.id)) = some found.siblings := by
  have stands := standsIn_locate? located
  cases parent : found.parent with
  | none => exact congrArg some (stands.root parent).symm
  | some p =>
    obtain ⟨mem, row⟩ := stands.inside p parent
    rw [Option.map_some, rowOf?, find?_of_mem distinct mem, Option.map_some, row]

end Forest

end PageStudio
