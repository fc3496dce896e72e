import PageStudio.Proofs.Node.Place

/-!
# Paths

A path says where a node stands by the places in the rows from the roots inwards, so that two nodes
with one id, or even two equal nodes, are told apart. Paths in the order of their places are the
order of reading.

Finding a node and changing one are two recursions. Both come to the end of the same path, that to
the first node of the id (`LeadsToFirst`), and a change is one at this path alone.

## Main statements

* `ReplacedAt`: two forests that differ at one path only.
* `locate?_first`: where the node that is found stands, and what a patch and an insertion change.
-/

namespace PageStudio

/-! ## Paths from a node -/

namespace Node

/-- The node at a path, from a node inwards. -/
def at? (n : Node) : List Nat → Option Node
  | [] => some n
  | i :: path => n.children[i]?.bind (·.at? path)

/-- The node with another node at a path. -/
def setAt (new : Node) : List Nat → Node → Node
  | [], _ => new
  | i :: path, n => .mk n.element (n.children.modify i (setAt new path))

variable {n m new : Node} {p q : List Nat}

theorem mem_withDescendants_of_at? (found : n.at? q = some m) : m ∈ n.withDescendants := by
  induction q generalizing n with
  | nil =>
    cases found
    exact mem_withDescendants_self _
  | cons i q ih =>
    obtain ⟨child, here, inside⟩ := Option.bind_eq_some_iff.mp found
    cases n
    exact List.mem_cons_of_mem _
      (withDescendants_subset_of_mem (List.mem_of_getElem? here) (ih inside))

/-- What is inside a node with another node at a path. -/
theorem at?_setAt_cons (i j : Nat) :
    (setAt new (i :: p) n).at? (j :: q) =
      n.children[j]?.bind fun child => (if i = j then setAt new p child else child).at? q := by
  show ((n.children.modify i (setAt new p))[j]?).bind _ = _
  rw [List.getElem?_modify]
  cases n.children[j]? with
  | none => rfl
  | some child => split <;> rfl

theorem at?_setAt_self (there : n.at? p = some m) : (setAt new p n).at? p = some new := by
  induction p generalizing n with
  | nil => rfl
  | cons i p ih =>
    obtain ⟨child, here, inside⟩ := Option.bind_eq_some_iff.mp there
    rw [at?_setAt_cons, here, Option.bind_some, if_pos rfl]
    exact ih inside

/-- Beside a path, neither above it nor below it, nothing is changed. -/
theorem at?_setAt_of_beside (not_below : ¬ p <+: q) (not_above : ¬ q <+: p) :
    (setAt new p n).at? q = n.at? q := by
  induction p generalizing n q with
  | nil => exact absurd List.nil_prefix not_below
  | cons i p ih =>
    cases q with
    | nil => exact absurd List.nil_prefix not_above
    | cons j q =>
      rw [at?_setAt_cons]
      refine congrArg _ (funext fun child => ?_)
      split
      next same =>
        subst same
        exact ih (mt (List.prefix_cons_inj i).mpr not_below)
          (mt (List.prefix_cons_inj i).mpr not_above)
      next => rfl

/-- Above a path the elements are as before. -/
theorem element_at?_setAt_of_above (above : q <+: p) (other : q ≠ p) :
    ((setAt new p n).at? q).map (·.element) = (n.at? q).map (·.element) := by
  induction p generalizing n q with
  | nil => exact absurd (List.prefix_nil.mp above) other
  | cons i p ih =>
    cases q with
    | nil => rfl
    | cons j q =>
      obtain ⟨rfl, rest⟩ := List.cons_prefix_cons.mp above
      rw [at?_setAt_cons, at?]
      cases n.children[j]? with
      | none => rfl
      | some child =>
        rw [Option.bind_some, Option.bind_some, if_pos rfl]
        exact ih rest fun same => other (congrArg _ same)

end Node

/-! ## Paths in a forest -/

namespace Forest

open Node (forestIds forestNodes)

/-- The node at a path of a forest. The path begins with the place of a root. -/
def at? (forest : List Node) : List Nat → Option Node
  | [] => none
  | i :: path => forest[i]?.bind (·.at? path)

/-- The forest with another node at a path. -/
def setAt (new : Node) : List Nat → List Node → List Node
  | [], forest => forest
  | i :: path, forest => forest.modify i (Node.setAt new path)

/-- Two forests differ at one path only, where the second one has a given node: all nodes beside
the path are the same, and so are the elements on the way to it. -/
structure ReplacedAt (path : List Nat) (new : Node) (forest forest' : List Node) : Prop where
  here : at? forest' path = some new
  beside : ∀ q, ¬ path <+: q → ¬ q <+: path → at? forest' q = at? forest q
  above : ∀ q, q <+: path → q ≠ path →
    (at? forest' q).map (·.element) = (at? forest q).map (·.element)

variable {id : String} {forest : List Node} {n m new : Node} {path : List Nat}

theorem replacedAt_setAt (there : at? forest path = some m) :
    ReplacedAt path new forest (setAt new path forest) := by
  cases path with
  | nil => cases there
  | cons i path =>
    -- A forest is what is inside of any node that has it as its children.
    let around : Node := .mk m.element forest
    have inside : around.at? (i :: path) = some m := there
    refine ⟨Node.at?_setAt_self inside, fun q not_below not_above => ?_, fun q above other => ?_⟩
    · cases q with
      | nil => rfl
      | cons j q => exact Node.at?_setAt_of_beside (n := around) not_below not_above
    · cases q with
      | nil => rfl
      | cons j q => exact Node.element_at?_setAt_of_above (n := around) above other

/-! ## The path to the first node of an id -/

/-- A path leads to the first node of an id in reading order: to a node of the row itself, inside
one, or behind one that has the id neither itself nor inside. -/
inductive LeadsToFirst (id : String) : List Node → List Nat → Node → Prop
  | here {n : Node} (rest : List Node) (own : n.id = id) : LeadsToFirst id (n :: rest) [0] n
  | inside {e : Element} {children : List Node} {i : Nat} {path : List Nat} {m : Node}
      (rest : List Node) (other : e.id ≠ id) (below : LeadsToFirst id children (i :: path) m) :
      LeadsToFirst id (.mk e children :: rest) (0 :: i :: path) m
  | behind {n : Node} {rest : List Node} {i : Nat} {path : List Nat} {m : Node}
      (absent : id ∉ n.subtreeIds) (later : LeadsToFirst id rest (i :: path) m) :
      LeadsToFirst id (n :: rest) ((i + 1) :: path) m

theorem exists_leadsToFirst : {forest : List Node} → id ∈ forestIds forest →
    ∃ i path m, LeadsToFirst id forest (i :: path) m
  | .mk e children :: rest, mem => by
    by_cases own : e.id = id
    · exact ⟨_, _, _, .here rest own⟩
    by_cases below : id ∈ forestIds children
    · obtain ⟨i, path, m, leads⟩ := exists_leadsToFirst below
      exact ⟨_, _, _, .inside rest own leads⟩
    have absent : id ∉ (Node.mk e children).subtreeIds :=
      Node.not_mem_subtreeIds_iff.mpr ⟨fun same => own (eq_of_beq same), below⟩
    obtain ⟨i, path, m, leads⟩ :=
      exists_leadsToFirst ((List.mem_append.mp mem).resolve_left absent)
    exact ⟨_, _, _, .behind absent leads⟩

theorem LeadsToFirst.at? (leads : LeadsToFirst id forest path m) :
    Forest.at? forest path = some m ∧ m.id = id := by
  induction leads with
  | here rest own => exact ⟨rfl, own⟩
  | inside rest other below ih => exact ih
  | behind absent later ih => exact ih

/-- No path to a node of the id is in front of it. -/
theorem LeadsToFirst.le (leads : LeadsToFirst id forest path m) {q : List Nat}
    (found : Forest.at? forest q = some n) (named : n.id = id) :
    q = path ∨ List.Lex (· < ·) path q := by
  -- Where the path goes on into the first node of the row, so does any path that is not behind it.
  induction leads generalizing q with
  | here rest own =>
    obtain _ | ⟨_ | j, _ | ⟨k, q⟩⟩ := q
    · cases found
    · exact .inl rfl
    · exact .inr (.cons .nil)
    · exact .inr (.rel (Nat.succ_pos j))
    · exact .inr (.rel (Nat.succ_pos j))
  | inside rest other below ih =>
    obtain _ | ⟨_ | j, _ | ⟨k, q⟩⟩ := q
    · cases found
    · cases found
      exact absurd named other
    · have lower : Forest.at? _ (k :: q) = some n := found
      exact (ih lower).imp (congrArg _) .cons
    · exact .inr (.rel (Nat.succ_pos j))
    · exact .inr (.rel (Nat.succ_pos j))
  | @behind first rest i path m absent later ih =>
    obtain _ | ⟨_ | j, q⟩ := q
    · cases found
    · have inside : n ∈ first.withDescendants := Node.mem_withDescendants_of_at? found
      rw [Node.subtreeIds_eq_map] at absent
      exact absurd (named ▸ List.mem_map_of_mem inside) absent
    · rcases ih (q := j :: q) found with same | lex
      · cases same
        exact .inl rfl
      · cases lex with
        | rel lt => exact .inr (.rel (Nat.succ_lt_succ lt))
        | cons lex => exact .inr (.cons lex)

/-! ## Finding and changing along it -/

theorem locateAt_eq_none {parent : Option Node} {siblings : List Node} {index : Nat}
    (absent : id ∉ n.subtreeIds) : locateAt id parent siblings index n = none := by
  have none : (locateAt id parent siblings index n).map (·.node) =
      n.withDescendants.find? fun m : Node => m.id == id := node_locateAt n
  rw [Node.find?_withDescendants_eq_none absent] at none
  exact Option.map_eq_none_iff.mp none

/-- What is found in a part of a row stands at the end of the path: in the row itself, or under the
node that the path comes to last before. -/
theorem LeadsToFirst.locateFrom {i : Nat} {path : List Nat} {row : List Node}
    (leads : LeadsToFirst id row (i :: path) m) (parent : Option Node) (siblings : List Node)
    (index : Nat) :
    ∃ found, Forest.locateFrom id parent siblings index row = some found ∧ found.node = m ∧
      ((path = [] ∧ found.index = index + i ∧ found.parent = parent) ∨
        ∃ j way, i :: path = j :: way ++ [found.index] ∧
          found.parent = Forest.at? row (j :: way)) := by
  generalize reached : i :: path = q at leads
  -- One node inwards the row is another and its places count from zero; one node on, the row stays.
  induction leads generalizing i path parent siblings index with
  | @here n rest own =>
    cases reached
    cases n with
    | mk e children =>
      have named : (e.id == id) = true := beq_iff_eq.mpr own
      refine ⟨⟨.mk e children, siblings, index, parent⟩, ?_, rfl, .inl ⟨rfl, rfl, rfl⟩⟩
      rw [Forest.locateFrom, locateAt, if_pos named]
  | @inside e children i' path' m rest other below ih =>
    cases reached
    obtain ⟨found, located, node, stands⟩ := ih (some (.mk e children)) children 0 rfl
    refine ⟨found, ?_, node, .inr ?_⟩
    · rw [Forest.locateFrom, locateAt, if_neg (mt eq_of_beq other), located]
    · rcases stands with ⟨rfl, index', parent'⟩ | ⟨j, way, same, parent'⟩
      · refine ⟨0, [], ?_, parent'⟩
        rw [index', Nat.zero_add]
        rfl
      · exact ⟨0, j :: way, congrArg _ same, parent'⟩
  | @behind n rest i' path' m absent later ih =>
    cases reached
    obtain ⟨found, located, node, stands⟩ := ih parent siblings (index + 1) rfl
    refine ⟨found, ?_, node, ?_⟩
    · rw [Forest.locateFrom, locateAt_eq_none absent]
      exact located
    · rcases stands with ⟨rfl, index', parent'⟩ | ⟨j, way, same, parent'⟩
      · exact .inl ⟨rfl, by omega, parent'⟩
      · obtain ⟨rfl, rfl⟩ := List.cons.inj same
        exact .inr ⟨i' + 1, way, rfl, parent'⟩

/-- The first node of the id is changed at the end of the path. -/
theorem LeadsToFirst.update? {f : Node → Node} (leads : LeadsToFirst id forest path m) :
    Forest.update? id f forest = some (setAt (f m) path forest) := by
  induction leads with
  | @here n rest own =>
    cases n with
    | mk e children =>
      have named : (e.id == id) = true := beq_iff_eq.mpr own
      rw [Forest.update?, updateNode?, if_pos named]
      rfl
  | inside rest other below ih =>
    rw [Forest.update?, updateNode?, if_neg (mt eq_of_beq other), ih]
    rfl
  | behind absent later ih =>
    rw [Forest.update?, updateNode?_eq_none_iff.mpr absent, ih]
    rfl

/-- A path ends at a place: at the node, and the way up to its last step at the parent. -/
structure EndsAt (forest : List Node) (path : List Nat) (found : Located) : Prop where
  node : at? forest path = some found.node
  parent : ∃ way, path = way ++ [found.index] ∧ found.parent = at? forest way

/-- The place of the first node of the id is the one where the path ends. -/
theorem LeadsToFirst.locate? (leads : LeadsToFirst id forest path m) :
    ∃ found, Forest.locate? forest id = some found ∧ EndsAt forest path found := by
  cases path with
  | nil => cases leads
  | cons i path =>
    obtain ⟨found, located, node, stands⟩ := leads.locateFrom none forest 0
    refine ⟨found, located, leads.at?.1.trans (congrArg some node.symm), ?_⟩
    rcases stands with ⟨rfl, index, parent⟩ | ⟨j, way, same, parent⟩
    · exact ⟨[], by rw [index, Nat.zero_add]; rfl, parent⟩
    · exact ⟨j :: way, same, parent⟩

/-- A node is found exactly where its id is one of the forest, and it is the first one of the id in
reading order, in the row and at the path where it stands. A patch and an insertion by the id change
the forest at this path, and at no other; where the id is not found, they change nothing. -/
theorem locate?_first (forest : List Node) (id : String) :
    ((locate? forest id).isSome = true ↔ id ∈ forestIds forest) ∧
      (∀ found, locate? forest id = some found →
        (forestNodes forest).find? (fun m : Node => m.id == id) = some found.node ∧
          found.StandsIn forest ∧
          ∃ path, EndsAt forest path found ∧
            (∀ q m, at? forest q = some m → m.id = id → q = path ∨ List.Lex (· < ·) path q) ∧
            (∀ p : NodePatch, ReplacedAt path (p.apply found.node) forest (patch forest id p)) ∧
            ∀ n, ∃ forest', insert? forest (some id) n = some forest' ∧
              ReplacedAt path (found.node.withChild n) forest forest') ∧
      (locate? forest id = none →
        (∀ p, patch forest id p = forest) ∧ ∀ n, insert? forest (some id) n = none) := by
  have present : (locate? forest id).isSome = true ↔ id ∈ forestIds forest := by
    rw [← isSome_find?_iff, find?, Option.isSome_map]
  refine ⟨present, fun found located => ?_, fun missing => ?_⟩
  · have first : find? forest id = some found.node := congrArg (Option.map Located.node) located
    have mem : id ∈ forestIds forest := isSome_find?_iff.mp (Option.isSome_of_eq_some first)
    obtain ⟨i, path, m, leads⟩ := exists_leadsToFirst mem
    obtain ⟨_, again, ends⟩ := leads.locate?
    cases located.symm.trans again
    have node : m = found.node := Option.some.inj (leads.at?.1.symm.trans ends.node)
    subst node
    refine ⟨(find?_eq_find?_forestNodes forest id).symm.trans first, standsIn_locate? located,
      _, ends, fun q m there named => leads.le there named, fun p => ?_, fun n => ?_⟩
    · have changed : patch forest id p = setAt (p.apply found.node) (i :: path) forest := by
        rw [patch, leads.update?, Option.getD_some]
      exact changed ▸ replacedAt_setAt ends.node
    · exact ⟨_, leads.update?, replacedAt_setAt ends.node⟩
  · have absent : id ∉ forestIds forest := by
      rw [← present, missing]
      exact Bool.false_ne_true
    refine ⟨fun p => ?_, fun n => update?_eq_none_iff.mpr absent⟩
    rw [patch, update?_eq_none_iff.mpr absent, Option.getD_none]

/-- Of two nodes with one id, the one inside the first root is in front of the second root. -/
example :
    let card := (Node.bare "card" .card "Card").withChild (Node.bare "x" .text "Inner")
    let forest := [card, Node.bare "x" .text "Outer"]
    let found := locate? forest "x"
    found.map (·.node.element.name) = some "Inner" ∧ found.bind (·.parent.map (·.id)) = some "card" ∧
      (forestNodes (patch forest "x" { name := some "New" })).map (·.element.name) =
        ["Card", "New", "Outer"] := ⟨rfl, rfl, rfl⟩

end Forest

end PageStudio
