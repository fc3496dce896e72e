import PageStudio.Proofs.Node.Alike

/-!
# Copies node by node

A copy has the shape of what it copies. Its ids count on from those that its source of ids handed
out before, and the only other things that are new are two coordinates in the reference viewport.

## Main statements

* `coordinate_moved`: what becomes of a coordinate.
* `copy_renumbered`: the ids of a copy, its elements, and the source of ids behind it.
-/

namespace PageStudio

open Style

/-- What becomes of a coordinate in a copy. One that is missing was zero. -/
inductive CoordinateMoves : Option String → Option String → Prop
  | missing : CoordinateMoves none (some "20px")
  /-- The number is another one, and the unit stays, or is pixels where there was none. -/
  | length {s : String} {l : Length} (read : Length.ofText? s = some l) :
    CoordinateMoves (some s)
      (some (Decimal.brief (l.number + 20) ++ if l.unit.isEmpty then "px" else l.unit))
  | other {s : String} (read : Length.ofText? s = none) : CoordinateMoves (some s) (some s)

/-- The value of a property in the base layer for a viewport. -/
def Element.baseValue? (e : Element) (viewport : String) (p : Property) : Option String :=
  (e.styles.get? viewport).bind (·.base.get? p)

/-- An element is another one but for its id and its place in the reference viewport. -/
structure Element.MovedFrom (a b : Element) : Prop where
  name : b.name = a.name
  kind : b.kind = a.kind
  content : b.content = a.content
  link : b.link = a.link
  events : b.events = a.events
  styles : ∀ v, v ≠ Viewport.referenceName → b.styles.get? v = a.styles.get? v
  hover : (b.styles.get? Viewport.referenceName).bind (·.hover) =
    (a.styles.get? Viewport.referenceName).bind (·.hover)
  base : ∀ p, p ≠ .top → p ≠ .left →
    b.baseValue? Viewport.referenceName p = a.baseValue? Viewport.referenceName p
  coordinates : ∀ p, p = .top ∨ p = .left →
    CoordinateMoves (a.baseValue? Viewport.referenceName p)
      (b.baseValue? Viewport.referenceName p)

namespace Node

/-! ## Coordinates -/

theorem coordinateMoves (c : Option String) : CoordinateMoves c ((movedCoordinate? c).or c) := by
  cases c with
  | none =>
    have offset : Length.toText ⟨copyOffset, "px"⟩ = "20px" := by decide +kernel
    show CoordinateMoves none (some (Length.toText ⟨copyOffset, "px"⟩))
    rw [offset]
    exact .missing
  | some s =>
    rw [movedCoordinate?]
    cases read : Length.ofText? s with
    | none => exact .other read
    | some l => exact .length read

/-- A layer with a coordinate moved has the moved one, or the old one where that is no length. -/
theorem get?_moveAlong_self (p : Property) (layer : Layer) :
    (moveAlong p layer).get? p = (movedCoordinate? (layer.get? p)).or (layer.get? p) := by
  unfold moveAlong
  cases movedCoordinate? (layer.get? p) with
  | none => rfl
  | some moved => exact (Dict.get?_insert ..).trans (if_pos rfl)

/-- Either coordinate moves by itself. -/
theorem get?_moved_coordinate {p : Property} (styles : Dict String Appearance)
    (coordinate : p = .top ∨ p = .left) :
    let before := (styles.get? Viewport.referenceName).bind (·.base.get? p)
    ((moved styles).get? Viewport.referenceName).bind (·.base.get? p) =
      (movedCoordinate? before).or before := by
  have before : (styles.get? Viewport.referenceName).bind (·.base.get? p) =
      ((styles.get? Viewport.referenceName).getD {}).base.get? p := by
    cases styles.get? Viewport.referenceName with
    | some a => rfl
    | none => rfl
  rw [get?_moved_reference, before]
  generalize (styles.get? Viewport.referenceName).getD {} = a
  show (moveAlong .left (moveAlong .top a.base)).get? p = _
  rcases coordinate with rfl | rfl
  · rw [get?_moveAlong _ (by decide), get?_moveAlong_self]
  · rw [get?_moveAlong_self, get?_moveAlong _ (by decide)]

theorem coordinate_moved {p : Property} (styles : Dict String Appearance)
    (coordinate : p = .top ∨ p = .left) :
    CoordinateMoves ((styles.get? Viewport.referenceName).bind (·.base.get? p))
      (((moved styles).get? Viewport.referenceName).bind (·.base.get? p)) := by
  rw [get?_moved_coordinate styles coordinate]
  exact coordinateMoves _

/-! ## Copies -/

mutual
theorem alike_copy (ids : IdSource) : (n : Node) → Alike Element.MovedFrom n (n.copy ids).1
  | .mk e children =>
    ⟨⟨rfl, rfl, rfl, rfl, rfl, fun _ => get?_moved_of_ne, hover_moved e.styles _,
      fun _ => base_moved e.styles, fun _ => coordinate_moved e.styles⟩,
      forestAlike_copyForest (ids.nodeId e.kind).2 children⟩

theorem forestAlike_copyForest (ids : IdSource) : (forest : List Node) →
    ForestAlike Element.MovedFrom forest (copyForest ids forest).1
  | [] => trivial
  | n :: rest => ⟨alike_copy ids n, forestAlike_copyForest (n.copy ids).2 rest⟩
end

/-- Ids for nodes are numbered on from the count of the source, without a gap. -/
theorem serveAll_idRequests (ids : IdSource) (nodes : List Node) :
    ids.serveAll (idRequests nodes) =
      (nodes.mapIdx fun i n => ids.idAt n.kind.slug (ids.count + 1 + i),
        { ids with count := ids.count + nodes.length }) := by
  induction nodes generalizing ids with
  | nil => rfl
  | cons n rest ih =>
    -- Behind the first id the source has counted one more, and the places begin at zero again.
    have later : (fun i (m : Node) =>
        (ids.nodeId n.kind).2.idAt m.kind.slug (ids.count + 1 + 1 + i)) =
          fun i m => ids.idAt m.kind.slug (ids.count + 1 + (i + 1)) := by
      funext i m
      rw [Nat.add_right_comm (ids.count + 1), Nat.add_assoc (ids.count + 1)]
      rfl
    have last : ids.count + 1 + rest.length = ids.count + (rest.length + 1) := by omega
    rw [List.mapIdx_cons, List.length_cons, ← last, ← later]
    show (_ :: (IdSource.serveAll (ids.nodeId n.kind).2 (idRequests rest)).1,
      (IdSource.serveAll (ids.nodeId n.kind).2 (idRequests rest)).2) = _
    rw [ih]
    rfl

/-- A copy is the node over again, at every place inside: it has the same shape, and at each node
the same name, kind, content, link, events and looks, but for two coordinates in the reference
viewport. Its ids, each node before its children, are numbered on from the count of the source
without a gap, and the count behind them is the number of the last one, which is to be one of 64
bits. -/
theorem copy_renumbered (n : Node) (ids : IdSource) :
    Alike Element.MovedFrom n (n.copy ids).1 ∧
    (n.copy ids).1.subtreeIds = n.withDescendants.mapIdx (fun i m =>
      m.kind.slug ++ "-" ++ ids.seed ++ "-" ++
        String.ofList (Nat.toDigits 10 (ids.count + 1 + i))) ∧
    (n.copy ids).2 = { ids with count := ids.count + n.withDescendants.length } := by
  have served := serveAll_withDescendants ids n
  rw [serveAll_idRequests] at served
  exact ⟨alike_copy ids n, (congrArg Prod.fst served).symm, (congrArg Prod.snd served).symm⟩

end Node

end PageStudio
