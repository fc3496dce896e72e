import PageStudio.Proofs.Node.Copy
import PageStudio.Proofs.Node.Descendants
import PageStudio.Proofs.Node.IdRequests

/-!
# Trees of one shape

Two trees are alike when they have one shape and related elements at the same places. A copy is like
what it copies: it has other ids, which are those that its source of ids hands out for the kinds of
the nodes in reading order, and another place in the reference viewport.

## Main statements

* `serveAll_withDescendants`: the ids of a copy, and the source of ids behind it.
* `alike_namedAsCopy`: what a renamed copy has of the node that it copies.
-/

namespace PageStudio

open Style

/-- An element is a copy of another one, under the name of a copy: it is what that is, and looks
like it but for its place in the reference viewport. -/
structure Element.CopyOf (a b : Element) : Prop where
  name : b.name = a.name ++ " Copy"
  kind : b.kind = a.kind
  content : b.content = a.content
  link : b.link = a.link
  events : b.events = a.events
  styles : ∀ v, v ≠ Viewport.referenceName → b.styles.get? v = a.styles.get? v
  hover : ∀ v, (b.styles.get? v).bind (·.hover) = (a.styles.get? v).bind (·.hover)
  base : ∀ p, p ≠ .top → p ≠ .left →
    (b.styles.get? Viewport.referenceName).bind (·.base.get? p) =
      (a.styles.get? Viewport.referenceName).bind (·.base.get? p)

namespace Node

mutual
/-- Two trees have one shape, and related elements at the same places. -/
def Alike (R : Element → Element → Prop) : Node → Node → Prop
  | .mk a as, .mk b bs => R a b ∧ ForestAlike R as bs

/-- Two forests have one shape, and related elements at the same places. -/
def ForestAlike (R : Element → Element → Prop) : List Node → List Node → Prop
  | [], [] => True
  | a :: as, b :: bs => Alike R a b ∧ ForestAlike R as bs
  | _, _ => False
end

/-! ## Moved styles -/

theorem get?_moveAlong {p q : Property} (layer : Layer) (other : q ≠ p) :
    (moveAlong p layer).get? q = layer.get? q := by
  unfold moveAlong
  split
  next => rw [Layer.set, Dict.get?_insert, if_neg other]
  next => rfl

theorem get?_moved_reference (styles : Dict String Appearance) :
    let a := (styles.get? Viewport.referenceName).getD {}
    (moved styles).get? Viewport.referenceName =
      some { a with base := moveAlong .left (moveAlong .top a.base) } :=
  (Dict.get?_insert ..).trans (if_pos rfl)

theorem get?_moved_of_ne {styles : Dict String Appearance} {v : String}
    (other : v ≠ Viewport.referenceName) : (moved styles).get? v = styles.get? v :=
  (Dict.get?_insert ..).trans (if_neg other)

theorem hover_moved (styles : Dict String Appearance) (v : String) :
    ((moved styles).get? v).bind (·.hover) = (styles.get? v).bind (·.hover) := by
  by_cases reference : v = Viewport.referenceName
  · rw [reference, get?_moved_reference]
    cases styles.get? Viewport.referenceName with
    | some a => rfl
    | none => rfl
  · rw [get?_moved_of_ne reference]

theorem base_moved {p : Property} (styles : Dict String Appearance) (top : p ≠ .top)
    (left : p ≠ .left) :
    ((moved styles).get? Viewport.referenceName).bind (·.base.get? p) =
      (styles.get? Viewport.referenceName).bind (·.base.get? p) := by
  rw [get?_moved_reference, Option.bind_some, get?_moveAlong _ left, get?_moveAlong _ top]
  cases styles.get? Viewport.referenceName with
  | some a => rfl
  | none => rfl

/-! ## Copies -/

mutual
/-- A renamed copy is like the node that it copies. -/
theorem alike_namedAsCopy (ids : IdSource) : (n : Node) →
    Alike Element.CopyOf n (n.copy ids).1.namedAsCopy
  | .mk e children =>
    ⟨⟨rfl, rfl, rfl, rfl, rfl, fun _ => get?_moved_of_ne, hover_moved e.styles,
      fun _ => base_moved e.styles⟩, forestAlike_namedAsCopy (ids.nodeId e.kind).2 children⟩

theorem forestAlike_namedAsCopy (ids : IdSource) : (forest : List Node) →
    ForestAlike Element.CopyOf forest (forestNamedAsCopy (copyForest ids forest).1)
  | [] => trivial
  | n :: rest => ⟨alike_namedAsCopy ids n, forestAlike_namedAsCopy (n.copy ids).2 rest⟩
end

/-- The ids that a copy of nodes asks for. -/
def idRequests (nodes : List Node) : List IdSource.Request := nodes.map fun n => .nodeId n.kind

theorem idRequests_append (a b : List Node) : idRequests (a ++ b) = idRequests a ++ idRequests b :=
  List.map_append

mutual
/-- A copy has the ids that are handed out for the kinds of the nodes in reading order. -/
theorem serveAll_withDescendants (ids : IdSource) : (n : Node) →
    ids.serveAll (idRequests n.withDescendants) = ((n.copy ids).1.subtreeIds, (n.copy ids).2)
  | .mk e children => by
    show IdSource.serveAll ids (.nodeId e.kind :: idRequests (forestNodes children)) = _
    rw [IdSource.serveAll, IdSource.serve, serveAll_forestNodes (ids.nodeId e.kind).2 children]
    rfl

theorem serveAll_forestNodes (ids : IdSource) : (forest : List Node) →
    ids.serveAll (idRequests (forestNodes forest)) =
      (forestIds (copyForest ids forest).1, (copyForest ids forest).2)
  | [] => rfl
  | n :: rest => by
    rw [forestNodes, idRequests_append, IdSource.serveAll_append, serveAll_withDescendants ids n,
      serveAll_forestNodes (n.copy ids).2 rest]
    rfl
end

end Node

end PageStudio
