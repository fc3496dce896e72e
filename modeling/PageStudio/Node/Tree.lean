import PageStudio.Node.Content
import PageStudio.Node.Kind
import PageStudio.Node.Link
import PageStudio.Style.Layer
import PageStudio.Style.Viewport

/-!
# Nodes

A page is a forest of nodes. A node is an element, which says what it is, looks like and does,
with the nodes inside it.
-/

namespace PageStudio

open Json Style

/-- What a node is by itself. -/
structure Element where
  id : String
  kind : Kind
  name : String
  /-- How it looks, by the names of viewports. -/
  styles : Dict String Appearance := ∅
  content : Content := {}
  link : Option Link := none
  /-- Code to run, by the names of events. -/
  events : Dict String String := ∅
deriving Inhabited

/-- An element and its children. -/
inductive Node where
  | mk (element : Element) (children : List Node)
deriving Inhabited

/-- Whether two elements are the same. -/
def Element.same (a b : Element) : Bool :=
  a.id == b.id && a.kind == b.kind && a.name == b.name && a.styles == b.styles &&
    a.content.same b.content && a.link == b.link && a.events == b.events

namespace Node

/-- What the node is by itself. -/
def element : Node → Element
  | mk e _ => e

/-- The nodes inside. -/
def children : Node → List Node
  | mk _ children => children

/-- The id. -/
def id (n : Node) : String := n.element.id

/-- The kind. -/
def kind (n : Node) : Kind := n.element.kind

/-- The content. -/
def content (n : Node) : Content := n.element.content

/-- A node without styles, content, children, link and events. -/
def bare (id : String) (kind : Kind) (name : String) : Node := mk { id, kind, name } []

/-- The node with another element. -/
def withElement (n : Node) (e : Element) : Node := mk e n.children

/-- The node with styles for a viewport. -/
def withStyles (n : Node) (viewport : String) (styles : Appearance) : Node :=
  n.withElement { n.element with styles := n.element.styles.insert viewport styles }

/-- The node with a base layer for the reference viewport. -/
def withBase (n : Node) (base : Layer) : Node :=
  n.withStyles Viewport.referenceName { base }

/-- The node with another content. -/
def withContent (n : Node) (content : Content) : Node :=
  n.withElement { n.element with content }

/-- The node with a link. -/
def withLink (n : Node) (link : Link) : Node :=
  n.withElement { n.element with link := some link }

/-- The node with code for an event. -/
def withEvent (n : Node) (event code : String) : Node :=
  n.withElement { n.element with events := n.element.events.insert event code }

/-- The node with one more child behind the others. -/
def withChild (n child : Node) : Node := mk n.element (n.children ++ [child])

/-- The styles for the reference viewport. -/
def referenceStyles? (n : Node) : Option Appearance :=
  n.element.styles.get? Viewport.referenceName

mutual
/-- The ids of a node and of all nodes inside it, each node before its children. -/
def subtreeIds : Node → List String
  | mk e children => e.id :: forestIds children

/-- The ids of all nodes of a forest, each node before its children. -/
def forestIds : List Node → List String
  | [] => []
  | n :: rest => subtreeIds n ++ forestIds rest
end

mutual
/-- Whether two nodes are the same. -/
def same : Node → Node → Bool
  | mk a as, mk b bs => a.same b && sameForest as bs

/-- Whether two forests are the same. -/
def sameForest : List Node → List Node → Bool
  | [], [] => true
  | a :: as, b :: bs => same a b && sameForest as bs
  | _, _ => false
end

instance : BEq Node := ⟨same⟩

end Node

end PageStudio
