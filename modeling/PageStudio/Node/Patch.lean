import PageStudio.Node.Form

/-!
# Patches of nodes

A patch changes some of the properties of a node. Styles are exchanged for each viewport by
itself; any other property is exchanged as a whole.
-/

namespace PageStudio

open Json Style

/-- A change of some of the properties of a node. -/
structure NodePatch where
  name : Option String := none
  kind : Option Kind := none
  content : Option Content := none
  styles : Option (Dict String Appearance) := none
  children : Option (List Node) := none
  /-- `some none` takes the link away. -/
  link : Option (Option Link) := none
  events : Option (Dict String String) := none
deriving Inhabited

namespace NodePatch

/-- The node with what the patch has in place of what it had. -/
def apply (patch : NodePatch) (n : Node) : Node :=
  let e := n.element
  .mk
    { id := e.id
      kind := patch.kind.getD e.kind
      name := patch.name.getD e.name
      styles := e.styles.union (patch.styles.getD ∅)
      content := patch.content.getD e.content
      link := patch.link.getD e.link
      events := patch.events.getD e.events }
    (patch.children.getD n.children)

/-- Whether two patches are the same. -/
def same (a b : NodePatch) : Bool :=
  a.name == b.name && a.kind == b.kind &&
    (match a.content, b.content with
      | none, none => true
      | some c, some d => c.same d
      | _, _ => false) &&
    a.styles == b.styles && a.children == b.children && a.link == b.link && a.events == b.events

instance : BEq NodePatch := ⟨same⟩

/-- The written form. A link that is taken away is written `null`. -/
def toJson (p : NodePatch) : Json :=
  ofFields [
    ("name", p.name.map .string),
    ("type", p.kind.map fun k => .string k.name),
    ("content", p.content.map Content.toJson),
    ("stylesByViewport", p.styles.map stylesJson),
    ("children", p.children.map fun children => .array (Node.forestJson children)),
    ("linkUrl", p.link.map fun link => (link.map Link.toJson).getD .null),
    ("events", p.events.map eventsJson)]

def fieldNames : List String :=
  ["name", "type", "content", "stylesByViewport", "children", "linkUrl", "events"]

/-- Reads a patch. A link that is `null` is taken away; any other field that is `null` is missing.
-/
def read (v : Source) : Option NodePatch := do
  let fields ← Fields.read? fieldNames v
  let name ← fields.optional "name" Reader.text
  let kind ← fields.optional "type" Kind.read
  let content ← fields.optional "content" Content.read
  let styles ← fields.optional "stylesByViewport" (Reader.table Appearance.read)
  let children ← fields.optional "children" readForest
  let link ← fields.withDefault "linkUrl" (fun v => (Reader.optional Link.read v).map some) none
  let events ← fields.optional "events" (Reader.table Reader.text)
  return { name, kind, content, styles, children, link, events }

end NodePatch

end PageStudio
