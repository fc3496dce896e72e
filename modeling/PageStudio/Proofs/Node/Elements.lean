import PageStudio.Node.Copy
import PageStudio.Node.Forest
import PageStudio.Proofs.Node.Forest
import PageStudio.Proofs.Node.Form

/-!
# Properties of all elements

A property that all elements of a forest have is kept by removals, by insertions of nodes whose
elements have it, and by changes that keep it at the changed node. A copy keeps those properties
that are about content and link alone (`AboutContent`).
-/

namespace PageStudio

variable {P : Element → Prop} {n : Node} {rest forest : List Node}

/-- The property is about the content and the link of an element and nothing else. -/
def Element.AboutContent (P : Element → Prop) : Prop :=
  ∀ ⦃e e' : Element⦄, e'.content = e.content → e'.link = e.link → P e → P e'

namespace Node

/-- All elements of a node have a property. -/
def All (P : Element → Prop) (n : Node) : Prop := ∀ m ∈ n.withDescendants, P m.element

/-- All elements of a forest have a property. -/
def ForestAll (P : Element → Prop) (forest : List Node) : Prop :=
  ∀ m ∈ forestNodes forest, P m.element

theorem all_mk_iff {e : Element} {children : List Node} :
    All P (.mk e children) ↔ P e ∧ ForestAll P children :=
  forall_mem_withDescendants

theorem forestAll_nil : ForestAll P [] := fun _ mem => by cases mem

theorem forestAll_cons_iff : ForestAll P (n :: rest) ↔ n.All P ∧ ForestAll P rest :=
  forall_mem_forestNodes_cons

theorem forestAll_singleton (all : n.All P) : ForestAll P [n] :=
  forestAll_cons_iff.mpr ⟨all, forestAll_nil⟩

theorem forestAll_append_iff :
    ForestAll P (forest ++ rest) ↔ ForestAll P forest ∧ ForestAll P rest := by
  unfold ForestAll
  rw [forestNodes_append, List.forall_mem_append]

theorem forestAll_iff_forestElements : ForestAll P forest ↔ ∀ e ∈ forestElements forest, P e :=
  List.forall_mem_map.symm

theorem forestAll_iff : ForestAll P forest ↔ ∀ n ∈ forest, n.All P := by
  induction forest with
  | nil => exact ⟨fun _ _ mem => (by cases mem), fun _ => forestAll_nil⟩
  | cons n rest ih => rw [forestAll_cons_iff, ih, List.forall_mem_cons]

mutual
/-- A node can be written when all its elements can. -/
theorem storable_of_all : {n : Node} → n.All Element.Storable → n.Storable
  | .mk _ _, all => by
    obtain ⟨own, below⟩ := all_mk_iff.mp all
    exact ⟨own, forestStorable_of_all below⟩

theorem forestStorable_of_all : {forest : List Node} → ForestAll Element.Storable forest →
    ForestStorable forest
  | [], _ => trivial
  | _ :: _, all => by
    obtain ⟨first, others⟩ := forestAll_cons_iff.mp all
    exact ⟨storable_of_all first, forestStorable_of_all others⟩
end

/-! ## Copies -/

mutual
theorem all_copy (about : Element.AboutContent P) : {n : Node} → n.All P → (ids : IdSource) →
    (n.copy ids).1.All P
  | .mk e _, all, _ => by
    obtain ⟨own, below⟩ := all_mk_iff.mp all
    exact all_mk_iff.mpr ⟨about (e := e) rfl rfl own, forestAll_copy about below _⟩

theorem forestAll_copy (about : Element.AboutContent P) : {forest : List Node} →
    ForestAll P forest → (ids : IdSource) → ForestAll P (copyForest ids forest).1
  | [], _, _ => forestAll_nil
  | _ :: _, all, _ => by
    obtain ⟨first, others⟩ := forestAll_cons_iff.mp all
    exact forestAll_cons_iff.mpr ⟨all_copy about first _, forestAll_copy about others _⟩
end

mutual
theorem all_namedAsCopy (about : Element.AboutContent P) : {n : Node} → n.All P →
    n.namedAsCopy.All P
  | .mk e _, all => by
    obtain ⟨own, below⟩ := all_mk_iff.mp all
    exact all_mk_iff.mpr ⟨about (e := e) rfl rfl own, forestAll_namedAsCopy about below⟩

theorem forestAll_namedAsCopy (about : Element.AboutContent P) : {forest : List Node} →
    ForestAll P forest → ForestAll P (forestNamedAsCopy forest)
  | [], _ => forestAll_nil
  | _ :: _, all => by
    obtain ⟨first, others⟩ := forestAll_cons_iff.mp all
    exact forestAll_cons_iff.mpr ⟨all_namedAsCopy about first, forestAll_namedAsCopy about others⟩
end

end Node

/-! ## Changed forests -/

namespace Forest

open Node

variable {id : String} {f : Node → Node}

/-- A change of one node keeps what it keeps of that. -/
theorem forestAll_changesAt {a b : Node} {forest' : List Node} (kept : a.All P → b.All P)
    (all : ForestAll P forest) (changed : ChangesAt a b forest forest') : ForestAll P forest' := by
  induction changed with
  | here rest =>
    obtain ⟨first, others⟩ := forestAll_cons_iff.mp all
    exact forestAll_cons_iff.mpr ⟨kept first, others⟩
  | inside e rest _ ih =>
    obtain ⟨first, others⟩ := forestAll_cons_iff.mp all
    obtain ⟨own, below⟩ := all_mk_iff.mp first
    exact forestAll_cons_iff.mpr ⟨all_mk_iff.mpr ⟨own, ih below⟩, others⟩
  | behind n _ ih =>
    obtain ⟨first, others⟩ := forestAll_cons_iff.mp all
    exact forestAll_cons_iff.mpr ⟨first, ih others⟩

theorem forestAll_update? {forest' : List Node} (kept : ∀ m : Node, m.All P → (f m).All P)
    (all : ForestAll P forest) (changed : update? id f forest = some forest') :
    ForestAll P forest' := by
  obtain ⟨found, -, place⟩ := changesAt_update? changed
  exact forestAll_changesAt (kept found) all place

theorem forestAll_patch {p : NodePatch} (kept : ∀ m : Node, m.All P → (p.apply m).All P)
    (all : ForestAll P forest) : ForestAll P (patch forest id p) := by
  unfold patch
  cases changed : update? id p.apply forest with
  | none => exact all
  | some forest' => exact forestAll_update? kept all changed

/-- One more child changes no element. -/
theorem all_withChild {child : Node} : {n : Node} → n.All P → child.All P →
    (n.withChild child).All P
  | .mk _ _, all, new => by
    obtain ⟨own, below⟩ := all_mk_iff.mp all
    exact all_mk_iff.mpr ⟨own, forestAll_append_iff.mpr ⟨below, forestAll_singleton new⟩⟩

theorem forestAll_insert? {forest' : List Node} {parent : Option String}
    (all : ForestAll P forest) (new : n.All P) (inserted : insert? forest parent n = some forest') :
    ForestAll P forest' := by
  cases parent with
  | none =>
    cases inserted
    exact forestAll_append_iff.mpr ⟨all, forestAll_singleton new⟩
  | some id => exact forestAll_update? (fun m h => all_withChild h new) all inserted

/-! ## Removing -/

theorem forestAll_takesOut {a : Node} {forest' : List Node} (all : ForestAll P forest)
    (taken : TakesOut a forest forest') : ForestAll P forest' := by
  obtain ⟨front, back, old, new⟩ := taken.cut
  rw [forestAll_iff_forestElements, old, List.forall_mem_append, List.forall_mem_append] at all
  obtain ⟨before, -, behind⟩ := all
  rw [forestAll_iff_forestElements, new]
  exact List.forall_mem_append.mpr ⟨before, behind⟩

theorem forestAll_remove (all : ForestAll P forest) : ForestAll P (remove forest id) := by
  unfold remove
  cases taken : remove? forest id with
  | none => exact all
  | some found => exact forestAll_takesOut all (takesOut_remove? taken)

/-! ## Finding -/

/-- A node that is found is one of the forest. -/
theorem all_locate? {found : Located} (all : ForestAll P forest)
    (located : locate? forest id = some found) : found.node.All P := by
  have first : find? forest id = some found.node := by rw [find?, located, Option.map_some]
  exact fun n inside => all n (withDescendants_subset_forestNodes (mem_of_find? first) inside)

end Forest

end PageStudio
