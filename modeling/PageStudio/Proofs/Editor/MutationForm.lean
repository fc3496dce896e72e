import PageStudio.Editor.MutationForm
import PageStudio.Proofs.Document.Form

/-!
# Mutations are read back

A mutation is an object with one member, so its place is known; the data in it may be arranged in
any order.
-/

namespace PageStudio.Mutation

open Json

variable {f : Json → Json}

/-- The nodes and the patch that a mutation brings can be written. -/
def Storable : Mutation → Prop
  | insertNode _ n => n.Storable
  | updateNode _ p => p.Storable
  | replaceLayout _ nodes => Node.ForestStorable nodes
  | _ => True

/-- The data of a mutation is read back under its name. -/
theorem reads_dataJson (h : Arranges f) {m : Mutation} (storable : m.Storable) :
    Reads f (readData m.name) m.dataJson m := by
  unfold Reads
  cases m with
  | insertNode parent n =>
    have nullable := h.nullable (x := parent) rfl fun id _ => h.text id
    refine h.members (by rfl) (by decide) fun fields holds => ?_
    refine bind_eq_some (holds.withDefault (by simp) nullable none) ?_
    exact bind_eq_some (holds.required (by simp) (n.reads_toJson h storable)) rfl
  | updateNode id p =>
    refine h.members (by rfl) (by decide) fun fields holds => ?_
    refine bind_eq_some (holds.required (by simp) (h.text id)) ?_
    exact bind_eq_some (holds.required (by simp) (p.reads_toJson h storable)) rfl
  | removeNode id =>
    refine h.members (by rfl) (by decide) fun fields holds => ?_
    exact bind_eq_some (holds.required (by simp) (h.text id)) rfl
  | duplicateNode id =>
    refine h.members (by rfl) (by decide) fun fields holds => ?_
    exact bind_eq_some (holds.required (by simp) (h.text id)) rfl
  | clearPage id =>
    refine h.members (by rfl) (by decide) fun fields holds => ?_
    exact bind_eq_some (holds.required (by simp) (h.text id)) rfl
  | replaceLayout id nodes =>
    refine h.members (by rfl) (by decide) fun fields holds => ?_
    refine bind_eq_some (holds.required (by simp) (h.text id)) ?_
    exact bind_eq_some (holds.required (by simp) (Node.reads_forestJson h storable)) rfl
  | addPage p =>
    refine h.members (by rfl) (by decide) fun fields holds => ?_
    exact bind_eq_some (holds.required (by simp) (p.reads_toJson h)) rfl
  | updatePage id p =>
    refine h.members (by rfl) (by decide) fun fields holds => ?_
    refine bind_eq_some (holds.required (by simp) (h.text id)) ?_
    exact bind_eq_some (holds.required (by simp) (p.reads_toJson h)) rfl
  | deletePage id =>
    refine h.members (by rfl) (by decide) fun fields holds => ?_
    exact bind_eq_some (holds.required (by simp) (h.text id)) rfl

/-- A mutation that can be written is read back out of a text. -/
theorem reads_toJson (h : Arranges f) {m : Mutation} (storable : m.Storable) :
    Reads f read m.toJson m := by
  unfold Reads toJson
  rw [h.single]
  exact reads_dataJson h storable

/-- The data of a mutation is an object. -/
theorem exists_dataJson_eq_object (h : Arranges f) (m : Mutation) :
    ∃ members, f m.dataJson = .object members := by
  have once : ∃ members, m.dataJson = .object members ∧ (members.map (·.1)).Nodup := by
    cases m <;> exact ⟨_, rfl, by simp⟩
  obtain ⟨members, written, once⟩ := once
  obtain ⟨arranged, result, -⟩ := h.object members once
  exact ⟨arranged, written ▸ result⟩

/-- And out of a value. -/
theorem ofJson?_toJson (h : Arranges f) {m : Mutation} (storable : m.Storable) :
    ofJson? (f m.toJson) = some m := by
  have reads : readData m.name (f m.dataJson).toSource = some m := reads_dataJson h storable
  obtain ⟨members, data⟩ := exists_dataJson_eq_object h m
  unfold toJson
  rw [h.single, data]
  rw [data] at reads
  exact reads

end PageStudio.Mutation
