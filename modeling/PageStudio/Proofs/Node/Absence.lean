import PageStudio.Proofs.Node.Forest

/-!
# Ids that do not occur

Where no node of a forest has an id, none is found, changed or removed by it.
-/

namespace PageStudio

namespace Forest

variable {id : String} {forest : List Node}

/-- A patch for no node of the forest changes nothing. -/
theorem patch_of_absent (absent : id ∉ Node.forestIds forest) (p : NodePatch) :
    patch forest id p = forest := by
  rw [patch, update?_eq_none_iff.mpr absent, Option.getD_none]

/-- No node is found by an id that does not occur. -/
theorem locate?_eq_none (absent : id ∉ Node.forestIds forest) : locate? forest id = none := by
  have missing : ¬ (find? forest id).isSome = true := fun found =>
    absent (isSome_find?_iff.mp found)
  rw [find?, Option.isSome_map] at missing
  exact Option.not_isSome_iff_eq_none.mp missing

/-! ## Removing -/

theorem takeOut?_eq_none {row : List Node} (absent : id ∉ Node.forestIds row) :
    takeOut? id row = none := by
  induction row with
  | nil => rfl
  | cons n rest ih =>
    obtain ⟨e, children⟩ := n
    obtain ⟨here, there⟩ := Node.not_mem_forestIds_iff.mp absent
    have other : ¬ (Node.id (.mk e children) == id) = true :=
      (Node.not_mem_subtreeIds_iff.mp here).1
    rw [takeOut?, if_neg other, ih there, Option.map_none]

mutual
theorem removeInside?_eq_none : {n : Node} → id ∉ n.subtreeIds → removeInside? id n = none
  | .mk e children, absent => by
    have below := (Node.not_mem_subtreeIds_iff.mp absent).2
    simp only [removeInside?, takeOut?_eq_none below, removeBelow?_eq_none below, Option.map_none]

theorem removeBelow?_eq_none : {forest : List Node} → id ∉ Node.forestIds forest →
    removeBelow? id forest = none
  | [], _ => rfl
  | n :: rest, absent => by
    obtain ⟨here, there⟩ := Node.not_mem_forestIds_iff.mp absent
    simp only [removeBelow?, removeInside?_eq_none here, removeBelow?_eq_none there,
      Option.map_none]
end

/-- A removal of no node of the forest changes nothing. -/
theorem remove_of_absent (absent : id ∉ Node.forestIds forest) : remove forest id = forest := by
  simp only [remove, remove?, takeOut?_eq_none absent, removeBelow?_eq_none absent,
    Option.map_none, Option.getD_none]

end Forest

end PageStudio
