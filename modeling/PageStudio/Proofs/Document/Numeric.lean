import PageStudio.Proofs.Document.Writable

/-!
# Documents that are the same as themselves

Two documents are compared value by value, and among the values are floating-point numbers, of which
NaN is not the same as itself. A document is the same as itself exactly where no progress in it is
NaN (`Document.beq_self_iff`).
-/

namespace PageStudio

/-- The progress of an element, where it has one, is a number. -/
def Element.Numeric (e : Element) : Prop := ∀ x, e.content.progress = some x → x.isNaN = false

theorem Element.aboutContent_numeric : AboutContent Numeric := by
  intro e e' content _ numeric x progress
  exact numeric x (content ▸ progress)

/-- Of all numbers in floating point, NaN is the one that is not the same as itself. -/
theorem beq_self_eq_not_isNaN (x : Float) : (x == x) = !x.isNaN := by
  show (x.toModel.unpack.compare x.toModel.unpack == some .eq) = !x.toModel.unpack.isNaN
  cases x.toModel.unpack with
  | notANumber => rfl
  | zero sign => cases sign <;> rfl
  | infinity sign => cases sign <;> rfl
  | finite sign mantissa exponent =>
    have order : (compare exponent exponent).then (compare mantissa mantissa) = .eq := by simp
    cases sign with
    | positive => exact congrArg (some · == some .eq) order
    | negative => exact congrArg (some ·.swap == some .eq) order

theorem Content.same_self_iff {c : Content} :
    c.same c = true ↔ ∀ x, c.progress = some x → x.isNaN = false := by
  rw [same, decide_eq_true rfl, Bool.and_true]
  cases c.progress with
  | none => exact iff_of_true rfl nofun
  | some x =>
    show (x == x) = true ↔ ∀ y, some x = some y → y.isNaN = false
    rw [beq_self_eq_not_isNaN, Bool.not_eq_true']
    simp only [Option.some.injEq, forall_eq']

theorem Element.same_self_iff {e : Element} : e.same e = true ↔ e.Numeric := by
  have styles : (e.styles == e.styles) = true :=
    Dict.beq_self_iff.mpr fun _ _ => beq_self_eq_true _
  have events : (e.events == e.events) = true :=
    Dict.beq_self_iff.mpr fun _ _ => beq_self_eq_true _
  simp only [same, beq_self_eq_true, styles, events, Bool.and_true, Bool.true_and,
    Content.same_self_iff, Numeric]

namespace Node

mutual
theorem same_self_iff : {n : Node} → n.same n = true ↔ n.All Element.Numeric
  | .mk e children => by
    rw [same, Bool.and_eq_true, Element.same_self_iff, sameForest_self_iff, all_mk_iff]

theorem sameForest_self_iff : {forest : List Node} →
    sameForest forest forest = true ↔ ForestAll Element.Numeric forest
  | [] => iff_of_true rfl forestAll_nil
  | n :: rest => by
    rw [sameForest, Bool.and_eq_true, same_self_iff, sameForest_self_iff, forestAll_cons_iff]
end

end Node

namespace Document

/-- A document is the same as itself exactly where each progress in it is a number. -/
theorem beq_self_iff {d : Document} : (d == d) = true ↔ d.All Element.Numeric := by
  show d.same d = true ↔ _
  rw [same, beq_self_eq_true d.pages, beq_self_eq_true d.activePageId, Bool.true_and, Bool.and_true,
    Dict.beq_self_iff, all_iff]
  refine forall₂_congr fun entry _ => ?_
  rw [← Node.sameForest_eq_beq, Node.sameForest_self_iff]

end Document

end PageStudio
