import Mathlib.Data.List.Induction
import Mathlib.Data.List.Nodup
import PageStudio.Document.Basic

/-!
# The first repetition in a row

Page ids and node ids are looked through for the first one that stands in the row already. There is
one exactly where not all are different (`exists_firstRepeated_iff`), and it is the one that the
search gives (`firstRepeated?_eq_some_iff`).
-/

namespace PageStudio.Document

/-- A text is the first of a row that stands there a second time: those before it are all different,
and it is one of them. -/
def FirstRepeated (texts : List String) (s : String) : Prop :=
  ∃ front back, texts = front ++ s :: back ∧ front.Nodup ∧ s ∈ front

/-- There is a first repetition exactly where not all texts are different. -/
theorem exists_firstRepeated_iff {texts : List String} :
    (∃ s, FirstRepeated texts s) ↔ ¬ texts.Nodup := by
  constructor
  · rintro ⟨s, front, back, rfl, -, mem⟩ nodup
    exact (List.nodup_append.mp nodup).2.2 s mem s List.mem_cons_self rfl
  · intro repeats
    -- From the back: the last text is the first repetition where there is none before it.
    induction texts using List.reverseRecOn with
    | nil => exact absurd List.nodup_nil repeats
    | append_singleton texts t ih =>
      by_cases nodup : texts.Nodup
      · have mem : t ∈ texts := by
          by_contra fresh
          rw [← List.concat_eq_append, List.nodup_concat] at repeats
          exact repeats ⟨fresh, nodup⟩
        exact ⟨t, texts, [], rfl, nodup, mem⟩
      · obtain ⟨s, front, back, rfl, before, mem⟩ := ih nodup
        exact ⟨s, front, back ++ [t], List.append_assoc .., before, mem⟩

/-- Texts that are new and different are passed over. -/
theorem firstRepeated?_append {seen front rest : List String} (nodup : front.Nodup)
    (fresh : ∀ s ∈ front, s ∉ seen) :
    firstRepeated? seen (front ++ rest) = firstRepeated? (front.reverse ++ seen) rest := by
  induction front generalizing seen with
  | nil => rfl
  | cons s front ih =>
    obtain ⟨once, nodup⟩ := List.nodup_cons.mp nodup
    have new : ¬ seen.contains s = true := fun old =>
      fresh s List.mem_cons_self (List.contains_iff_mem.mp old)
    have later : ∀ t ∈ front, t ∉ s :: seen := by
      intro t mem old
      rcases List.mem_cons.mp old with rfl | old
      · exact once mem
      · exact fresh t (List.mem_cons_of_mem _ mem) old
    rw [List.cons_append, firstRepeated?, if_neg new, ih nodup later, List.reverse_cons,
      List.append_assoc, List.singleton_append]

theorem firstRepeated?_of_nodup {texts : List String} (nodup : texts.Nodup) :
    firstRepeated? [] texts = none := by
  have passed : firstRepeated? [] (texts ++ []) = none :=
    firstRepeated?_append nodup fun _ _ => List.not_mem_nil
  rwa [List.append_nil] at passed

theorem FirstRepeated.firstRepeated?_eq {texts : List String} {s : String}
    (first : FirstRepeated texts s) : firstRepeated? [] texts = some s := by
  obtain ⟨front, back, rfl, nodup, mem⟩ := first
  have old : (front.reverse ++ []).contains s = true := by
    rw [List.append_nil, List.contains_iff_mem, List.mem_reverse]
    exact mem
  rw [firstRepeated?_append nodup fun _ _ => List.not_mem_nil, firstRepeated?, if_pos old]

theorem firstRepeated?_eq_none_iff {texts : List String} :
    firstRepeated? [] texts = none ↔ texts.Nodup := by
  refine ⟨fun passed => ?_, firstRepeated?_of_nodup⟩
  by_contra repeats
  obtain ⟨s, first⟩ := exists_firstRepeated_iff.mpr repeats
  cases passed.symm.trans first.firstRepeated?_eq

theorem firstRepeated?_eq_some_iff {texts : List String} {s : String} :
    firstRepeated? [] texts = some s ↔ FirstRepeated texts s := by
  refine ⟨fun found => ?_, FirstRepeated.firstRepeated?_eq⟩
  have repeats : ¬ texts.Nodup := by
    intro nodup
    cases found.symm.trans (firstRepeated?_of_nodup nodup)
  obtain ⟨t, first⟩ := exists_firstRepeated_iff.mpr repeats
  cases found.symm.trans first.firstRepeated?_eq
  exact first

end PageStudio.Document
