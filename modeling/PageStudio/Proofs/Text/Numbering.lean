import Mathlib.Data.List.Nodup
import Mathlib.Data.List.Perm.Subperm
import Mathlib.Data.Nat.Find

/-!
# Numbers whose names are free

A search goes over numbered names up to the first one that is not taken. Different numbers having
different names, it ends behind as many tries as there are names taken, however many more it has.

## Main statements

* `exists_isLeastFree`: of the names of more numbers than there are names taken, one is free.
* `isLeastFree_firstFree`: the search finds the least number whose name is free.
-/

namespace PageStudio.Text

/-- The first number from `n` on whose name is not taken, within `tries` numbers. -/
def firstFree (name : Nat → String) (taken : List String) : (tries n : Nat) → Nat
  | 0, n => n
  | tries + 1, n => if taken.contains (name n) then firstFree name taken tries (n + 1) else n

/-- A number is the least one from `n` on whose name is not taken. -/
structure IsLeastFree (name : Nat → String) (taken : List String) (n k : Nat) : Prop where
  le : n ≤ k
  free : name k ∉ taken
  passed : ∀ j, n ≤ j → j < k → name j ∈ taken

variable {name : Nat → String} {taken : List String} {n : Nat}

/-- Numbers from `n` on have different names. -/
def Distinguishes (name : Nat → String) (n : Nat) : Prop :=
  ∀ i j, n ≤ i → n ≤ j → name i = name j → i = j

/-- Not all names of so many numbers are taken. -/
theorem exists_free (apart : Distinguishes name n) (taken : List String) :
    ∃ k, n ≤ k ∧ k ≤ n + taken.length ∧ name k ∉ taken := by
  by_contra none
  let numbers := List.range' n (taken.length + 1)
  have bounds : ∀ k ∈ numbers, n ≤ k ∧ k ≤ n + taken.length := fun k mem => by
    have range := List.mem_range'_1.mp mem
    omega
  have all : numbers.map name ⊆ taken := by
    intro s mem
    obtain ⟨k, range, rfl⟩ := List.mem_map.mp mem
    obtain ⟨least, most⟩ := bounds k range
    exact not_not.mp fun free => none ⟨k, least, most, free⟩
  have distinct : (numbers.map name).Nodup :=
    List.Nodup.map_on (fun i hi j hj => apart i j (bounds i hi).1 (bounds j hj).1)
      List.nodup_range'
  have few := (distinct.subperm all).length_le
  rw [List.length_map, List.length_range'] at few
  omega

/-- The least number whose name is free is at most as many numbers away as there are names taken.
-/
theorem exists_isLeastFree (apart : Distinguishes name n) (taken : List String) :
    ∃ k, IsLeastFree name taken n k ∧ k ≤ n + taken.length := by
  obtain ⟨m, from_n, most, free⟩ := exists_free apart taken
  have some_free : ∃ k, n ≤ k ∧ name k ∉ taken := ⟨m, from_n, free⟩
  obtain ⟨le, first⟩ := Nat.find_spec some_free
  refine ⟨Nat.find some_free, ⟨le, first, fun j from_n below => ?_⟩, ?_⟩
  · exact not_not.mp fun other => Nat.find_min some_free below ⟨from_n, other⟩
  · exact Nat.le_trans (Nat.find_min' some_free ⟨from_n, free⟩) most

/-- A search with enough tries finds the least number whose name is free. -/
theorem IsLeastFree.firstFree_eq {k : Nat} (least : IsLeastFree name taken n k) {tries : Nat}
    (enough : k ≤ n + tries) : firstFree name taken tries n = k := by
  induction tries generalizing n with
  | zero => exact Nat.le_antisymm least.le enough
  | succ tries ih =>
    unfold firstFree
    rcases Nat.eq_or_lt_of_le least.le with rfl | more
    · exact if_neg fun mem => least.free (List.contains_iff_mem.mp mem)
    · rw [if_pos (List.contains_iff_mem.mpr (least.passed n (Nat.le_refl n) more))]
      exact ih ⟨more, least.free, fun j from_n => least.passed j (Nat.le_of_succ_le from_n)⟩
        (by omega)

/-- As many tries are enough as there are names taken. -/
theorem isLeastFree_firstFree (apart : Distinguishes name n) {tries : Nat}
    (enough : taken.length ≤ tries) :
    IsLeastFree name taken n (firstFree name taken tries n) ∧
      firstFree name taken tries n ≤ n + taken.length := by
  obtain ⟨k, least, most⟩ := exists_isLeastFree apart taken
  have found : firstFree name taken tries n = k := least.firstFree_eq (by omega)
  rw [found]
  exact ⟨least, most⟩

end PageStudio.Text
