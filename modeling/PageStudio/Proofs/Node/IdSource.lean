import Mathlib.Data.List.Nodup
import PageStudio.Node.IdSource
import PageStudio.Proofs.Text.Piece

/-!
# New ids are new

The count in an id is found again, whatever the id starts with and whatever the seed is
(`countIn?_idAt`). So an id whose count a source has passed is none that it still hands out. Ids
without the mark of the source, ids that it has handed out and ids that were reserved are passed,
and stay so.
-/

namespace PageStudio.IdSource

variable {ids ids' ids'' : IdSource} {id front : String} {count : Nat}

/-! ## The count in an id -/

theorem toList_mark (ids : IdSource) : ids.mark.toList = ('-' :: ids.seed.toList) ++ ['-'] := by
  unfold mark
  rw [String.toList_append, String.toList_append]
  rfl

theorem toList_idAt (ids : IdSource) (front : String) (count : Nat) :
    (ids.idAt front count).toList =
      front.toList ++ (ids.mark.toList ++ Nat.toDigits 10 count) := by
  unfold idAt mark
  simp only [String.toList_append, String.toList_ofList, List.append_assoc]

/-- The digits of the count are what follows the last mark. -/
theorem afterLast?_idAt (ids : IdSource) (front : String) (count : Nat) :
    Text.afterLast? ids.mark.toList (ids.idAt front count).toList =
      some (Nat.toDigits 10 count) := by
  rw [toList_idAt, toList_mark]
  exact Text.afterLast?_append (Decimal.not_mem_toDigits rfl count)

/-- The count of an id is found in it, where it has 64 bits. -/
theorem countIn?_idAt (ids : IdSource) (front : String) (count : Nat) :
    ids.countIn? (ids.idAt front count) = if count < UInt64.size then some count else none := by
  unfold countIn?
  rw [afterLast?_idAt, Option.bind_some, Decimal.readNatural?_toDigits]

/-- Ids with different counts are different. -/
theorem idAt_inj {front' : String} {count' : Nat}
    (same : ids.idAt front count = ids.idAt front' count') : count = count' := by
  have digits := afterLast?_idAt ids front count
  rw [same, afterLast?_idAt] at digits
  exact Decimal.toDigits_inj (Option.some.inj digits).symm

/-! ## Sources that come from each other -/

/-- The second source is the first one some ids later. -/
structure Advances (ids ids' : IdSource) : Prop where
  seed : ids'.seed = ids.seed
  count : ids.count ≤ ids'.count

namespace Advances

theorem refl (ids : IdSource) : ids.Advances ids := ⟨rfl, Nat.le_refl _⟩

theorem trans (h : ids.Advances ids') (h' : ids'.Advances ids'') : ids.Advances ids'' :=
  ⟨h'.seed.trans h.seed, Nat.le_trans h.count h'.count⟩

theorem idAt (h : ids.Advances ids') (front : String) (count : Nat) :
    ids'.idAt front count = ids.idAt front count := by
  unfold IdSource.idAt
  rw [h.seed]

theorem countIn? (h : ids.Advances ids') (id : String) : ids'.countIn? id = ids.countIn? id := by
  unfold IdSource.countIn? mark
  rw [h.seed]

end Advances

theorem advances_next (ids : IdSource) (front : String) : ids.Advances (ids.next front).2 :=
  ⟨rfl, Nat.le_succ _⟩

/-! ## Ids that do not come again -/

/-- An id was handed out by a source or could have been: its count is none to come. -/
def HasIssued (ids : IdSource) (id : String) : Prop :=
  ∃ front count, count ≤ ids.count ∧ id = ids.idAt front count

/-- An id does not carry the mark of a source. -/
def Unmarked (ids : IdSource) (id : String) : Prop :=
  Text.occursIn ids.mark.toList id.toList = false

instance (ids : IdSource) (id : String) : Decidable (ids.Unmarked id) :=
  inferInstanceAs (Decidable (_ = _))

/-- The count in an id, if there is one, is behind the source. -/
def Passed (ids : IdSource) (id : String) : Prop :=
  ∀ count, ids.countIn? id = some count → count ≤ ids.count

theorem Advances.unmarked (h : ids.Advances ids') (unmarked : ids.Unmarked id) :
    ids'.Unmarked id := by
  unfold Unmarked mark at unmarked ⊢
  rw [h.seed]
  exact unmarked

theorem Passed.mono (passed : ids.Passed id) (h : ids.Advances ids') : ids'.Passed id := by
  intro count found
  rw [h.countIn?] at found
  exact Nat.le_trans (passed count found) h.count

/-- The ids that a source has handed out are passed. -/
theorem HasIssued.passed (issued : ids.HasIssued id) : ids.Passed id := by
  obtain ⟨front, count, le, rfl⟩ := issued
  intro found_count found
  rw [countIn?_idAt] at found
  split at found
  next =>
    cases found
    exact le
  next => cases found

/-- An id without the mark holds no count. -/
theorem Unmarked.passed (unmarked : ids.Unmarked id) : ids.Passed id := by
  intro count found
  unfold countIn? at found
  rw [Text.afterLast?_eq_none unmarked] at found
  cases found

/-- A passed id is none of those to come, as long as their counts have 64 bits. -/
theorem Passed.ne_idAt (passed : ids.Passed id) (later : ids.count < count)
    (small : count < UInt64.size) : id ≠ ids.idAt front count := by
  rintro rfl
  have le := passed count (by rw [countIn?_idAt, if_pos small])
  omega

/-! ## Reserving -/

theorem advances_reserveOne (ids : IdSource) (id : String) : ids.Advances (ids.reserveOne id) := by
  unfold reserveOne
  split
  · exact ⟨rfl, Nat.le_max_left _ _⟩
  · exact .refl ids

/-- A source is behind the id that it reserves. -/
theorem passed_reserveOne (ids : IdSource) (id : String) : (ids.reserveOne id).Passed id := by
  intro count found
  rw [(advances_reserveOne ids id).countIn?] at found
  unfold reserveOne
  rw [found]
  exact Nat.le_max_right _ _

/-- Reserved ids move a source forward at most. -/
theorem advances_reserve (ids : IdSource) (used : List String) :
    ids.Advances (ids.reserve used) := by
  induction used generalizing ids with
  | nil => exact .refl ids
  | cons id used ih => exact (advances_reserveOne ids id).trans (ih _)

/-- A source is behind all ids that it reserves. -/
theorem passed_reserve {used : List String} (h : id ∈ used) (ids : IdSource) :
    (ids.reserve used).Passed id := by
  induction used generalizing ids with
  | nil => cases h
  | cons first used ih =>
    rcases List.mem_cons.mp h with rfl | h
    · exact (passed_reserveOne ids id).mono (advances_reserve _ used)
    · exact ih h _

/-! ## Ids one after another -/

/-- A source hands out ids one after another and is then another one. -/
inductive Issues : IdSource → List String → IdSource → Prop
  | nil (ids : IdSource) : Issues ids [] ids
  | cons {ids ids' : IdSource} {later : List String} (front : String)
      (rest : Issues (ids.next front).2 later ids') : Issues ids ((ids.next front).1 :: later) ids'

namespace Issues

variable {l l' : List String}

theorem single (ids : IdSource) (front : String) :
    ids.Issues [(ids.next front).1] (ids.next front).2 := .cons front (.nil _)

theorem append (h : ids.Issues l ids') (h' : ids'.Issues l' ids'') :
    ids.Issues (l ++ l') ids'' := by
  induction h with
  | nil => exact h'
  | cons front _ ih => exact .cons front (ih h')

theorem advances (h : ids.Issues l ids') : ids.Advances ids' := by
  induction h with
  | nil ids => exact .refl ids
  | cons front _ ih => exact (advances_next _ front).trans ih

/-- The ids that are handed out have the counts in between. -/
theorem exists_idAt (h : ids.Issues l ids') (mem : id ∈ l) :
    ∃ front count, ids.count < count ∧ count ≤ ids'.count ∧ id = ids.idAt front count := by
  induction h with
  | nil => cases mem
  | @cons ids ids' later front rest ih =>
    rcases List.mem_cons.mp mem with rfl | mem
    · exact ⟨front, ids.count + 1, Nat.lt_succ_self _, rest.advances.count, rfl⟩
    · obtain ⟨front', count, after, before, same⟩ := ih mem
      exact ⟨front', count, Nat.lt_of_succ_lt after, before, same⟩

theorem hasIssued (h : ids.Issues l ids') (mem : id ∈ l) : ids'.HasIssued id := by
  obtain ⟨front, count, -, before, rfl⟩ := h.exists_idAt mem
  exact ⟨front, count, before, (h.advances.idAt front count).symm⟩

/-- None of them was passed before, as long as the counts have 64 bits. -/
theorem not_passed (h : ids.Issues l ids') (small : ids'.count < UInt64.size) (mem : id ∈ l) :
    ¬ ids.Passed id := by
  obtain ⟨front, count, after, before, same⟩ := h.exists_idAt mem
  exact fun passed => passed.ne_idAt after (Nat.lt_of_le_of_lt before small) same

/-- No id is handed out twice. -/
theorem nodup (h : ids.Issues l ids') : l.Nodup := by
  induction h with
  | nil => exact List.nodup_nil
  | @cons ids ids' later front rest ih =>
    refine List.nodup_cons.mpr ⟨fun again => ?_, ih⟩
    -- An id that comes later has a greater count than the first one.
    obtain ⟨front', count, after, -, same⟩ := rest.exists_idAt again
    have counts : ids.count + 1 = count := idAt_inj same
    have after : ids.count + 1 < count := after
    omega

end Issues

end PageStudio.IdSource
