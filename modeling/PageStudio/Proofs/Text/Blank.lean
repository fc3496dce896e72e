import Mathlib.Data.List.Infix
import Mathlib.Data.List.TakeWhile
import PageStudio.Text.Blank

/-!
# Texts without the blanks around them

What `trim` takes off a text and what it leaves there. A text is the trimmed one with blanks around
it (`exists_around_trim`), and such blanks change nothing (`trim_append`), so that a second
trimming does not either (`trim_trim`).
-/

namespace PageStudio.Text

variable {before after s : List Char}

/-! ## What stays -/

/-- There are no blanks where a check finds none. -/
theorem isBlank_of_all (visible : (s.all fun c => !isBlank c) = true) :
    ∀ c ∈ s, isBlank c = false := fun c mem =>
  (Bool.not_eq_true' _).mp (List.all_eq_true.mp visible c mem)

/-- What is not blank is not taken off the ends of a text. -/
theorem mem_trim {c : Char} (mem : c ∈ s) (visible : isBlank c = false) : c ∈ trim s := by
  have kept : ∀ {t : List Char}, c ∈ t → c ∈ t.dropWhile isBlank := by
    intro t inside
    rw [← List.takeWhile_append_dropWhile (p := isBlank) (l := t), List.mem_append] at inside
    rcases inside with front | back
    · have blank := List.mem_takeWhile_imp front
      rw [visible] at blank
      cases blank
    · exact back
  exact List.mem_reverse.mpr (kept (List.mem_reverse.mpr (kept mem)))

theorem dropWhile_isBlank (visible : ∀ c ∈ s, isBlank c = false) : s.dropWhile isBlank = s := by
  cases s with
  | nil => rfl
  | cons c rest =>
    have here := visible c List.mem_cons_self
    rw [List.dropWhile_cons, if_neg (Bool.eq_false_iff.mp here)]

/-- A text without blanks has none around it. -/
theorem trim_eq_self (visible : ∀ c ∈ s, isBlank c = false) : trim s = s := by
  rw [trim, trimFront, dropWhile_isBlank visible, trimBack,
    dropWhile_isBlank fun c mem => visible c (List.mem_reverse.mp mem), List.reverse_reverse]

/-- Nothing is taken off a text that has no blank at either end. -/
theorem trim_between {first last : Char} (begins : isBlank first = false)
    (ends : isBlank last = false) : trim (first :: (s ++ [last])) = first :: (s ++ [last]) := by
  have front : trimFront (first :: (s ++ [last])) = first :: (s ++ [last]) := by
    rw [trimFront, List.dropWhile_cons, if_neg (Bool.eq_false_iff.mp begins)]
  have mirrored : (first :: (s ++ [last])).reverse = last :: (s.reverse ++ [first]) := by
    rw [List.reverse_cons, List.reverse_append]
    rfl
  rw [trim, front, trimBack, mirrored, List.dropWhile_cons, if_neg (Bool.eq_false_iff.mp ends),
    ← mirrored, List.reverse_reverse]

/-! ## What is taken off -/

/-- A text is the one without the blanks at either end, with blanks around it. -/
theorem exists_around_trim (s : List Char) :
    ∃ before after, (∀ c ∈ before ++ after, isBlank c = true) ∧
      s = before ++ trim s ++ after := by
  have blank : ∀ t : List Char, ∀ c ∈ t.takeWhile isBlank, isBlank c = true :=
    fun _ _ => List.mem_takeWhile_imp
  let front := (trimFront s).reverse
  refine ⟨s.takeWhile isBlank, (front.takeWhile isBlank).reverse, ?_, ?_⟩
  · refine List.forall_mem_append.mpr ⟨blank s, fun c mem => ?_⟩
    exact blank front c (List.mem_reverse.mp mem)
  · have back : trim s ++ (front.takeWhile isBlank).reverse = trimFront s := by
      rw [trim, trimBack, ← List.reverse_append, List.takeWhile_append_dropWhile,
        List.reverse_reverse]
    rw [List.append_assoc, back]
    exact List.takeWhile_append_dropWhile.symm

/-- Blanks around a text are taken off with those that it has itself. -/
theorem trim_append (blank : ∀ c ∈ before ++ after, isBlank c = true) :
    trim (before ++ s ++ after) = trim s := by
  obtain ⟨front, back⟩ := List.forall_mem_append.mp blank
  have front_off : trimFront (before ++ s ++ after) = trimFront (s ++ after) := by
    rw [List.append_assoc, trimFront, List.dropWhile_append_of_pos front]
    rfl
  have back_off : ∀ t : List Char, trimBack (t ++ after) = trimBack t := by
    intro t
    rw [trimBack, List.reverse_append,
      List.dropWhile_append_of_pos fun c mem => back c (List.mem_reverse.mp mem)]
    rfl
  rw [trim, front_off, trimFront, List.dropWhile_append]
  split
  next all_blank =>
    -- The text is nothing but blanks, and so are the blanks behind it.
    have none_left : after.dropWhile isBlank = [] := List.dropWhile_eq_nil_iff.mpr back
    rw [none_left, trim, trimFront, List.isEmpty_iff.mp all_blank]
  next => exact back_off _

/-- There are no blanks left to take off. -/
theorem trim_trim (s : List Char) : trim (trim s) = trim s := by
  obtain ⟨before, after, blank, whole⟩ := exists_around_trim s
  calc trim (trim s) = trim (before ++ trim s ++ after) := (trim_append blank).symm
    _ = trim s := by rw [← whole]

end PageStudio.Text
