import Mathlib.Data.List.TakeWhile
import PageStudio.Proofs.Text.Blank
import PageStudio.Proofs.Text.Piece
import PageStudio.Style.Length

/-!
# Texts of lengths

A number in front of a unit is read as that number and that unit: no character of a unit can stand
in a number, and neither has blanks. Only such texts are read, and a length that is multiplied keeps
its unit.

## Main statements

* `Style.Length.ofText?_ofList`: a number and a unit, read.
* `Style.Length.ofText?_of_isPixels`: a whole number of pixels, read.
* `Style.Length.spells_of_ofText?`: what is spelled by a text that was read.
* `Style.Length.exists_ofText?_iff_spells`: which texts are read, and as what.
-/

namespace PageStudio.Style.Length

open Decimal

variable {c : Char} {number unit : List Char}

/-! ## Characters -/

theorem isNumeral_iff : isNumeral c = true ↔ 48 ≤ c.toNat ∧ c.toNat ≤ 57 ∨ c.toNat = 46 := by
  simp only [isNumeral, isDigit, Bool.or_eq_true, Bool.and_eq_true, decide_eq_true_eq,
    Char.le_def, UInt32.le_iff_toNat_le, ← Char.toNat_inj]
  exact Iff.rfl

theorem isNumeral_of_isDigit (digit : isDigit c = true) : isNumeral c = true :=
  Bool.or_eq_true_iff.mpr (.inl digit)

theorem isUnit_iff : isUnit c = true ↔
    65 ≤ c.toNat ∧ c.toNat ≤ 90 ∨ 97 ≤ c.toNat ∧ c.toNat ≤ 122 ∨ c.toNat = 37 := by
  show ((decide (c.val ≥ 'A'.val ∧ c.val ≤ 'Z'.val) ||
    (decide (c.val ≥ 'a'.val) && decide (c.val ≤ 'z'.val))) || decide (c = '%')) = true ↔ _
  simp only [Bool.or_eq_true, Bool.and_eq_true, decide_eq_true_eq, UInt32.le_iff_toNat_le, GE.ge,
    ← Char.toNat_inj, or_assoc]
  exact Iff.rfl

/-- A character of ASCII is not blank where it is neither a control character nor a space. -/
theorem isBlank_of_graphic (above : 32 < c.toNat) (below : c.toNat < 127) :
    Text.isBlank c = false := by
  simp only [Text.isBlank, Text.inRanges, Text.blankRanges, List.any_cons, List.any_nil,
    Bool.or_false, Bool.or_eq_false_iff, Bool.and_eq_false_iff, decide_eq_false_iff_not]
  omega

theorem isNumeral_of_isUnit (inUnit : isUnit c = true) : isNumeral c = false := by
  rw [isUnit_iff] at inUnit
  rw [Bool.eq_false_iff, Ne, isNumeral_iff]
  omega

theorem isBlank_of_isNumeral (numeral : isNumeral c = true) : Text.isBlank c = false := by
  rw [isNumeral_iff] at numeral
  exact isBlank_of_graphic (by omega) (by omega)

theorem isBlank_of_isUnit (inUnit : isUnit c = true) : Text.isBlank c = false := by
  rw [isUnit_iff] at inUnit
  exact isBlank_of_graphic (by omega) (by omega)

/-! ## Numbers in front of units -/

/-- Neither in a number behind its sign nor in a unit there is a sign. -/
theorem sign_eq_false (plain : isNumeral c = true ∨ isUnit c = true) :
    (decide (c = '-') || decide (c = '+')) = false := by
  rw [Bool.or_eq_false_iff, decide_eq_false_iff_not, decide_eq_false_iff_not]
  constructor <;> rintro rfl <;> exact absurd plain (by decide)

theorem takeWhile_isNumeral_unit (units : ∀ c ∈ unit, isUnit c = true) :
    unit.takeWhile isNumeral = [] ∧ unit.dropWhile isNumeral = unit := by
  cases unit with
  | nil => exact ⟨rfl, rfl⟩
  | cons c rest =>
    have other := Bool.eq_false_iff.mp (isNumeral_of_isUnit (units c List.mem_cons_self))
    exact ⟨List.takeWhile_cons_of_neg other, List.dropWhile_cons_of_neg other⟩

/-- A number ends where its unit begins. -/
theorem cut_append (numeral : ∀ c ∈ number, isNumeral c = true)
    (units : ∀ c ∈ unit, isUnit c = true) : cut (number ++ unit) = (number, unit) := by
  obtain ⟨none, all⟩ := takeWhile_isNumeral_unit units
  have front : (number ++ unit).takeWhile isNumeral = number := by
    rw [List.takeWhile_append_of_pos numeral, none, List.append_nil]
  have back : (number ++ unit).dropWhile isNumeral = unit := by
    rw [List.dropWhile_append_of_pos numeral, all]
  have plain : ∀ c ∈ number ++ unit, (decide (c = '-') || decide (c = '+')) = false := fun c mem =>
    sign_eq_false ((List.mem_append.mp mem).imp (numeral c) (units c))
  revert front back plain
  generalize number ++ unit = s
  intro front back plain
  cases s with
  | nil => exact Prod.ext front back
  | cons c rest =>
    have unsigned := Bool.eq_false_iff.mp (plain c List.mem_cons_self)
    rw [cut, if_neg unsigned, front, back]

/-- A number and a unit are read as such. -/
theorem ofText?_ofList (numeral : ∀ c ∈ number, isNumeral c = true)
    (units : ∀ c ∈ unit, isUnit c = true) :
    ofText? (String.ofList (number ++ unit)) =
      (readSigned? number).map fun x => ⟨x, String.ofList unit⟩ := by
  have visible : ∀ c ∈ number ++ unit, Text.isBlank c = false := fun c mem =>
    (List.mem_append.mp mem).elim (fun mem => isBlank_of_isNumeral (numeral c mem))
      fun mem => isBlank_of_isUnit (units c mem)
  unfold ofText?
  rw [String.toList_ofList, Text.trim_eq_self visible, cut_append numeral units]
  exact if_pos (List.all_eq_true.mpr units)

/-! ## Whole numbers -/

theorem readMagnitude?_digits (some_digit : number ≠ []) (digits : ∀ c ∈ number, isDigit c = true) :
    readMagnitude? number = some (Float.ofNat (natOfDigits number)) := by
  have whole : number.takeWhile isDigit = number := List.takeWhile_eq_self_iff.mpr digits
  have nothing : number.dropWhile isDigit = [] := List.dropWhile_eq_nil_iff.mpr digits
  unfold readMagnitude?
  rw [nothing, whole]
  exact if_neg fun empty => some_digit (List.isEmpty_iff.mp empty)

/-- Without a sign in front, all of a text is its magnitude. -/
theorem readSigned?_of_isNumeral (numeral : ∀ c ∈ number, isNumeral c = true) :
    readSigned? number = readMagnitude? number := by
  unfold readSigned?
  split
  next => exact absurd (numeral _ List.mem_cons_self) (by decide)
  next => exact absurd (numeral _ List.mem_cons_self) (by decide)
  next => rfl

theorem readSigned?_digits (some_digit : number ≠ []) (digits : ∀ c ∈ number, isDigit c = true) :
    readSigned? number = some (Float.ofNat (natOfDigits number)) := by
  have numeral : ∀ c ∈ number, isNumeral c = true := fun c mem =>
    isNumeral_of_isDigit (digits c mem)
  rw [readSigned?_of_isNumeral numeral, readMagnitude?_digits some_digit digits]

/-- A text that says a whole number of pixels in digits, where zeros may stand in front. -/
def IsPixels (s : String) (n : Nat) : Prop :=
  ∃ digits : List Char, digits ≠ [] ∧ (∀ c ∈ digits, isDigit c = true) ∧ natOfDigits digits = n ∧
    s = String.ofList (digits ++ ['p', 'x'])

theorem isPixels_toDigits (n : Nat) : IsPixels (String.ofList (Nat.toDigits 10 n) ++ "px") n :=
  ⟨_, Nat.toDigits_ne_nil, fun _ => Nat.isDigit_of_mem_toDigits (by decide) (by decide),
    natOfDigits_toDigits n, String.ofList_append.symm⟩

/-- A text says one number of pixels at most. -/
theorem IsPixels.unique {s : String} {m n : Nat} (first : IsPixels s m) (second : IsPixels s n) :
    m = n := by
  obtain ⟨digits, -, -, rfl, rfl⟩ := first
  obtain ⟨digits', -, -, rfl, same⟩ := second
  rw [List.append_cancel_right (String.ofList_injective same)]

/-- A whole number of pixels is read as such. -/
theorem ofText?_of_isPixels {s : String} {n : Nat} (pixels : IsPixels s n) :
    ofText? s = some ⟨Float.ofNat n, "px"⟩ := by
  obtain ⟨digits, some_digit, decimal, rfl, rfl⟩ := pixels
  have numeral : ∀ c ∈ digits, isNumeral c = true := fun c mem =>
    isNumeral_of_isDigit (decimal c mem)
  have units : ∀ c ∈ ['p', 'x'], isUnit c = true := List.all_eq_true.mp (by decide)
  rw [ofText?_ofList numeral units, readSigned?_digits some_digit decimal, Option.map_some]

/-! ## What was read -/

/-- Digits with at most one point among them and at least one digit. -/
inductive IsMagnitude : List Char → Prop
  | whole {digits : List Char} (some_digit : digits ≠ [])
    (decimal : ∀ c ∈ digits, isDigit c = true) : IsMagnitude digits
  | pointed {whole part : List Char} (some_digit : whole ++ part ≠ [])
    (decimal : ∀ c ∈ whole ++ part, isDigit c = true) : IsMagnitude (whole ++ '.' :: part)

/-- A magnitude, with or without a sign in front. -/
def IsNumber (s : List Char) : Prop :=
  ∃ sign magnitude, sign ∈ [[], ['-'], ['+']] ∧ IsMagnitude magnitude ∧ s = sign ++ magnitude

/-- A text spells a number and the unit right behind it. Blanks around them do not count. -/
structure Spells (s : String) (number unit : List Char) : Prop where
  numeric : IsNumber number
  units : ∀ c ∈ unit, isUnit c = true
  around : ∃ before after, (∀ c ∈ before ++ after, Text.isBlank c = true) ∧
    s.toList = before ++ (number ++ unit) ++ after

theorem isMagnitude_of_readMagnitude? {s : List Char} {x : Float}
    (read : readMagnitude? s = some x) : IsMagnitude s := by
  have cut : s.takeWhile isDigit ++ s.dropWhile isDigit = s := List.takeWhile_append_dropWhile
  have front : ∀ c ∈ s.takeWhile isDigit, isDigit c = true := fun _ => List.mem_takeWhile_imp
  unfold readMagnitude? at read
  simp only at read
  split at read
  next nothing =>
    rw [nothing, List.append_nil] at cut
    rw [cut] at read front
    split at read
    next => cases read
    next other => exact .whole (fun empty => other (List.isEmpty_iff.mpr empty)) front
  next part point =>
    rw [point] at cut
    split at read
    next shape =>
      obtain ⟨decimal, other⟩ := (Bool.and_eq_true _ _).mp shape
      rw [← cut]
      refine .pointed (fun empty => ?_) (List.forall_mem_append.mpr ⟨front, ?_⟩)
      · obtain ⟨no_whole, no_part⟩ := List.append_eq_nil_iff.mp empty
        simp [no_whole, no_part] at other
      · exact List.all_eq_true.mp decimal
    next => cases read
  next => cases read

theorem isNumber_of_readSigned? {s : List Char} {x : Float} (read : readSigned? s = some x) :
    IsNumber s := by
  unfold readSigned? at read
  split at read
  next rest =>
    obtain ⟨y, magnitude, -⟩ := Option.map_eq_some_iff.mp read
    exact ⟨['-'], rest, by simp, isMagnitude_of_readMagnitude? magnitude, rfl⟩
  next rest => exact ⟨['+'], rest, by simp, isMagnitude_of_readMagnitude? read, rfl⟩
  next => exact ⟨[], s, by simp, isMagnitude_of_readMagnitude? read, rfl⟩

theorem append_cut (s : List Char) : (cut s).1 ++ (cut s).2 = s := by
  unfold cut
  split
  next => rfl
  next c rest =>
    split
    next => exact congrArg (c :: ·) List.takeWhile_append_dropWhile
    next => exact List.takeWhile_append_dropWhile

/-- Only texts that say a length are read as one. -/
theorem spells_of_ofText? {s : String} {l : Length} (read : ofText? s = some l) :
    ∃ number, Spells s number l.unit.toList := by
  unfold ofText? at read
  have parts := append_cut (Text.trim s.toList)
  generalize cut (Text.trim s.toList) = c at read parts
  obtain ⟨number, unit⟩ := c
  simp only at read parts
  split at read
  next units =>
    obtain ⟨x, numeric, rfl⟩ := Option.map_eq_some_iff.mp read
    rw [String.toList_ofList]
    refine ⟨number, isNumber_of_readSigned? numeric, List.all_eq_true.mp units, ?_⟩
    rw [parts]
    exact Text.exists_around_trim s.toList
  next => cases read

/-! ## What is read -/

theorem IsMagnitude.numeral {s : List Char} (shape : IsMagnitude s) :
    ∀ c ∈ s, isNumeral c = true := by
  cases shape with
  | whole _ decimal => exact fun c mem => isNumeral_of_isDigit (decimal c mem)
  | pointed _ decimal =>
    obtain ⟨whole, part⟩ := List.forall_mem_append.mp decimal
    exact List.forall_mem_append.mpr ⟨fun c mem => isNumeral_of_isDigit (whole c mem),
      List.forall_mem_cons.mpr ⟨by decide, fun c mem => isNumeral_of_isDigit (part c mem)⟩⟩

/-- Every magnitude is read, with digits on one side of the point or on both. -/
theorem IsMagnitude.exists_readMagnitude? {s : List Char} (shape : IsMagnitude s) :
    ∃ x, readMagnitude? s = some x := by
  cases shape with
  | whole some_digit decimal => exact ⟨_, readMagnitude?_digits some_digit decimal⟩
  | @pointed whole part some_digit decimal =>
    obtain ⟨before, behind⟩ := List.forall_mem_append.mp decimal
    have point : ¬ isDigit '.' = true := by decide
    have front : (whole ++ '.' :: part).takeWhile isDigit = whole := by
      rw [List.takeWhile_append_of_pos before, List.takeWhile_cons_of_neg point, List.append_nil]
    have back : (whole ++ '.' :: part).dropWhile isDigit = '.' :: part := by
      rw [List.dropWhile_append_of_pos before, List.dropWhile_cons_of_neg point]
    have accepted : (part.all isDigit && !(whole.isEmpty && part.isEmpty)) = true := by
      rw [List.all_eq_true.mpr behind, Bool.true_and, Bool.not_eq_true', ← Bool.not_eq_true,
        Bool.and_eq_true, List.isEmpty_iff, List.isEmpty_iff, ← List.append_eq_nil_iff]
      exact some_digit
    unfold readMagnitude?
    rw [front, back]
    exact ⟨_, if_pos accepted⟩

theorem IsNumber.exists_readSigned? {s : List Char} (shape : IsNumber s) :
    ∃ x, readSigned? s = some x := by
  obtain ⟨sign, magnitude, signed, shape, rfl⟩ := shape
  obtain ⟨x, read⟩ := shape.exists_readMagnitude?
  simp only [List.mem_cons, List.not_mem_nil, or_false] at signed
  rcases signed with rfl | rfl | rfl
  · exact ⟨x, (readSigned?_of_isNumeral shape.numeral).trans read⟩
  · exact ⟨-x, congrArg (Option.map fun x => -x) read⟩
  · exact ⟨x, read⟩

/-- A number ends where its unit begins, also behind a sign. -/
theorem IsNumber.cut_append (shape : IsNumber number) (units : ∀ c ∈ unit, isUnit c = true) :
    cut (number ++ unit) = (number, unit) := by
  obtain ⟨sign, magnitude, signed, shape, rfl⟩ := shape
  obtain ⟨none, all⟩ := takeWhile_isNumeral_unit units
  have behind : ∀ c, (decide (c = '-') || decide (c = '+')) = true →
      cut (c :: (magnitude ++ unit)) = (c :: magnitude, unit) := by
    intro c sign
    rw [cut, if_pos sign, List.takeWhile_append_of_pos shape.numeral,
      List.dropWhile_append_of_pos shape.numeral, none, all, List.append_nil]
  simp only [List.mem_cons, List.not_mem_nil, or_false] at signed
  rcases signed with rfl | rfl | rfl
  · exact Length.cut_append shape.numeral units
  · exact behind '-' rfl
  · exact behind '+' rfl

theorem IsNumber.visible (shape : IsNumber number) : ∀ c ∈ number, Text.isBlank c = false := by
  obtain ⟨sign, magnitude, signed, shape, rfl⟩ := shape
  have signs : ∀ sign ∈ ([[], ['-'], ['+']] : List (List Char)),
      sign.all (Text.isBlank · == false) = true := by decide
  exact List.forall_mem_append.mpr
    ⟨fun c mem => eq_of_beq (List.all_eq_true.mp (signs sign signed) c mem),
      fun c mem => isBlank_of_isNumeral (shape.numeral c mem)⟩

variable {s : String}

/-- Nothing but blanks stands around what a text spells. -/
theorem Spells.trim_eq (spelled : Spells s number unit) :
    Text.trim s.toList = number ++ unit := by
  obtain ⟨before, after, blank, whole⟩ := spelled.around
  have visible : ∀ c ∈ number ++ unit, Text.isBlank c = false :=
    List.forall_mem_append.mpr
      ⟨spelled.numeric.visible, fun c mem => isBlank_of_isUnit (spelled.units c mem)⟩
  rw [whole, Text.trim_append blank, Text.trim_eq_self visible]

/-- What a text spells is read. -/
theorem Spells.ofText?_eq (spelled : Spells s number unit) :
    ofText? s = (readSigned? number).map fun x => ⟨x, String.ofList unit⟩ := by
  unfold ofText?
  rw [spelled.trim_eq, spelled.numeric.cut_append spelled.units]
  exact if_pos (List.all_eq_true.mpr spelled.units)

/-- A text is read exactly if it spells a number and a unit behind it, which make up the text
without the blanks around it. The length has that unit and what is read for that number. -/
theorem exists_ofText?_iff_spells (s : String) :
    ((∃ l, ofText? s = some l) ↔ ∃ number unit, Spells s number unit) ∧
    ∀ number unit, Spells s number unit →
      number ++ unit = Text.trim s.toList ∧
      ∃ l, ofText? s = some l ∧ l.unit = String.ofList unit ∧
        readSigned? number = some l.number := by
  have read : ∀ number unit, Spells s number unit → ∃ l, ofText? s = some l ∧
      l.unit = String.ofList unit ∧ readSigned? number = some l.number := by
    intro number unit spelled
    obtain ⟨x, numeric⟩ := spelled.numeric.exists_readSigned?
    refine ⟨⟨x, String.ofList unit⟩, ?_, rfl, numeric⟩
    rw [spelled.ofText?_eq, numeric, Option.map_some]
  refine ⟨⟨fun ⟨l, found⟩ => ?_, fun ⟨number, unit, spelled⟩ => ?_⟩, fun number unit spelled => ?_⟩
  · obtain ⟨number, spelled⟩ := spells_of_ofText? found
    exact ⟨number, _, spelled⟩
  · obtain ⟨l, found, -⟩ := read number unit spelled
    exact ⟨l, found⟩
  · exact ⟨spelled.trim_eq.symm, read number unit spelled⟩

/-- A number with a sign and no digit in front of its point, between blanks that are not those of
ASCII. -/
theorem exists_ofText?_iff_spells_signed :
    Spells "\u3000-.5rem\n" "-.5".toList "rem".toList ∧
      "-.5rem".toList = Text.trim "\u3000-.5rem\n".toList ∧
      ∃ l, ofText? "\u3000-.5rem\n" = some l ∧ l.unit = "rem" := by
  have spelled : Spells "\u3000-.5rem\n" "-.5".toList "rem".toList := by
    have magnitude : IsMagnitude ([] ++ '.' :: ['5']) :=
      .pointed (List.cons_ne_nil _ _) (List.all_eq_true.mp (by decide))
    exact ⟨⟨['-'], ['.', '5'], by decide, magnitude, rfl⟩, List.all_eq_true.mp (by decide),
      ['\u3000'], ['\n'], List.all_eq_true.mp (by decide), by decide⟩
  obtain ⟨whole, l, found, same, -⟩ :=
    (exists_ofText?_iff_spells "\u3000-.5rem\n").2 _ _ spelled
  exact ⟨spelled, whole, l, found, same⟩

/-! ## Lengths that are multiplied -/

/-- Two texts where the first spells a number with a unit and the second ends with that unit. -/
def KeepsUnit (s t : String) : Prop :=
  ∃ number unit, unit ≠ [] ∧ Spells s number unit ∧ unit <:+ t.toList

/-- A length that is multiplied keeps its unit. -/
theorem keepsUnit_of_scale? {factor : Float} {s t : String} (scaled : scale? factor s = some t) :
    KeepsUnit s t := by
  unfold scale? at scaled
  split at scaled
  next => cases scaled
  next l read =>
    split at scaled
    next => cases scaled
    next some_unit =>
      cases scaled
      obtain ⟨number, spelled⟩ := spells_of_ofText? read
      refine ⟨number, l.unit.toList, fun empty => some_unit ?_, spelled, ?_⟩
      · rw [String.toList_eq_nil_iff.mp empty]
        rfl
      · rw [toText, String.toList_append]
        exact List.suffix_append _ _

end PageStudio.Style.Length
