import Mathlib.Data.List.Infix
import PageStudio.Decimal.Reading
import PageStudio.Text.Piece

/-!
# Pieces of texts found again

What the functions that cut a text say about the text: the pieces put together are the text again,
and a separator ends the piece before it. Replacing goes over the text once. A number in decimal
digits is read back.
-/

namespace PageStudio.Text

variable {part front s rest : List Char}

/-! ## Pieces between separators -/

/-- Without a separator, the piece that has begun goes on to the end. -/
theorem splitFrom_of_not_mem {sep : Char} {piece : List Char} (absent : sep ∉ s) :
    splitFrom sep piece s = [piece.reverse ++ s] := by
  induction s generalizing piece with
  | nil => rw [splitFrom, List.append_nil]
  | cons c s ih =>
    obtain ⟨other, later⟩ := not_or.mp (List.mem_cons.not.mp absent)
    rw [splitFrom, if_neg (Ne.symm other), ih later, List.reverse_cons, List.append_assoc,
      List.singleton_append]

/-- The piece ends at the first separator. -/
theorem splitFrom_append {sep : Char} {piece : List Char} (absent : sep ∉ s) :
    splitFrom sep piece (s ++ sep :: rest) = (piece.reverse ++ s) :: splitAt sep rest := by
  induction s generalizing piece with
  | nil => rw [List.nil_append, splitFrom, if_pos rfl, List.append_nil, splitAt]
  | cons c s ih =>
    obtain ⟨other, later⟩ := not_or.mp (List.mem_cons.not.mp absent)
    rw [List.cons_append, splitFrom, if_neg (Ne.symm other), ih later, List.reverse_cons,
      List.append_assoc, List.singleton_append]

/-- What stands behind the last separator is the last piece. -/
theorem exists_splitFrom_append {sep : Char} (s piece : List Char) (absent : sep ∉ rest) :
    ∃ pieces, splitFrom sep piece (s ++ sep :: rest) = pieces ++ [rest] := by
  induction s generalizing piece with
  | nil =>
    refine ⟨[piece.reverse], ?_⟩
    rw [List.nil_append, splitFrom, if_pos rfl, splitFrom_of_not_mem absent]
    rfl
  | cons c s ih =>
    rw [List.cons_append, splitFrom]
    split
    · obtain ⟨pieces, cut⟩ := ih []
      exact ⟨piece.reverse :: pieces, by rw [cut, List.cons_append]⟩
    · exact ih (c :: piece)

/-! ## Beginnings and places inside -/

/-- What follows a known beginning makes up the text together with it. -/
theorem dropFront?_eq_some_iff : dropFront? front s = some rest ↔ s = front ++ rest := by
  induction front generalizing s with
  | nil =>
    constructor
    · intro h
      exact Option.some.inj h
    · intro h
      exact congrArg some h
  | cons a front ih =>
    cases s with
    | nil => exact ⟨nofun, nofun⟩
    | cons b s =>
      simp only [dropFront?, List.cons_append, List.cons.injEq]
      by_cases same : a = b
      · rw [if_pos same, ih]
        exact ⟨fun h => ⟨same.symm, h⟩, fun h => h.2⟩
      · rw [if_neg same]
        exact ⟨nofun, fun h => absurd h.1.symm same⟩

/-- What precedes a known end makes up the text together with it. -/
theorem dropBack?_eq_some_iff {back : List Char} :
    dropBack? back s = some rest ↔ s = rest ++ back := by
  unfold dropBack?
  rw [Option.map_eq_some_iff]
  constructor
  · rintro ⟨reversed, found, rfl⟩
    have whole := dropFront?_eq_some_iff.mp found
    rw [← List.reverse_reverse s, whole, List.reverse_append, List.reverse_reverse]
  · rintro rfl
    exact ⟨rest.reverse, dropFront?_eq_some_iff.mpr List.reverse_append, List.reverse_reverse rest⟩

theorem isSome_dropFront?_iff : (dropFront? front s).isSome = true ↔ front <+: s := by
  rw [Option.isSome_iff_exists]
  constructor
  · rintro ⟨rest, found⟩
    exact ⟨rest, (dropFront?_eq_some_iff.mp found).symm⟩
  · rintro ⟨rest, rfl⟩
    exact ⟨rest, dropFront?_eq_some_iff.mpr rfl⟩

theorem occursIn_iff : occursIn part s = true ↔ part <:+: s := by
  induction s with
  | nil =>
    rw [List.infix_nil]
    exact List.isEmpty_iff
  | cons c s ih =>
    rw [List.infix_cons_iff, ← ih, ← isSome_dropFront?_iff]
    show ((dropFront? part (c :: s)).isSome || occursIn part s) = true ↔ _
    rw [Bool.or_eq_true]

/-! ## The last place -/

/-- What follows the last place of a text stands behind that text. -/
theorem eq_append_of_afterLast? (found : afterLast? part s = some rest) :
    ∃ before, s = before ++ (part ++ rest) := by
  induction s with
  | nil =>
    have here : [] = part ++ rest := dropFront?_eq_some_iff.mp found
    exact ⟨[], here⟩
  | cons c s ih =>
    simp only [afterLast?] at found
    split at found
    next _ inside =>
      cases found
      obtain ⟨before, here⟩ := ih inside
      exact ⟨c :: before, congrArg (c :: ·) here⟩
    next =>
      have here : c :: s = part ++ rest := dropFront?_eq_some_iff.mp found
      exact ⟨[], here⟩

/-- A text that does not occur has no last place. -/
theorem afterLast?_eq_none (absent : occursIn part s = false) : afterLast? part s = none := by
  cases found : afterLast? part s with
  | none => rfl
  | some rest =>
    obtain ⟨before, rfl⟩ := eq_append_of_afterLast? found
    have occurs : occursIn part (before ++ (part ++ rest)) = true :=
      occursIn_iff.mpr ⟨before, rest, List.append_assoc _ _ _⟩
    rw [absent] at occurs
    cases occurs

/-- Where the last character of a text does not come again, its last place is in front of what
follows. A later place would put that character into the rest. -/
theorem afterLast?_append {c : Char} {before : List Char} (last : c ∉ rest) :
    afterLast? (front ++ [c]) (before ++ ((front ++ [c]) ++ rest)) = some rest := by
  induction before with
  | nil =>
    -- A later place would leave less than `rest` behind, and so the last character inside `rest`.
    have none_later : ∀ d t, d :: t = (front ++ [c]) ++ rest →
        afterLast? (front ++ [c]) t = none := by
      intro d t whole
      cases found : afterLast? (front ++ [c]) t with
      | none => rfl
      | some r =>
        obtain ⟨b, rfl⟩ := eq_append_of_afterLast? found
        have later : (c :: r) <:+ (front ++ [c]) ++ rest := by
          refine ⟨d :: b ++ front, ?_⟩
          rw [← whole]
          simp only [List.cons_append, List.append_assoc, List.nil_append]
        have short : (c :: r).length ≤ rest.length := by
          have lengths := congrArg List.length whole
          simp only [List.length_cons, List.length_append, List.length_nil] at lengths ⊢
          omega
        have inside := List.suffix_of_suffix_length_le later (List.suffix_append _ _) short
        exact absurd (inside.subset List.mem_cons_self) last
    cases whole : (front ++ [c]) ++ rest with
    | nil =>
      have lengths := congrArg List.length whole
      simp only [List.length_append, List.length_cons, List.length_nil] at lengths
      omega
    | cons d t =>
      simp only [List.nil_append, afterLast?, none_later d t whole.symm]
      exact dropFront?_eq_some_iff.mpr whole.symm
  | cons b before ih =>
    simp only [List.cons_append, afterLast?, ih]

/-! ## Parts that are replaced -/

variable {new : List Char}

/-- What is to be passed over has no part in the result. -/
theorem replaceFrom_append (skipped rest : List Char) :
    replaceFrom part new skipped.length (skipped ++ rest) = replace part new rest := by
  induction skipped with
  | nil => rfl
  | cons _ _ ih => exact ih

theorem replace_append (some_part : part ≠ []) (rest : List Char) :
    replace part new (part ++ rest) = new ++ replace part new rest := by
  cases part with
  | nil => exact absurd rfl some_part
  | cons a part =>
    have here : (dropFront? (a :: part) (a :: (part ++ rest))).isSome = true :=
      isSome_dropFront?_iff.mpr ⟨rest, rfl⟩
    rw [replace, List.cons_append, replaceFrom, if_pos here]
    exact congrArg (new ++ ·) (replaceFrom_append part rest)

theorem replace_cons {c : Char} (elsewhere : ¬ part <+: c :: rest) :
    replace part new (c :: rest) = c :: replace part new rest := by
  rw [replace, replaceFrom, if_neg fun here => elsewhere (isSome_dropFront?_iff.mp here)]
  rfl

/-- A single character is replaced wherever it stands. -/
theorem replace_singleton (a : Char) (new s : List Char) :
    replace [a] new s = s.flatMap fun c => if c = a then new else [c] := by
  induction s with
  | nil => rfl
  | cons c s ih =>
    rw [List.flatMap_cons, ← ih]
    by_cases same : c = a
    · rw [if_pos same, same]
      exact replace_append (List.cons_ne_nil a []) s
    · have elsewhere : ¬ [a] <+: c :: s := fun front =>
        same (List.cons_prefix_cons.mp front).1.symm
      rw [if_neg same, replace_cons elsewhere]
      rfl

end PageStudio.Text

namespace PageStudio.Decimal

/-! ## Digits -/

/-- A row of digits stands for the same number here and in the library. -/
theorem natOfDigits_eq (s : List Char) : natOfDigits s = Nat.ofDigitChars 10 s 0 := by
  rw [Nat.ofDigitChars_eq_foldl]
  rfl

theorem natOfDigits_toDigits (n : Nat) : natOfDigits (Nat.toDigits 10 n) = n := by
  rw [natOfDigits_eq, Nat.ofDigitChars_ten_toDigits]

theorem toDigits_inj {m n : Nat} (same : Nat.toDigits 10 m = Nat.toDigits 10 n) : m = n := by
  rw [← natOfDigits_toDigits m, same, natOfDigits_toDigits]

/-- What is no digit is not among the digits of a number. -/
theorem not_mem_toDigits {c : Char} (h : c.isDigit = false) (n : Nat) :
    c ∉ Nat.toDigits 10 n := by
  intro mem
  have digit := Nat.isDigit_of_mem_toDigits (by omega) (by omega) mem
  rw [h] at digit
  cases digit

/-- A number is read back from its digits where it is below the bound. -/
theorem readNatural?_toDigits (bound n : Nat) :
    readNatural? bound (Nat.toDigits 10 n) = if n < bound then some n else none := by
  have digits : (Nat.toDigits 10 n).all isDigit = true :=
    List.all_eq_true.mpr fun c hc => Nat.isDigit_of_mem_toDigits (by omega) (by omega) hc
  have some_digit : (Nat.toDigits 10 n).isEmpty = false :=
    List.isEmpty_eq_false_iff.mpr Nat.toDigits_ne_nil
  have plus_not_digit : '+'.isDigit = false := rfl
  unfold readNatural?
  split
  next rest plus =>
    exact absurd (plus ▸ List.mem_cons_self) (not_mem_toDigits plus_not_digit n)
  next =>
    simp only [digits, some_digit, natOfDigits_toDigits, Bool.not_true, Bool.or_self,
      Bool.false_eq_true, if_false]

end PageStudio.Decimal
