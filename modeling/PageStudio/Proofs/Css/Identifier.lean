import PageStudio.Proofs.Css.Token

/-!
# Names without escapes

A text is an identifier if it is a name as it stands: it begins as a name does, and every character
of it can stand in one. An identifier is read as its own characters, up to what does not go on with
a name.
-/

namespace PageStudio.Css.Lexical

/-- A text is a name, written without escapes. -/
structure IsIdentifier (s : List Char) : Prop where
  starts : startsName s = true
  plain : ∀ c ∈ s, isName c = true

instance (s : List Char) : Decidable (IsIdentifier s) :=
  decidable_of_iff (startsName s = true ∧ s.all isName = true)
    ⟨fun h => ⟨h.1, List.all_eq_true.mp h.2⟩, fun h => ⟨h.starts, List.all_eq_true.mpr h.plain⟩⟩

/-- A name without escapes is cut as it is. -/
theorem filtered_identifier {n : List Char} (plain : ∀ c ∈ n, isName c = true) :
    filtered n = n := by
  induction n with
  | nil => rfl
  | cons c n ih =>
    have kept : IsKept c := by
      refine ⟨?_, ?_, ?_⟩
      all_goals
        rintro rfl
        cases plain _ List.mem_cons_self
    rw [filtered_cons kept, ih fun d mem => plain d (List.mem_cons_of_mem _ mem)]

/-- A name without escapes is read up to what does not go on with it. -/
theorem name_append {n w : List Char} (plain : ∀ c ∈ n, isName c = true)
    (stops : nameChar? w = none) : name (n ++ w) = (n, some w) := by
  induction n with
  | nil => rw [List.nil_append, name, stops]
  | cons c n ih =>
    have first : nameChar? (c :: (n ++ w)) = some (c, some (n ++ w)) :=
      if_pos (plain c List.mem_cons_self)
    rw [List.cons_append, name, first]
    show (c :: (name (n ++ w)).1, (name (n ++ w)).2) = (c :: n, some w)
    rw [ih fun d mem => plain d (List.mem_cons_of_mem _ mem)]

theorem isDigit_of_isNameStart {c : Char} (start : isNameStart c = true) : c.isDigit = false := by
  have bounds : ∀ n : Nat, 48 ≤ n → n ≤ 57 →
      ¬((65 ≤ n ∧ n ≤ 90 ∨ 97 ≤ n ∧ n ≤ 122) ∨ n = 95 ∨ 128 ≤ n) := by omega
  refine Bool.eq_false_iff.mpr fun digit => ?_
  obtain ⟨low, high⟩ := Bool.and_eq_true _ _ ▸ digit
  refine bounds c.toNat (of_decide_eq_true low) (of_decide_eq_true high) ?_
  rw [isNameStart, Bool.or_eq_true, Bool.or_eq_true] at start
  rcases start with (letter | line) | far
  · rcases Bool.or_eq_true _ _ ▸ letter with upper | lower
    · exact .inl (.inl (of_decide_eq_true upper))
    · obtain ⟨low, high⟩ := Bool.and_eq_true _ _ ▸ lower
      exact .inl (.inr ⟨of_decide_eq_true low, of_decide_eq_true high⟩)
  · exact .inr (.inl (congrArg Char.toNat (of_decide_eq_true line)))
  · exact .inr (.inr (of_decide_eq_true far))

/-- What begins with a letter begins with no number, also behind a sign. -/
theorem startsNumber_of_letter {c : Char} (letter : isNameStart c = true ∨ c = '-')
    (s : List Char) : startsDigits (c :: s) = false ∧ (fraction (c :: s)).1 = [] := by
  have point : c ≠ '.' := by
    rintro rfl
    rcases letter with start | dash
    · cases start
    · cases dash
  refine ⟨?_, ?_⟩
  · rcases letter with start | rfl
    · exact isDigit_of_isNameStart start
    · rfl
  · rw [fraction, if_neg]
    rw [decide_eq_false point]
    exact Bool.noConfusion

/-- An identifier begins with a letter, maybe behind a hyphen, or with two hyphens. -/
theorem IsIdentifier.letter {s : List Char} (identifier : IsIdentifier s) :
    (∃ c t, s = c :: t ∧ isNameStart c = true) ∨
      ∃ c t, s = '-' :: c :: t ∧ (isNameStart c = true ∨ c = '-') := by
  obtain ⟨starts, plain⟩ := identifier
  have start : ∀ {t : List Char}, t <:+ s → startsLetter t = true →
      ∃ c u, t = c :: u ∧ isNameStart c = true := by
    intro t suffix letter
    cases t with
    | nil => cases letter
    | cons c u =>
      refine ⟨c, u, rfl, (Bool.or_eq_true _ _ ▸ letter).resolve_right fun escaped => ?_⟩
      have slash := of_decide_eq_true (Bool.and_eq_true _ _ ▸ escaped).1
      have name := plain c (suffix.subset List.mem_cons_self)
      rw [slash] at name
      cases name
  rw [startsName, Bool.or_eq_true, Bool.and_eq_true, Bool.or_eq_true] at starts
  rcases starts with letter | ⟨dash, behind⟩
  · exact .inl (start List.suffix_rfl letter)
  · obtain ⟨t, rfl⟩ := List.isPrefixOf_iff_prefix.mp dash
    rcases behind with letter | dashes
    · obtain ⟨c, u, same, letter⟩ := start (List.suffix_cons '-' t) letter
      exact .inr ⟨c, u, congrArg ('-' :: ·) same, .inl letter⟩
    · obtain ⟨u, same⟩ := List.isPrefixOf_iff_prefix.mp dashes
      exact .inr ⟨'-', u, same.symm, .inr rfl⟩

theorem startsName_append {s : List Char} (identifier : IsIdentifier s) (w : List Char) :
    startsName (s ++ w) = true := by
  have letter : ∀ {c : Char} (t : List Char), isNameStart c = true →
      startsLetter (c :: t) = true := by
    intro c t start
    rw [startsLetter, start]
    rfl
  rcases identifier.letter with ⟨c, t, rfl, start⟩ | ⟨c, t, rfl, start | rfl⟩
  · rw [List.cons_append, startsName, letter _ start]
    rfl
  · show (startsLetter _ || true && (startsLetter (c :: (t ++ w)) || _)) = true
    rw [letter _ start, Bool.true_or, Bool.and_true, Bool.or_true]
  · rfl

theorem startsNumber_append {s : List Char} (identifier : IsIdentifier s) (w : List Char) :
    startsNumber (s ++ w) = false := by
  rcases identifier.letter with ⟨c, t, rfl, start⟩ | ⟨c, t, rfl, letter⟩
  · have unsigned : sign (c :: (t ++ w)) = ([], c :: (t ++ w)) := by
      refine if_neg fun signed => ?_
      rcases Bool.or_eq_true _ _ ▸ signed with plus | minus
      · rw [of_decide_eq_true plus] at start
        cases start
      · rw [of_decide_eq_true minus] at start
        cases start
    obtain ⟨digits, point⟩ := startsNumber_of_letter (.inl start) (t ++ w)
    rw [List.cons_append, startsNumber, unsigned, digits, point]
    rfl
  · obtain ⟨digits, point⟩ := startsNumber_of_letter letter (t ++ w)
    show (startsDigits (c :: (t ++ w)) || !(fraction (c :: (t ++ w))).1.isEmpty) = false
    rw [digits, point]
    rfl

/-- A name without escapes is read as one token with what stands behind it. -/
theorem token_append {c : Char} {s w : List Char} (identifier : IsIdentifier (c :: s))
    (stops : nameChar? w = none) (other : w.head? ≠ some '>') :
    token c (s ++ w) = nameToken (c :: s) (some w) := by
  have named := identifier.plain c List.mem_cons_self
  have notBlank : isBlank c = false := by
    refine Bool.eq_false_iff.mpr fun blank => ?_
    simp only [isBlank, Bool.or_eq_true, decide_eq_true_eq] at blank
    rcases blank with (rfl | rfl) | rfl <;> cases named
  have notQuote : isQuote c = false := by
    refine Bool.eq_false_iff.mpr fun quote => ?_
    simp only [isQuote, Bool.or_eq_true, decide_eq_true_eq] at quote
    rcases quote with rfl | rfl <;> cases named
  have notSlash : (decide (c = '/')) = false := by
    refine decide_eq_false ?_
    rintro rfl
    cases named
  have notNumber : startsNumber (c :: (s ++ w)) = false := startsNumber_append identifier w
  -- The second of two hyphens is the end of the name, or has another letter of it behind.
  have notClosing : ['-', '>'].isPrefixOf (s ++ w) = false := by
    refine Bool.eq_false_iff.mpr fun closing => ?_
    obtain ⟨rest, same⟩ := List.isPrefixOf_iff_prefix.mp closing
    match s with
    | [] =>
      have dash : w = '-' :: ('>' :: rest) := same.symm
      rw [dash] at stops
      cases stops
    | [d] =>
      have head : w = '>' :: rest := (List.cons.inj same).2.symm
      exact other (head ▸ rfl)
    | d :: e :: s =>
      have head : '>' = e := (List.cons.inj (List.cons.inj same).2).1
      have mem : e ∈ d :: e :: s := List.mem_cons_of_mem d List.mem_cons_self
      have name := identifier.plain e (List.mem_cons_of_mem c mem)
      rw [← head] at name
      cases name
  have starts : startsName (c :: (s ++ w)) = true := startsName_append identifier w
  rw [token, notBlank, notQuote, notSlash, notNumber, notClosing, Bool.and_false, starts]
  have whole : name (c :: (s ++ w)) = (c :: s, some w) := name_append identifier.plain stops
  rw [whole]
  rfl

end PageStudio.Css.Lexical
