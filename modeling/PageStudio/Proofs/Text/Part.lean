import Mathlib.Data.List.Infix

/-!
# Where a part begins

A part is looked for in a text that is put together from many. `Brings` says what each of them adds
to the question whether the part occurs, and goes through from the texts to the whole. Where a part
begins with a character that it does not have again, the text in front of its first place is known
(`cutAt?_append`).

Letter case does not count in tags, so parts are looked for in lower case.
-/

namespace PageStudio.Text

variable {part tail front back s t rest : List Char} {c d : Char} {P Q : Prop}

/-- A text as it is compared with tags: the capitals among its letters in lower case. -/
def caseless (s : String) : List Char := s.toList.map Char.toLower

theorem caseless_append (s t : String) : caseless (s ++ t) = caseless s ++ caseless t := by
  rw [caseless, String.toList_append, List.map_append]
  rfl

/-! ## What a text adds -/

/-- Whatever follows a text, a part occurs in the two together exactly if `P` holds or if it occurs
in what follows. -/
def Brings (part s : List Char) (P : Prop) : Prop :=
  ∀ rest, part <:+: s ++ rest ↔ P ∨ part <:+: rest

theorem Brings.congr (brings : Brings part s P) (same : P ↔ Q) : Brings part s Q :=
  fun rest => (brings rest).trans (or_congr_left same)

theorem brings_nil : Brings part [] False := by
  intro rest
  rw [List.nil_append, false_or]

theorem Brings.append (first : Brings part s P) (second : Brings part t Q) :
    Brings part (s ++ t) (P ∨ Q) := by
  intro rest
  rw [List.append_assoc, first, second, or_assoc]

theorem Brings.infix_iff (brings : Brings part s P) (nonempty : part ≠ []) : part <:+: s ↔ P := by
  have alone := brings []
  rwa [List.append_nil, List.infix_nil, or_iff_left nonempty] at alone

/-- Two texts that do not bring a part do not bring it together. -/
theorem Brings.neither {s t : String} (first : Brings part (caseless s) False)
    (second : Brings part (caseless t) False) : Brings part (caseless (s ++ t)) False := by
  rw [caseless_append]
  exact (first.append second).congr (or_self_iff)

/-- A text without the first character of a part does not bring it. -/
theorem brings_of_not_mem (absent : c ∉ s) : Brings (c :: tail) s False := by
  intro rest
  rw [List.infix_append_iff, false_or]
  constructor
  · rintro (inside | later | ⟨l, l', whole, ending, beginning⟩)
    · exact absurd (inside.subset List.mem_cons_self) absent
    · exact later
    · cases l with
      | nil =>
        rw [List.nil_append] at whole
        exact whole ▸ beginning.isInfix
      | cons e l =>
        obtain ⟨rfl, -⟩ := List.cons.inj whole
        exact absurd (ending.subset List.mem_cons_self) absent
  · exact fun later => .inr (.inl later)

/-- In front of a character that a part does not have, it occurs only if it does so by itself. -/
theorem brings_of_end (other : d ∉ part) : Brings part (s ++ [d]) (part <:+: s) := by
  have empty : ∀ {l rest : List Char}, l <+: d :: rest → d ∉ l → l = [] := by
    intro l rest beginning absent
    cases l with
    | nil => rfl
    | cons e l =>
      rw [(List.cons_prefix_cons.mp beginning).1] at absent
      exact absurd List.mem_cons_self absent
  intro rest
  rw [List.append_assoc, List.singleton_append, List.infix_append_iff, List.infix_cons_iff]
  constructor
  · rintro (inside | (beginning | later) | ⟨l, l', rfl, ending, beginning⟩)
    · exact .inl inside
    · rw [empty beginning other]
      exact .inl List.nil_infix
    · exact .inr later
    · have none : l' = [] := empty beginning fun mem => other (List.mem_append_right _ mem)
      rw [none, List.append_nil]
      exact .inl ending.isInfix
  · rintro (inside | later)
    · exact .inl inside
    · exact .inr (.inl (.inr later))

/-- Texts without the first character of a part may stand around. -/
theorem Brings.around (brings : Brings (c :: tail) s P) (before : c ∉ front) (behind : c ∉ back) :
    Brings (c :: tail) (front ++ s ++ back) P :=
  (((brings_of_not_mem before).append brings).append (brings_of_not_mem behind)).congr
    (by rw [false_or, or_false])

/-- Whether no occurrence of a part can begin inside a text, whatever follows it. -/
def avoids (part : List Char) : List Char → Bool
  | [] => true
  | c :: s => !(part.isPrefixOf (c :: s) || (c :: s).isPrefixOf part) && avoids part s

theorem brings_of_avoids (avoided : avoids part s = true) : Brings part s False := by
  induction s with
  | nil => exact brings_nil
  | cons c s ih =>
    simp only [avoids, Bool.and_eq_true, Bool.not_eq_true', Bool.or_eq_false_iff] at avoided
    obtain ⟨⟨here, there⟩, later⟩ := avoided
    intro rest
    rw [List.cons_append, List.infix_cons_iff, ih later, false_or, or_iff_right]
    intro beginning
    rcases List.prefix_or_prefix_of_prefix beginning (List.prefix_append (c :: s) rest) with
      short | long
    · rw [List.isPrefixOf_iff_prefix.mpr short] at here
      cases here
    · rw [List.isPrefixOf_iff_prefix.mpr long] at there
      cases there

/-! ## The first place -/

/-- A text cut at the first place of a part: what stands in front of it and what behind. -/
def cutAt? (part : List Char) : List Char → Option (List Char × List Char)
  | [] => none
  | c :: s =>
    if part.isPrefixOf ((c :: s).map Char.toLower) then some ([], (c :: s).drop part.length)
    else (cutAt? part s).map fun cut => (c :: cut.1, cut.2)

theorem cutAt?_cons_of_here {l : List Char} (here : part <+: (d :: l).map Char.toLower) :
    cutAt? part (d :: l) = some ([], (d :: l).drop part.length) :=
  if_pos (List.isPrefixOf_iff_prefix.mpr here)

theorem cutAt?_cons_of_later {l : List Char} (later : ¬part <+: (d :: l).map Char.toLower) :
    cutAt? part (d :: l) = (cutAt? part l).map fun cut => (d :: cut.1, cut.2) :=
  if_neg fun here => later (List.isPrefixOf_iff_prefix.mp here)

/-- A part that begins with a character it does not have again cannot begin in front of itself
without being there as a whole. -/
theorem not_prefix_append {l : List Char} (fresh : c ∉ tail) (nonempty : l ≠ [])
    (absent : ¬c :: tail <:+: l) : ¬c :: tail <+: l ++ (c :: tail ++ rest) := by
  intro beginning
  rcases List.prefix_or_prefix_of_prefix beginning (List.prefix_append _ _) with short | ⟨r, whole⟩
  · exact absent short.isInfix
  · cases l with
    | nil => exact nonempty rfl
    | cons e l =>
      -- Of the part, `r` stands behind `l`, where it begins with the first character again.
      rw [← whole, List.prefix_append_right_inj] at beginning
      cases r with
      | nil =>
        rw [List.append_nil] at whole
        exact absent (whole ▸ List.infix_rfl)
      | cons f r =>
        obtain ⟨rfl, -⟩ := List.cons_prefix_cons.mp beginning
        obtain ⟨rfl, rfl⟩ := List.cons.inj whole
        exact fresh (List.mem_append_right _ List.mem_cons_self)

/-- Where the text in front of a part does not have it, the text is cut there. -/
theorem cutAt?_append {written : List Char} (fresh : c ∉ tail)
    (here : written.map Char.toLower = c :: tail) (absent : ¬c :: tail <:+: s.map Char.toLower) :
    cutAt? (c :: tail) (s ++ (written ++ rest)) = some (s, rest) := by
  induction s with
  | nil =>
    have length : (c :: tail).length = written.length := by rw [← here, List.length_map]
    cases written with
    | nil => cases here
    | cons d written =>
      have beginning : c :: tail <+: (d :: (written ++ rest)).map Char.toLower := by
        rw [← List.cons_append, List.map_append, here]
        exact List.prefix_append _ _
      show cutAt? (c :: tail) (d :: (written ++ rest)) = _
      rw [cutAt?_cons_of_here beginning, length]
      exact congrArg (fun r => some ([], r)) List.drop_left
  | cons d s ih =>
    have later : ¬c :: tail <+: (d :: (s ++ (written ++ rest))).map Char.toLower := by
      rw [← List.cons_append, List.map_append, List.map_append, here]
      exact not_prefix_append fresh (List.cons_ne_nil _ _) absent
    show cutAt? (c :: tail) (d :: (s ++ (written ++ rest))) = _
    rw [cutAt?_cons_of_later later,
      ih fun inside => absent (List.infix_cons inside)]
    rfl

/-- Where the text in front has the part, it is cut short. -/
theorem exists_cutAt?_append (nonempty : part ≠ []) (occurs : part <:+: s.map Char.toLower) :
    ∃ cut, cutAt? part (s ++ t) = some cut ∧ cut.1.length < s.length := by
  induction s with
  | nil => exact absurd (List.infix_nil.mp occurs) nonempty
  | cons d s ih =>
    rw [List.cons_append]
    by_cases here : part <+: (d :: (s ++ t)).map Char.toLower
    · exact ⟨_, cutAt?_cons_of_here here, Nat.succ_pos _⟩
    · have later : part <:+: s.map Char.toLower := by
        rcases List.infix_cons_iff.mp occurs with beginning | inside
        · have longer : (d :: s).map Char.toLower <+: (d :: (s ++ t)).map Char.toLower := by
            rw [← List.cons_append, List.map_append]
            exact List.prefix_append _ _
          exact absurd (beginning.trans longer) here
        · exact inside
      obtain ⟨cut, found, short⟩ := ih later
      refine ⟨(d :: cut.1, cut.2), ?_, Nat.succ_lt_succ short⟩
      rw [cutAt?_cons_of_later here, found]
      rfl

/-- The text in front of a part is cut off as a whole exactly if it does not have the part
itself. -/
theorem map_fst_cutAt?_append_iff {written : List Char} (fresh : c ∉ tail)
    (here : written.map Char.toLower = c :: tail) :
    (cutAt? (c :: tail) (s ++ (written ++ rest))).map Prod.fst = some s ↔
      ¬c :: tail <:+: s.map Char.toLower := by
  constructor
  · intro whole occurs
    obtain ⟨cut, found, short⟩ :=
      exists_cutAt?_append (t := written ++ rest) (List.cons_ne_nil _ _) occurs
    rw [found] at whole
    rw [← Option.some.inj whole] at short
    exact absurd short (Nat.lt_irrefl _)
  · intro absent
    rw [cutAt?_append fresh here absent]
    rfl

end PageStudio.Text
