import PageStudio.Proofs.Css.Trimming
import PageStudio.Proofs.Style.Length

/-!
# Lengths that are declared

A text that is read as a length has the shape of a literal, unless a plus sign stands in front of
its number. So a length is declared as it is, without the blanks around it, exactly where it has no
such sign; with one it is dropped like an unknown token.

## Main statements

* `isLiteral_of_ofText?_iff`: which lengths are literals.
* `mem_declarations_of_ofText?_iff`: which lengths are declared.
* `exists_dropped_length`: one that is dropped.
-/

namespace PageStudio.Style.Length

variable {c : Char} {s number unit : List Char} {v : String}

/-! ## Characters of lengths -/

/-- A character that lengths are spelled with. -/
def IsSpelling (c : Char) : Prop :=
  c = '-' ∨ c = '+' ∨ isNumeral c = true ∨ isUnit c = true

theorem IsSpelling.ne {d : Char} (spelling : IsSpelling c) (other : ¬IsSpelling d) : c ≠ d := by
  rintro rfl
  exact other spelling

instance (c : Char) : Decidable (IsSpelling c) :=
  inferInstanceAs (Decidable (c = '-' ∨ c = '+' ∨ isNumeral c = true ∨ isUnit c = true))

theorem IsSpelling.isDelimiter (spelling : IsSpelling c) : isDelimiter c = false := by
  simp [Style.isDelimiter, spelling.ne (d := ';') (by decide),
    spelling.ne (d := '\x7b') (by decide), spelling.ne (d := '\x7d') (by decide)]

theorem IsMagnitude.ne_nil (magnitude : IsMagnitude s) : s ≠ [] := by
  cases magnitude with
  | whole some_digit => exact some_digit
  | pointed => simp

/-- A magnitude starts like a number, whatever stands behind it. -/
theorem IsMagnitude.startsNumber (magnitude : IsMagnitude s) (rest : List Char) :
    startsNumber (s ++ rest) = true := by
  obtain ⟨c, s, rfl⟩ := List.exists_cons_of_ne_nil magnitude.ne_nil
  exact magnitude.numeral c List.mem_cons_self

theorem Spells.isSpelling (spelled : Spells v number unit) :
    ∀ c ∈ number ++ unit, IsSpelling c := by
  obtain ⟨sign, magnitude, signs, numeric, rfl⟩ := spelled.numeric
  intro c mem
  simp only [List.mem_append] at mem
  rcases mem with (front | digits) | units
  · simp only [List.mem_cons, List.not_mem_nil, or_false] at signs
    rcases signs with rfl | rfl | rfl
    · cases front
    · exact .inl (List.mem_singleton.mp front)
    · exact .inr (.inl (List.mem_singleton.mp front))
  · exact .inr (.inr (.inl (numeric.numeral c digits)))
  · exact .inr (.inr (.inr (spelled.units c units)))

/-! ## Lengths as literals -/

theorem hasLiteralShape_of_startsNumber (starts : startsNumber s = true) :
    hasLiteralShape s = true := by
  unfold hasLiteralShape
  split
  · cases starts
  · rfl
  · cases starts
  · simp [starts]

/-- Neither a function nor a word starts with a plus sign and goes on like a length. -/
theorem hasLiteralShape_plus (spelling : ∀ c ∈ s, IsSpelling c) :
    hasLiteralShape ('+' :: s) = false := by
  have no_function : ('+' :: s).getLast? ≠ some ')' := by
    intro last
    rcases List.mem_cons.mp (List.mem_of_getLast? last) with plus | inside
    · cases plus
    · exact absurd (spelling _ inside) (by decide)
  have no_word : keywords.contains (String.ofList ('+' :: s)) = false := by
    have words : ∀ word ∈ keywords, word.toList.head? ≠ some '+' := by decide
    rw [List.contains_eq_mem, decide_eq_false_iff_not]
    intro word
    exact words _ word (by rw [String.toList_ofList, List.head?_cons])
  show (startsNumber ('+' :: s) || (('+' :: s).getLast? == some ')' && ('+' :: s).contains '(') ||
    keywords.contains (String.ofList ('+' :: s))) = false
  rw [beq_eq_false_iff_ne.mpr no_function, no_word]
  rfl

/-- A text that spells a length is a literal unless a plus sign comes first. -/
theorem Spells.isLiteral_iff (spelled : Spells v number unit) :
    isLiteral v = true ↔ (number ++ unit).head? ≠ some '+' := by
  have spelling := spelled.isSpelling
  have undelimited : (number ++ unit).any isDelimiter = false :=
    List.any_eq_false.mpr fun c mem => by simp [(spelling c mem).isDelimiter]
  have shape : isLiteral v = hasLiteralShape (number ++ unit) := by
    simp [isLiteral, spelled.trim_eq, undelimited]
  obtain ⟨sign, magnitude, signs, numeric, rfl⟩ := spelled.numeric
  have starts := numeric.startsNumber unit
  rw [shape, List.append_assoc]
  rw [List.append_assoc] at spelling
  simp only [List.mem_cons, List.not_mem_nil, or_false] at signs
  rcases signs with rfl | rfl | rfl
  · refine iff_of_true (hasLiteralShape_of_startsNumber starts) fun plus => ?_
    rw [List.nil_append] at plus
    obtain ⟨rest, same⟩ := List.head?_eq_some_iff.mp plus
    rw [same] at starts
    cases starts
  · exact iff_of_true starts (by simp)
  · have other := hasLiteralShape_plus fun c mem => spelling c (List.mem_cons_of_mem _ mem)
    refine iff_of_false (fun literal => ?_) (by simp)
    exact Bool.noConfusion (other.symm.trans literal)

/-! ## Tokens -/

/-- No token of a width, a height or a size of texts begins with a plus sign. -/
theorem valueOf?_plus {p : Property} (scaled : p ∈ [.top, .left, .width, .height, .fontSize])
    {token : String} (plus : token.toList.head? = some '+') : valueOf? p token = none := by
  have tokens : ∀ table ∈ [widths, heights, fontSizes], ∀ e ∈ table,
      e.1.toList.head? ≠ some '+' := by decide
  have absent : ∀ table ∈ [widths, heights, fontSizes], table.lookup token = none := by
    intro table known
    cases found : table.lookup token with
    | none => rfl
    | some value => exact absurd plus (tokens table known _ (mem_of_lookup found))
  simp only [List.mem_cons, List.not_mem_nil, or_false] at scaled
  rcases scaled with rfl | rfl | rfl | rfl | rfl
  · rfl
  · rfl
  · exact absent widths (by simp)
  · exact absent heights (by simp)
  · exact absent fontSizes (by simp)

end PageStudio.Style.Length

namespace PageStudio.Css

open Style

variable {layer : Layer} {p : Property} {v : String} {l : Length}

/-! ## Declared lengths -/

/-- A text that is read as a length is a literal unless it starts with a plus sign. -/
theorem isLiteral_of_ofText?_iff (read : Length.ofText? v = some l) :
    isLiteral v = true ↔ (trimmed v).toList.head? ≠ some '+' := by
  obtain ⟨number, spelled⟩ := Length.spells_of_ofText? read
  rw [spelled.isLiteral_iff, trimmed, String.toList_ofList, spelled.trim_eq]

theorem trimmed_ne_empty_of_ofText? (read : Length.ofText? v = some l) : trimmed v ≠ "" := by
  obtain ⟨number, spelled⟩ := Length.spells_of_ofText? read
  obtain ⟨sign, magnitude, -, numeric, rfl⟩ := spelled.numeric
  intro empty
  have chars := congrArg String.toList empty
  rw [trimmed, String.toList_ofList, spelled.trim_eq] at chars
  simp [numeric.ne_nil] at chars

/-- A property that is scaled is declared under one name. -/
theorem names_of_scaled (scaled : p ∈ [.top, .left, .width, .height, .fontSize]) :
    names p = [p.cssName] := by
  simp only [List.mem_cons, List.not_mem_nil, or_false] at scaled
  rcases scaled with rfl | rfl | rfl | rfl | rfl <;> rfl

theorem mem_declarations_of_scaled_iff (scaled : p ∈ [.top, .left, .width, .height, .fontSize])
    {value : String} :
    (p.cssName, value) ∈ declarations layer ↔ (p.cssName, value) ∈ declarationsOf layer p := by
  have own : isOf p p.cssName = true := by simp [isOf, names_of_scaled scaled]
  rw [← filter_declarations, List.mem_filter, and_iff_left own]

theorem propertyDeclarations_of_scaled (scaled : p ∈ [.top, .left, .width, .height, .fontSize])
    (some_text : trimmed v ≠ "") :
    propertyDeclarations layer p v =
      if isLiteral (trimmed v) then [(p.cssName, trimmed v)]
      else ((valueOf? p (trimmed v)).map fun value => (p.cssName, value)).toList := by
  have meant : meaning? p (trimmed v) = (valueOf? p (trimmed v)).map .value := by
    simp only [List.mem_cons, List.not_mem_nil, or_false] at scaled
    rcases scaled with rfl | rfl | rfl | rfl | rfl <;> rfl
  have single : propertyDeclarations layer p v = (declaration? p (trimmed v)).toList := by
    simp only [List.mem_cons, List.not_mem_nil, or_false] at scaled
    rcases scaled with rfl | rfl | rfl | rfl | rfl <;> simp [propertyDeclarations, some_text]
  rw [single, declaration?, meant]
  split
  · rfl
  · cases valueOf? p (trimmed v) <;> rfl

/-- What a length declares for a property: itself, or nothing with a plus sign in front. -/
theorem declarationsOf_of_ofText? (read : Length.ofText? v = some l)
    (scaled : p ∈ [.top, .left, .width, .height, .fontSize]) (set : layer.get? p = some v) :
    declarationsOf layer p =
      if (trimmed v).toList.head? = some '+' then [] else [(p.cssName, trimmed v)] := by
  rw [declarationsOf, set, Option.map_some, Option.getD_some,
    propertyDeclarations_of_scaled scaled (trimmed_ne_empty_of_ofText? read), isLiteral_trimmed]
  split
  next literal => rw [if_neg ((isLiteral_of_ofText?_iff read).mp literal)]
  next other =>
    have plus : (trimmed v).toList.head? = some '+' :=
      of_not_not fun plain => other ((isLiteral_of_ofText?_iff read).mpr plain)
    rw [if_pos plus, Length.valueOf?_plus scaled plus]
    rfl

/-- A length is declared, without the blanks around it, exactly if no plus sign comes first, and
nothing else is declared under its name. -/
theorem mem_declarations_of_ofText?_iff (read : Length.ofText? v = some l)
    (scaled : p ∈ [.top, .left, .width, .height, .fontSize]) (set : layer.get? p = some v) :
    ((p.cssName, trimmed v) ∈ declarations layer ↔ (trimmed v).toList.head? ≠ some '+') ∧
      ∀ value, (p.cssName, value) ∈ declarations layer → value = trimmed v := by
  simp only [mem_declarations_of_scaled_iff scaled, declarationsOf_of_ofText? read scaled set]
  split
  next plus => simp [plus]
  next plain => simp [plain]

/-- A layer with a length, a margin on one side and a length that is dropped. -/
def measured : Layer := Dict.ofList [(.width, "\u3000-.5% "), (.margin, "mt-8"), (.top, "+5px")]

theorem mem_declarations_of_ofText?_iff_measured :
    ∃ l, Length.ofText? "\u3000-.5% " = some l ∧
      .width ∈ [Property.top, .left, .width, .height, .fontSize] ∧
      measured.get? .width = some "\u3000-.5% " ∧ ("width", "-.5%") ∈ declarations measured ∧
      ∀ value, ("width", value) ∈ declarations measured → value = "-.5%" := by
  obtain ⟨l, read⟩ : ∃ l, Length.ofText? "\u3000-.5% " = some l :=
    Option.isSome_iff_exists.mp (by decide)
  have scaled : .width ∈ [Property.top, .left, .width, .height, .fontSize] := by simp
  have set : measured.get? .width = some "\u3000-.5% " := by decide
  obtain ⟨declared, alone⟩ := mem_declarations_of_ofText?_iff read scaled set
  exact ⟨l, read, scaled, set, declared.mpr (by decide), alone⟩

/-- A length with a plus sign in front is dropped. -/
theorem exists_dropped_length :
    ∃ (v : String) (l : Length) (layer : Layer), Length.ofText? v = some l ∧
      layer.get? .top = some v ∧ declarations layer = [] := by
  obtain ⟨l, read⟩ : ∃ l, Length.ofText? "+5px" = some l :=
    Option.isSome_iff_exists.mp (by decide)
  exact ⟨"+5px", l, Dict.ofList [(.top, "+5px")], read, by decide, by decide⟩

end PageStudio.Css
