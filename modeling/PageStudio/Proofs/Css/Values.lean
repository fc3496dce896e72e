import Mathlib.Data.List.TakeWhile
import PageStudio.Css.Layout
import PageStudio.Proofs.Css.Declarations
import PageStudio.Proofs.Css.Reader
import PageStudio.Proofs.Text.Blank

/-!
# What stands in declarations

A declared value is a literal, which has no delimiter in it whatever text it is, or one of the texts
that tokens stand for. So every declaration of a layer can be told from what stands around it
(`legible_of_mem_declarations`), and so can the rules that the kind of a node needs.
-/

namespace PageStudio.Decimal

/-- Whether a character can stand in a number with few decimals. -/
def isBriefChar (c : Char) : Bool := c.isAlphanum || c = '.' || c = '-'

theorem mem_of_mem_dropBackWhile {c d : Char} {s : List Char} (mem : c ∈ dropBackWhile d s) :
    c ∈ s :=
  List.mem_reverse.mp ((List.dropWhile_sublist _).subset (List.mem_reverse.mp mem))

theorem isBriefChar_of_mem_padded {width n : Nat} {c : Char} (mem : c ∈ padded width n) :
    isBriefChar c = true := by
  have digit : c.isDigit = true := by
    rcases List.mem_append.mp mem with zeros | digits
    · rw [List.eq_of_mem_replicate zeros]
      rfl
    · exact Nat.isDigit_of_mem_toDigits (by omega) (by omega) digits
  rw [isBriefChar, Char.isAlphanum, digit, Bool.or_true, Bool.true_or, Bool.true_or]

theorem isBriefChar_of_mem_fixed {places : Nat} {x : Float} {c : Char} (mem : c ∈ fixed places x) :
    isBriefChar c = true := by
  have sign : ∀ c ∈ (if isNegative x then ['-'] else []), isBriefChar c = true := by
    split
    · exact List.forall_mem_singleton.mpr rfl
    · nofun
  unfold fixed at mem
  simp only at mem
  split at mem
  next =>
    exact List.all_eq_true.mp (by decide) c mem
  next =>
    split at mem
    next =>
      exact List.forall_mem_append.mpr ⟨sign, List.all_eq_true.mp (by decide)⟩ c mem
    next =>
      rcases List.mem_append.mp mem with front | back
      · rcases List.mem_append.mp front with minus | digits
        · exact sign c minus
        · exact isBriefChar_of_mem_padded (List.mem_of_mem_take digits)
      · rcases List.mem_cons.mp back with rfl | digits
        · rfl
        · exact isBriefChar_of_mem_padded (List.mem_of_mem_drop digits)

/-- A number with few decimals has letters, digits, points and signs in it only. -/
theorem isBriefChar_of_mem_brief {x : Float} {c : Char} (mem : c ∈ (brief x).toList) :
    isBriefChar c = true := by
  unfold brief at mem
  simp only at mem
  split at mem
  next =>
    exact List.all_eq_true.mp (by decide) c mem
  next =>
    rw [String.toList_ofList] at mem
    exact isBriefChar_of_mem_fixed (mem_of_mem_dropBackWhile (mem_of_mem_dropBackWhile mem))

end PageStudio.Decimal

namespace PageStudio.Style

/-- A literal has no delimiter in it, not even among the blanks around it. -/
theorem isDelimiter_of_isLiteral {value : String} (literal : isLiteral value = true) :
    ∀ c ∈ value.toList, isDelimiter c = false := by
  intro c mem
  by_contra delimiter
  rw [Bool.not_eq_false] at delimiter
  have visible : Text.isBlank c = false := by
    simp only [isDelimiter, Bool.or_eq_true, decide_eq_true_eq] at delimiter
    rcases delimiter with (rfl | rfl) | rfl <;> decide
  have found : (Text.trim value.toList).any isDelimiter = true :=
    List.any_eq_true.mpr ⟨c, Text.mem_trim mem visible, delimiter⟩
  rw [isLiteral, found] at literal
  cases literal

/-! ## Tokens -/

/-- The tables of tokens. -/
def tables : List (List (String × String)) :=
  [colors, paddings, margins, widths, heights, fontSizes, fontWeights, textDecorations, borderRadii,
    boxShadows]

/-- The values that tokens stand for. -/
def tokenValues : List String := "transparent" :: "inherit" :: tables.flatten.map (·.2)

theorem mem_of_lookup {table : List (String × String)} {token value : String}
    (found : table.lookup token = some value) : (token, value) ∈ table := by
  obtain ⟨before, behind, rfl, -⟩ := List.lookup_eq_some_iff.mp found
  exact List.mem_append_right _ List.mem_cons_self

theorem mem_tokenValues_of_lookup {table : List (String × String)} {token value : String}
    (known : table ∈ tables) (found : table.lookup token = some value) : value ∈ tokenValues := by
  have entry : (token, value) ∈ tables.flatten :=
    List.mem_flatten.mpr ⟨table, known, mem_of_lookup found⟩
  exact List.mem_cons_of_mem _ (List.mem_cons_of_mem _ (List.mem_map_of_mem entry))

theorem mem_tokenValues_of_colorBehind? {front token value : String}
    (found : colorBehind? front token = some value) : value ∈ tokenValues := by
  obtain ⟨name, -, color⟩ := Option.bind_eq_some_iff.mp found
  exact mem_tokenValues_of_lookup List.mem_cons_self color

/-- What a token stands for is known. -/
theorem mem_tokenValues_of_valueOf? {p : Property} {token value : String}
    (found : valueOf? p token = some value) : value ∈ tokenValues := by
  cases p with
  | top | left | zIndex | border => cases found
  | backgroundColor | barColor =>
    replace found : (if token == "bg-transparent" then some "transparent"
      else colorBehind? "bg-" token) = some value := found
    split at found
    · cases found
      exact List.mem_cons_self
    · exact mem_tokenValues_of_colorBehind? found
  | textColor =>
    replace found : (if token == "text-inherit" then some "inherit"
      else colorBehind? "text-" token) = some value := found
    split at found
    · cases found
      exact List.mem_cons_of_mem _ List.mem_cons_self
    · exact mem_tokenValues_of_colorBehind? found
  | borderColor => exact mem_tokenValues_of_colorBehind? found
  | _ => exact mem_tokenValues_of_lookup (by simp [tables]) found

/-- A colour of a theme is the text itself, where that starts like a hexadecimal one, and else a
known value. -/
theorem themeColor_cases (value fallback : String) :
    value.toList.head? = some '#' ∧ themeColor value fallback = value ∨
      value.toList.head? ≠ some '#' ∧ themeColor value fallback ∈ fallback :: tokenValues := by
  unfold themeColor
  split
  next rest chars => exact .inl ⟨by rw [chars, List.head?_cons], rfl⟩
  next other =>
    refine .inr ⟨fun first => ?_, ?_⟩
    · obtain ⟨rest, chars⟩ := List.head?_eq_some_iff.mp first
      exact other rest chars
    · simp only
      split
      next color found =>
        exact List.mem_cons_of_mem _ (mem_tokenValues_of_lookup List.mem_cons_self found)
      next =>
        split
        next word =>
          rw [Bool.or_eq_true, beq_iff_eq, beq_iff_eq] at word
          rcases word with same | same <;> simp [same, tokenValues]
        next => exact List.mem_cons_self

/-- A token stands for a value of its property or for a margin on one side. -/
theorem meaning?_cases {p : Property} {token : String} {m : Meaning}
    (found : meaning? p token = some m) :
    (∃ value, valueOf? p token = some value ∧ m = .value value) ∨
      m = .declaration "margin-top" "2rem" ∨ m = .declaration "margin-bottom" "2rem" := by
  unfold meaning? at found
  split at found
  next => exact .inr (.inl (Option.some.inj found).symm)
  next => exact .inr (.inr (Option.some.inj found).symm)
  next =>
    obtain ⟨value, valued, rfl⟩ := Option.map_eq_some_iff.mp found
    exact .inl ⟨value, valued, rfl⟩

end PageStudio.Style

namespace PageStudio.Css

open Style

variable {layer : Layer} {d : Declaration} {id : String}

/-! ## Declarations of a layer -/

theorem plain_of_mem_tokenValues : ∀ value ∈ tokenValues, Plain value := by decide +kernel

theorem plain_of_valueOf? {p : Property} {token value : String}
    (found : valueOf? p token = some value) : Plain value :=
  plain_of_mem_tokenValues value (mem_tokenValues_of_valueOf? found)

theorem plain_of_declaration? {p : Property} {value : String}
    (declared : declaration? p value = some d) : Plain d.2 := by
  unfold declaration? at declared
  split at declared
  next literal =>
    cases declared
    exact isDelimiter_of_isLiteral literal
  next =>
    split at declared
    next literal meant =>
      cases declared
      rcases meaning?_cases meant with ⟨value, valued, same⟩ | top | bottom
      · cases same
        exact plain_of_valueOf? valued
      · cases top
      · cases bottom
    next name literal meant =>
      cases declared
      rcases meaning?_cases meant with ⟨_, _, same⟩ | top | bottom
      · cases same
      · cases top
        decide
      · cases bottom
        decide
    next => cases declared

/-- The colour of a border is not trimmed, but has no delimiter in it either. -/
theorem plain_borderColor (color : Option String) : Plain (borderColor color) := by
  have fallback : Plain defaultBorderColor := by decide
  cases color with
  | none => exact fallback
  | some c =>
    show Plain (if isLiteral c then c else (valueOf? .borderColor c).getD defaultBorderColor)
    split
    next literal => exact isDelimiter_of_isLiteral literal
    next =>
      cases found : valueOf? .borderColor c with
      | none => exact fallback
      | some value => exact plain_of_valueOf? found

theorem plain_of_mem_border {value : String} {color : Option String}
    (declared : d ∈ border value color) : Plain d.2 := by
  unfold border at declared
  split at declared
  next =>
    rw [List.mem_singleton.mp declared]
    decide
  next =>
    rcases List.mem_cons.mp declared with rfl | dashed
    · have front : Plain "1px solid " := by decide
      exact front.append (plain_borderColor color)
    · split at dashed
      next =>
        rw [List.mem_singleton.mp dashed]
        decide
      next => cases dashed

theorem plain_of_mem_propertyDeclarations {p : Property} {value : String}
    (declared : d ∈ propertyDeclarations layer p value) : Plain d.2 := by
  unfold propertyDeclarations at declared
  simp only at declared
  split at declared
  next => cases declared
  next =>
    split at declared
    next => cases declared
    next => exact plain_of_mem_border declared
    next => exact plain_of_declaration? (Option.mem_toList.mp declared)

/-- Names of declarations are words. -/
theorem namesDeclaration_of_mem_names : ∀ {p : Property}, ∀ name ∈ names p,
    NamesDeclaration name := by
  intro p
  cases p <;> decide

/-- Whatever the values of a layer are, its declarations can be told apart. -/
theorem legible_of_mem_declarations (declared : d ∈ declarations layer) : LegibleDeclaration d := by
  obtain ⟨e, -, here⟩ := List.mem_flatMap.mp declared
  exact ⟨namesDeclaration_of_mem_names d.1 (mem_names here), plain_of_mem_propertyDeclarations here⟩

/-! ## Rules of a node -/

theorem legiblePrelude_selector (plain : Plain id) : LegiblePrelude (selector id) := by
  have hash : LegiblePrelude "#" := ⟨by decide, '#', [], rfl, rfl⟩
  exact hash.append plain

/-- Of a base layer, the rule has its declarations and the placing. -/
theorem mem_baseRule_iff {r : Rule} : r ∈ baseRule id layer ↔ declarations layer ≠ [] ∧
    r = ⟨selector id, ("position", "absolute") :: declarations layer⟩ := by
  unfold baseRule
  cases declarations layer with
  | nil => simp
  | cons d ds => simp

theorem mem_hoverRule_iff {r : Rule} : r ∈ hoverRule id layer ↔ declarations layer ≠ [] ∧
    r = ⟨selector id ++ ":hover", declarations layer⟩ := by
  unfold hoverRule
  cases declarations layer with
  | nil => simp
  | cons d ds => simp

theorem mem_viewportRules_iff {e : Element} {v : Viewport} {r : Rule} :
    r ∈ viewportRules e v ↔ ∃ a, e.styles.get? v.name = some a ∧
      (r ∈ baseRule e.id a.base ∨ ∃ hover, a.hover = some hover ∧ r ∈ hoverRule e.id hover) := by
  unfold viewportRules
  cases e.styles.get? v.name with
  | none => exact ⟨nofun, nofun⟩
  | some a =>
    simp only [Option.map_some, Option.getD_some, Option.some.injEq, exists_eq_left',
      appearanceRules, List.mem_append]
    refine or_congr_right ?_
    cases a.hover with
    | none => exact ⟨nofun, nofun⟩
    | some hover => simp only [Option.map_some, Option.getD_some, Option.some.injEq,
        exists_eq_left']

theorem legible_viewportRules {e : Element} (plain : Plain e.id) (v : Viewport) :
    ∀ r ∈ viewportRules e v, LegibleRule r := by
  intro r mem
  have front := legiblePrelude_selector plain
  obtain ⟨a, -, base | ⟨layer, -, hover⟩⟩ := mem_viewportRules_iff.mp mem
  · obtain ⟨-, rfl⟩ := mem_baseRule_iff.mp base
    refine ⟨front, List.forall_mem_cons.mpr ⟨by decide, fun d declared => ?_⟩⟩
    exact legible_of_mem_declarations declared
  · obtain ⟨-, rfl⟩ := mem_hoverRule_iff.mp hover
    exact ⟨front.append (by decide), fun d declared => legible_of_mem_declarations declared⟩

theorem plain_brief (x : Float) : Plain (Decimal.brief x) := by
  intro c mem
  have brief := Decimal.isBriefChar_of_mem_brief mem
  by_contra delimiter
  rw [Bool.not_eq_false] at delimiter
  simp only [isDelimiter, Bool.or_eq_true, decide_eq_true_eq] at delimiter
  rcases delimiter with (rfl | rfl) | rfl <;> exact absurd brief (by decide)

/-- Of the rules that kinds need, only those of progress bars depend on the content. -/
theorem legible_kindRules {e : Element} (plain : Plain e.id) :
    ∀ r ∈ kindRules e, LegibleRule r := by
  unfold kindRules
  split
  next =>
    have width : Plain (Decimal.brief (clampedPercent (e.content.progress.getD 0)) ++ "%") :=
      (plain_brief _).append (by decide)
    refine List.forall_mem_singleton.mpr ⟨(legiblePrelude_selector plain).append (by decide), ?_⟩
    exact List.forall_mem_cons.mpr ⟨⟨by dsimp only; decide, width⟩, by decide⟩
  next =>
    exact List.forall_mem_singleton.mpr ⟨legiblePrelude_selector plain, by dsimp only; decide⟩
  next =>
    exact List.forall_mem_singleton.mpr ⟨legiblePrelude_selector plain, by dsimp only; decide⟩
  next => nofun

end PageStudio.Css
