import Mathlib.Algebra.GroupWithZero.Nat
import PageStudio.Css.Base
import PageStudio.Proofs.Css.Values

/-!
# Colours of a theme in the base style sheet

A colour of a theme is a name from the palette, which has no delimiter in it, or else a text that
starts like a hexadecimal colour and is written as it stands. A reader of a style sheet makes one
declaration of every semicolon and one block of every two braces, so what it reads tells how many
delimiters there were (`delimitersOf_statements?`). So a colour with a delimiter always changes what
the base style sheet is read as, and one without never does.

## Main statements

* `outline?_baseText_iff`: which themes have the rules and names of the default theme.
* `exists_outline?_baseText_ne`: a colour that ends its rule and begins another.
-/

namespace PageStudio.Css

open Style

variable {s t : String} {l : List Statement}

/-! ## Outlines -/

namespace Statement

mutual
/-- A statement without the values of its declarations. -/
def outline : Statement → Statement
  | .declaration name _ => .declaration name ""
  | .block prelude body => .block prelude (outlines body)

/-- Statements without the values of their declarations. -/
def outlines : List Statement → List Statement
  | [] => []
  | s :: rest => s.outline :: outlines rest
end

mutual
/-- How many delimiters a statement is written with. -/
def delimiters : Statement → Nat
  | .declaration _ _ => 1
  | .block _ body => 2 + delimitersOf body

/-- How many delimiters statements are written with. -/
def delimitersOf : List Statement → Nat
  | [] => 0
  | s :: rest => s.delimiters + delimitersOf rest
end

theorem delimitersOf_append (l l' : List Statement) :
    delimitersOf (l ++ l') = delimitersOf l + delimitersOf l' := by
  induction l with
  | nil => simp [delimitersOf]
  | cons s l ih => simp [delimitersOf, ih, Nat.add_assoc]

mutual
theorem delimiters_outline : (s : Statement) → s.outline.delimiters = s.delimiters
  | .declaration _ _ => rfl
  | .block _ body => by rw [outline, delimiters, delimiters, delimitersOf_outlines body]

/-- Values are not counted. -/
theorem delimitersOf_outlines : (l : List Statement) → delimitersOf (outlines l) = delimitersOf l
  | [] => rfl
  | s :: rest => by
    rw [outlines, delimitersOf, delimitersOf, delimiters_outline s, delimitersOf_outlines rest]
end

end Statement

open Statement

/-- The rules of a style sheet with the names that they declare, in order. -/
def outline? (s : String) : Option (List Statement) := (statements? s).map outlines

/-! ## Delimiters -/

/-- How many delimiters a text has in it. -/
def delimiterCount (s : String) : Nat := s.toList.countP isDelimiter

theorem delimiterCount_append (s t : String) :
    delimiterCount (s ++ t) = delimiterCount s + delimiterCount t := by
  simp [delimiterCount]

theorem plain_iff_delimiterCount : Plain s ↔ delimiterCount s = 0 := by
  simp [Plain, delimiterCount]

/-- The delimiters that have been read: those of the statements so far, and the opening brace of
each block around. -/
def Reading.delimiters (r : Reading) : Nat :=
  delimitersOf r.done + (r.around.map fun b => 1 + delimitersOf b.2).sum

theorem delimiters_step {r r' : Reading} {c : Char} (one : step r c = some r') :
    r'.delimiters = r.delimiters + if isDelimiter c then 1 else 0 := by
  unfold step at one
  split at one
  next opens =>
    cases one
    simp [Reading.delimiters, opens, isDelimiter, delimitersOf]
    omega
  next =>
    split at one
    next ends =>
      obtain ⟨d, read, rfl⟩ := Option.map_eq_some_iff.mp one
      obtain ⟨name, value, rfl⟩ : ∃ name value, d = .declaration name value := by
        unfold declarationOf? at read
        split at read
        · cases read
        · exact ⟨_, _, (Option.some.inj read).symm⟩
      simp [Reading.delimiters, ends, isDelimiter, delimitersOf_append, delimitersOf, delimiters]
      omega
    next =>
      split at one
      next closes =>
        split at one
        next prelude before around _ stack =>
          cases one
          simp [Reading.delimiters, closes, stack, isDelimiter, delimitersOf_append, delimitersOf,
            delimiters]
          omega
        next => cases one
      next notOpen notEnd notClose =>
        cases one
        simp [Reading.delimiters, isDelimiter, notOpen, notEnd, notClose]

/-- A reader keeps count of the delimiters. -/
theorem delimiters_foldlM {r r' : Reading} {s : List Char} (read : s.foldlM step r = some r') :
    r'.delimiters = r.delimiters + s.countP isDelimiter := by
  induction s generalizing r with
  | nil =>
    cases read
    simp
  | cons c s ih =>
    rw [List.foldlM_cons] at read
    obtain ⟨next, one, rest⟩ := Option.bind_eq_some_iff.mp read
    rw [ih rest, delimiters_step one, List.countP_cons]
    omega

/-- As many delimiters are read as there are. -/
theorem delimitersOf_statements? (read : statements? s = some l) :
    delimitersOf l = delimiterCount s := by
  unfold statements? at read
  split at read
  next piece done ended =>
    split at read
    next =>
      cases read
      simpa [Reading.delimiters, delimitersOf, delimiterCount] using delimiters_foldlM ended
    next => cases read
  next => cases read

/-- Texts with the same outline have the same number of delimiters. -/
theorem delimiterCount_of_outline? (read : outline? s = some l) :
    delimiterCount s = delimitersOf l := by
  obtain ⟨whole, all, rfl⟩ := Option.map_eq_some_iff.mp read
  rw [delimitersOf_outlines, delimitersOf_statements? all]

/-! ## Delimiters of rules -/

theorem delimiterCount_line (r : Rule) :
    delimiterCount r.line = delimiterCount r.selector + 2 +
      (r.declarations.map fun d => delimiterCount d.1 + delimiterCount d.2 + 1).sum := by
  have opening : delimiterCount " \x7b " = 1 := by decide
  have closing : delimiterCount "\x7d" = 1 := by decide
  have ended : delimiterCount "\n" = 0 := by decide
  have declarations (ds : List Declaration) : delimiterCount (concat (ds.map declarationText)) =
      (ds.map fun d => delimiterCount d.1 + delimiterCount d.2 + 1).sum := by
    have colon : delimiterCount ": " = 0 := by decide
    have semicolon : delimiterCount "; " = 1 := by decide
    induction ds with
    | nil => rfl
    | cons d ds ih =>
      show delimiterCount (declarationText d ++ concat (ds.map declarationText)) = _
      simp [delimiterCount_append, declarationText, ih, colon, semicolon]
  simp only [Rule.line, Rule.text, delimiterCount_append, declarations, opening, closing, ended]
  omega

/-- The texts of a theme, as they are written. -/
def themeTexts (theme : Theme) : List String :=
  [theme.fontFamily, themeColor theme.bodyBackground fallbackBackground,
    themeColor theme.bodyColor fallbackText]

/-- The base style sheet has the delimiters of the texts of the theme, beside those that it always
has. -/
theorem exists_delimiterCount_baseText (frame : Viewport) :
    ∃ always, ∀ theme, delimiterCount (baseText theme frame) =
      ((themeTexts theme).map delimiterCount).sum + always := by
  let others := concat ((pageRules ++ frameRule frame :: widgetRules).map Rule.line)
  refine ⟨5 + delimiterCount others, fun theme => ?_⟩
  have cut : baseText theme frame = (themeRule theme).line ++ others := by
    simp only [baseText, baseSheet, text, List.cons_append, List.map_cons, List.map_map]
    rfl
  have root : delimiterCount ":root" = 0 := by decide
  have names : delimiterCount "--font-family" = 0 ∧ delimiterCount "--background-color" = 0 ∧
      delimiterCount "--text-color" = 0 := by decide
  rw [cut, delimiterCount_append, delimiterCount_line]
  simp only [themeRule, themeTexts, List.map_cons, List.map_nil, List.sum_cons, List.sum_nil, root,
    names]
  omega

/-! ## Reading the base style sheet -/

theorem legible_fixedRules : ∀ r ∈ pageRules ++ widgetRules, LegibleRule r := by decide +kernel

theorem legible_themeRule {theme : Theme} (plain : ∀ s ∈ themeTexts theme, Plain s) :
    LegibleRule (themeRule theme) := by
  simp only [themeTexts, List.forall_mem_cons] at plain
  obtain ⟨font, background, color, -⟩ := plain
  refine ⟨(by decide : LegiblePrelude ":root"), ?_⟩
  refine List.forall_mem_cons.mpr ⟨⟨(by decide : NamesDeclaration "--font-family"), font⟩, ?_⟩
  refine List.forall_mem_cons.mpr
    ⟨⟨(by decide : NamesDeclaration "--background-color"), background⟩, ?_⟩
  exact List.forall_mem_singleton.mpr ⟨(by decide : NamesDeclaration "--text-color"), color⟩

theorem legible_frameRule (frame : Viewport) : LegibleRule (frameRule frame) := by
  have pixels : ∀ n, Plain (digits n ++ "px") := fun n => (plain_digits n).append (by decide)
  refine ⟨(by decide : LegiblePrelude "#page-frame"), ?_⟩
  refine List.forall_mem_cons.mpr ⟨by decide, List.forall_mem_cons.mpr ⟨by decide, ?_⟩⟩
  refine List.forall_mem_cons.mpr ⟨⟨(by decide : NamesDeclaration "max-width"), pixels _⟩, ?_⟩
  refine List.forall_mem_cons.mpr ⟨⟨(by decide : NamesDeclaration "height"), pixels _⟩, ?_⟩
  decide

/-- The outline of the base style sheet with the default theme. -/
def baseOutline : List Statement :=
  outlines ((baseSheet {} Viewport.desktop).map Item.statement)

/-- Where no text of the theme has a delimiter, the base style sheet has the outline of the default
theme, whatever the frame is. -/
theorem outline?_baseText_of_plain {theme : Theme} (plain : ∀ s ∈ themeTexts theme, Plain s)
    (frame : Viewport) : outline? (baseText theme frame) = some baseOutline := by
  have fixed := List.forall_mem_append.mp legible_fixedRules
  have legible : ∀ r ∈ themeRule theme :: pageRules ++ frameRule frame :: widgetRules,
      LegibleRule r :=
    List.forall_mem_append.mpr
      ⟨List.forall_mem_cons.mpr ⟨legible_themeRule plain, fixed.1⟩,
        List.forall_mem_cons.mpr ⟨legible_frameRule frame, fixed.2⟩⟩
  have read : statements? (baseText theme frame) =
      some ((baseSheet theme frame).map Item.statement) :=
    statements?_text (List.forall_mem_map.mpr fun r _ => (by decide : Plain ""))
      (List.forall_mem_map.mpr fun r mem => List.forall_mem_singleton.mpr (legible r mem))
  rw [outline?, read]
  rfl

/-! ## Colours of themes -/

/-- A text that starts like a hexadecimal colour has no delimiter in it. -/
def HarmlessColor (value : String) : Prop := value.toList.head? = some '#' → Plain value

instance (value : String) : Decidable (HarmlessColor value) :=
  inferInstanceAs (Decidable (_ → _))

/-- A colour of a theme has no delimiter in it exactly if it is harmless. -/
theorem plain_themeColor_iff {value fallback : String} (known : Plain fallback) :
    Plain (themeColor value fallback) ↔ HarmlessColor value := by
  rcases themeColor_cases value fallback with ⟨first, same⟩ | ⟨other, mem⟩
  · rw [same]
    exact (imp_iff_right first).symm
  · refine iff_of_true ?_ fun first => absurd first other
    exact List.forall_mem_cons.mpr ⟨known, plain_of_mem_tokenValues⟩ _ mem

theorem plain_themeTexts_iff {theme : Theme} (font : Plain theme.fontFamily) :
    (∀ s ∈ themeTexts theme, Plain s) ↔
      HarmlessColor theme.bodyBackground ∧ HarmlessColor theme.bodyColor := by
  have background : Plain (themeColor theme.bodyBackground fallbackBackground) ↔
      HarmlessColor theme.bodyBackground := plain_themeColor_iff (by decide)
  have color : Plain (themeColor theme.bodyColor fallbackText) ↔
      HarmlessColor theme.bodyColor := plain_themeColor_iff (by decide)
  simp [themeTexts, font, background, color]

theorem plain_themeTexts_default : ∀ s ∈ themeTexts {}, Plain s :=
  (plain_themeTexts_iff (by decide)).mpr (by decide)

/-- A text of the theme with a delimiter changes the outline, since every delimiter is read. -/
theorem plain_of_outline?_baseText {theme : Theme} {frame : Viewport}
    (same : outline? (baseText theme frame) = some baseOutline) :
    ∀ s ∈ themeTexts theme, Plain s := by
  have default := outline?_baseText_of_plain plain_themeTexts_default frame
  obtain ⟨always, counted⟩ := exists_delimiterCount_baseText frame
  have none : ∀ n ∈ (themeTexts {}).map delimiterCount, n = 0 :=
    List.forall_mem_map.mpr fun s mem =>
      plain_iff_delimiterCount.mp (plain_themeTexts_default s mem)
  have counts : ((themeTexts theme).map delimiterCount).sum + always =
      ((themeTexts {}).map delimiterCount).sum + always := by
    rw [← counted, ← counted, delimiterCount_of_outline? same, delimiterCount_of_outline? default]
  rw [List.sum_eq_zero_iff_forall_eq_nat.mpr none, Nat.add_right_cancel_iff] at counts
  intro s mem
  exact plain_iff_delimiterCount.mpr
    (List.sum_eq_zero_iff_forall_eq_nat.mp counts _ (List.mem_map_of_mem mem))

/-- With a font that has no delimiter, the base style sheet has the rules of the default theme and
declares the same names, in the same order, exactly if the colours are harmless: whatever else they
are, they have no delimiter where they start like a hexadecimal colour. For no other reason a colour
of a theme has one. -/
theorem outline?_baseText_iff {theme : Theme} (font : Plain theme.fontFamily) (frame : Viewport) :
    outline? (baseText {} frame) = some baseOutline ∧
    (outline? (baseText theme frame) = some baseOutline ↔
      HarmlessColor theme.bodyBackground ∧ HarmlessColor theme.bodyColor) ∧
    ∀ value fallback, Plain fallback → (Plain (themeColor value fallback) ↔ HarmlessColor value) := by
  refine ⟨outline?_baseText_of_plain plain_themeTexts_default frame, ?_,
    fun value fallback => plain_themeColor_iff⟩
  rw [← plain_themeTexts_iff font]
  exact ⟨plain_of_outline?_baseText, fun plain => outline?_baseText_of_plain plain frame⟩

/-- A theme with a name that has a delimiter in it and a text that only starts like a colour. -/
def strange : Theme :=
  { fontFamily := "'<!--", bodyBackground := "bg-red-500; \x7d body \x7b", bodyColor := "#:/*" }

theorem outline?_baseText_iff_strange :
    Plain strange.fontFamily ∧ HarmlessColor strange.bodyBackground ∧
      HarmlessColor strange.bodyColor ∧
      outline? (baseText strange Viewport.mobile) = some baseOutline := by
  have font : Plain strange.fontFamily := by decide
  have background : HarmlessColor strange.bodyBackground := by decide
  have color : HarmlessColor strange.bodyColor := by decide
  exact ⟨font, background, color,
    (outline?_baseText_iff font Viewport.mobile).2.1.mpr ⟨background, color⟩⟩

/-- A colour can end the rule that it stands in and begin another one. -/
theorem exists_outline?_baseText_ne :
    ∃ theme : Theme, Plain theme.fontFamily ∧
      themeColor theme.bodyBackground fallbackBackground = "#fff; \x7d body \x7b display: none" ∧
      ∀ frame, outline? (baseText theme frame) ≠ outline? (baseText {} frame) := by
  refine ⟨⟨"serif", "#fff; \x7d body \x7b display: none", "black"⟩, by decide, by decide,
    fun frame same => ?_⟩
  rw [outline?_baseText_of_plain plain_themeTexts_default] at same
  have plain := plain_of_outline?_baseText same
  simp only [themeTexts, List.forall_mem_cons] at plain
  exact absurd plain.2.1 (by decide)

end PageStudio.Css
