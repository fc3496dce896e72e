import PageStudio.Decimal.Places

/-!
# Style sheets

A style sheet is a list of rules, some of them inside a condition on the width of the screen, and of
animations. It is written with one rule a line.
-/

namespace PageStudio.Css

/-- A declaration: a name and a value. -/
abbrev Declaration := String × String

/-- What the elements of a selector look like. -/
structure Rule where
  selector : String
  declarations : List Declaration
deriving DecidableEq, Repr, Inhabited

/-- A part of a style sheet. -/
inductive Item where
  | rule (r : Rule)
  /-- Rules that apply up to a width in pixels. -/
  | upToWidth (pixels : Nat) (rules : List Rule)
  /-- An animation with the rules of its steps. -/
  | animation (name : String) (steps : List Rule)
deriving DecidableEq, Repr

/-- A style sheet. -/
abbrev Sheet := List Item

/-- A number in decimal digits. -/
def digits (n : Nat) : String := String.ofList (Nat.toDigits 10 n)

/-- A declaration with a blank behind it. -/
def declarationText (d : Declaration) : String := d.1 ++ ": " ++ d.2 ++ "; "

/-- Texts one behind another. -/
def concat (texts : List String) : String := texts.foldr (· ++ ·) ""

theorem concat_append (front back : List String) :
    concat (front ++ back) = concat front ++ concat back := by
  induction front with
  | nil => exact (String.empty_append).symm
  | cons s rest ih =>
    show s ++ concat (rest ++ back) = s ++ concat rest ++ concat back
    rw [ih, String.append_assoc]

/-- A rule without the end of its line. -/
def Rule.text (r : Rule) : String :=
  r.selector ++ " \x7b " ++ concat (r.declarations.map declarationText) ++ "\x7d"

/-- A rule on a line of its own. -/
def Rule.line (r : Rule) : String := r.text ++ "\n"

/-- A part of a style sheet, on its own lines. -/
def Item.text : Item → String
  | .rule r => r.line
  | .upToWidth pixels rules =>
    "@media (max-width: " ++ digits pixels ++ "px) \x7b\n" ++ concat (rules.map Rule.line) ++
      "\x7d\n"
  | .animation name steps =>
    "@keyframes " ++ name ++ " \x7b " ++ concat (steps.map fun r => r.text ++ " ") ++ "\x7d\n"

/-- The text of a style sheet. -/
def text (sheet : Sheet) : String := concat (sheet.map Item.text)

theorem text_append (front back : Sheet) : text (front ++ back) = text front ++ text back := by
  rw [text, List.map_append, concat_append]
  rfl

end PageStudio.Css
