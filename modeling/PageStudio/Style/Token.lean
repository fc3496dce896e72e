import PageStudio.Decimal.Reading
import PageStudio.Style.Property
import PageStudio.Text.Blank
import PageStudio.Text.Piece

/-!
# Style values

A style value is a literal, which stands in a style sheet as it is, or the name of a token, which
stands for a literal. Which tokens there are depends on the property.

A literal can end neither its declaration nor its rule: it has no semicolon and no brace.
-/

namespace PageStudio.Style

/-- What a token stands for. -/
inductive Meaning where
  /-- A value of the property that the token is given to. -/
  | value (literal : String)
  /-- A declaration of another name. -/
  | declaration (name literal : String)
deriving DecidableEq, Repr

/-! ## Tables -/

/-- The palette of colours. -/
def colors : List (String × String) :=
  [("white", "#ffffff"), ("black", "#000000"),
   ("gray-100", "#f3f4f6"), ("gray-200", "#e5e7eb"), ("gray-300", "#d1d5db"),
   ("gray-400", "#9ca3af"), ("gray-500", "#6b7280"), ("gray-600", "#4b5563"),
   ("gray-700", "#374151"), ("gray-800", "#1f2937"), ("gray-900", "#111827"),
   ("red-400", "#f87171"), ("orange-400", "#fb923c"), ("yellow-400", "#facc15"),
   ("green-400", "#4ade80"), ("teal-400", "#2dd4bf"), ("blue-400", "#60a5fa"),
   ("indigo-400", "#818cf8"), ("purple-400", "#a78bfa"), ("pink-400", "#f472b6"),
   ("red-500", "#ef4444"), ("orange-500", "#f97316"), ("yellow-500", "#eab308"),
   ("green-500", "#22c55e"), ("teal-500", "#14b8a6"), ("blue-500", "#3b82f6"),
   ("indigo-500", "#6366f1"), ("purple-500", "#8b5cf6"), ("pink-500", "#ec4899"),
   ("red-600", "#dc2626"), ("orange-600", "#ea580c"), ("yellow-600", "#ca8a04"),
   ("green-600", "#16a34a"), ("teal-600", "#0d9488"), ("blue-600", "#2563eb"),
   ("indigo-600", "#4f46e5"), ("purple-600", "#7c3aed"), ("pink-600", "#db2777")]

/-- The tokens of paddings. -/
def paddings : List (String × String) :=
  [("p-0", "0"), ("p-1", "0.25rem"), ("p-2", "0.5rem"), ("p-4", "1rem"), ("p-6", "1.5rem"),
   ("p-8", "2rem")]

/-- The tokens of margins on all sides. -/
def margins : List (String × String) :=
  [("m-0", "0"), ("m-1", "0.25rem"), ("m-2", "0.5rem"), ("m-4", "1rem"), ("m-6", "1.5rem"),
   ("m-8", "2rem")]

/-- The tokens of widths. -/
def widths : List (String × String) :=
  [("w-auto", "auto"), ("w-full", "100%"), ("w-1/2", "50%"), ("w-1/3", "33.333333%"),
   ("w-1/4", "25%"), ("w-screen", "100vw")]

/-- The tokens of heights. -/
def heights : List (String × String) :=
  [("h-auto", "auto"), ("h-full", "100%"), ("h-1/2", "50%"), ("h-1/3", "33.333333%"),
   ("h-1/4", "25%"), ("h-screen", "100vh"), ("h-96", "24rem")]

/-- The tokens of font sizes. -/
def fontSizes : List (String × String) :=
  [("text-xs", "0.75rem"), ("text-sm", "0.875rem"), ("text-base", "1rem"),
   ("text-lg", "1.125rem"), ("text-xl", "1.25rem"), ("text-2xl", "1.5rem"),
   ("text-4xl", "2.25rem")]

/-- The tokens of font weights. -/
def fontWeights : List (String × String) :=
  [("font-light", "300"), ("font-normal", "400"), ("font-medium", "500"),
   ("font-semibold", "600"), ("font-bold", "700")]

/-- The tokens of lines at a text. -/
def textDecorations : List (String × String) :=
  [("none", "none"), ("underline", "underline"), ("line-through", "line-through"),
   ("overline", "overline")]

/-- The tokens of rounded corners. -/
def borderRadii : List (String × String) :=
  [("rounded-none", "0px"), ("rounded-sm", "0.125rem"), ("rounded", "0.25rem"),
   ("rounded-md", "0.375rem"), ("rounded-lg", "0.5rem"), ("rounded-full", "9999px")]

/-- The tokens of shadows. -/
def boxShadows : List (String × String) :=
  [("shadow-none", "0 0 #0000"),
   ("shadow-sm", "0 1px 2px 0 rgb(0 0 0 / 0.05)"),
   ("shadow-md", "0 4px 6px -1px rgb(0 0 0 / 0.1), 0 2px 4px -2px rgb(0 0 0 / 0.1)"),
   ("shadow-lg", "0 10px 15px -3px rgb(0 0 0 / 0.1), 0 4px 6px -4px rgb(0 0 0 / 0.1)"),
   ("shadow-xl", "0 20px 25px -5px rgb(0 0 0 / 0.1), 0 8px 10px -6px rgb(0 0 0 / 0.1)"),
   ("shadow-2xl", "0 25px 50px -12px rgb(0 0 0 / 0.25)"),
   ("shadow-inner", "inset 0 2px 4px 0 rgb(0 0 0 / 0.05)")]

/-- The words that are literals. -/
def keywords : List String :=
  ["auto", "none", "inherit", "initial", "unset", "transparent", "currentColor"]

/-! ## Literals -/

/-- Whether a character can end a declaration or a rule. -/
def isDelimiter (c : Char) : Bool := c = ';' || c = '\x7b' || c = '\x7d'

/-- Whether a number can start with a character. -/
def startsNumber : List Char → Bool
  | c :: _ => Decimal.isDigit c || c = '.'
  | [] => false

/-- Whether a value without blanks around it has the shape of a literal: a colour, a number, the
use of a function, or one of the words. -/
def hasLiteralShape (s : List Char) : Bool :=
  match s with
  | [] => false
  | '#' :: _ => true
  | '-' :: rest => startsNumber rest
  | _ =>
    startsNumber s || (s.getLast? == some ')' && s.contains '(') ||
      keywords.contains (String.ofList s)

/-- Whether a value is a literal. -/
def isLiteral (value : String) : Bool :=
  let s := Text.trim value.toList
  !s.any isDelimiter && hasLiteralShape s

/-! ## Tokens -/

/-- The colour that a name with a known beginning says. -/
def colorBehind? (front token : String) : Option String :=
  (Text.dropFront? front.toList token.toList).bind fun name => colors.lookup (String.ofList name)

/-- The value that a token stands for, where it stands for one of the property itself. -/
def valueOf? (p : Property) (token : String) : Option String :=
  match p with
  | .padding => paddings.lookup token
  | .margin => margins.lookup token
  | .width => widths.lookup token
  | .height | .minHeight => heights.lookup token
  | .backgroundColor | .barColor =>
    if token == "bg-transparent" then some "transparent" else colorBehind? "bg-" token
  | .textColor => if token == "text-inherit" then some "inherit" else colorBehind? "text-" token
  | .borderColor => colorBehind? "border-" token
  | .fontSize => fontSizes.lookup token
  | .fontWeight => fontWeights.lookup token
  | .textDecoration => textDecorations.lookup token
  | .borderRadius => borderRadii.lookup token
  | .boxShadow => boxShadows.lookup token
  | .top | .left | .zIndex | .border => none

/-- What a token stands for where it is given to a property. Margins on one side are declarations of
their own. -/
def meaning? (p : Property) (token : String) : Option Meaning :=
  match p, token with
  | .margin, "mt-8" => some (.declaration "margin-top" "2rem")
  | .margin, "mb-8" => some (.declaration "margin-bottom" "2rem")
  | p, token => (valueOf? p token).map .value

/-- The colour of a theme: a hexadecimal one as it is, and the name of one with or without the
beginning that a token has. Any other text stands for the fallback. -/
def themeColor (value fallback : String) : String :=
  match value.toList with
  | '#' :: _ => value
  | s =>
    let fronts := ["bg-", "text-", "border-"]
    let name := String.ofList ((fronts.findSome? fun f => Text.dropFront? f.toList s).getD s)
    match colors.lookup name with
    | some color => color
    | none => if name == "transparent" || name == "inherit" then name else fallback

end PageStudio.Style
