import PageStudio.Css.Sheet
import PageStudio.Html.Escape

/-!
# Markup

Markup is a tree before it is text. Blocks stand on lines of their own and may hold other blocks;
what stands inside a line is inline. Only writing the tree makes tags, so every tag has its end.

## Main definitions

* `Block.lines`: the lines of a block with their depths, which no option changes.
* `write`: the text, over several indented lines or without any white space between tags.
-/

namespace PageStudio.Html

/-- An attribute of a tag. -/
inductive Attribute where
  | value (name text : String)
  /-- An attribute that says something by being there. -/
  | flag (name : String)
deriving DecidableEq, Repr

/-- Markup inside a line. -/
inductive Inline where
  | text (s : String)
  /-- A character by its name or number. -/
  | entity (name : String)
  | comment (s : String)
  | element (tag : String) (attributes : List Attribute) (content : List Inline)
  /-- An element that can have no content. -/
  | empty (tag : String) (attributes : List Attribute)

/-- Markup on lines of its own. -/
inductive Block where
  | line (content : Inline)
  /-- An element with its tags on lines of their own and its content between them. -/
  | group (tag : String) (attributes : List Attribute) (content : List Block)

/-- The written form of an attribute, with a blank in front. -/
def Attribute.written : Attribute → String
  | value name text => " " ++ name ++ "=\"" ++ escape text ++ "\""
  | flag name => " " ++ name

/-- The written form of attributes. -/
def attributesText (attributes : List Attribute) : String :=
  Css.concat (attributes.map Attribute.written)

/-- The opening tag of an element. -/
def openTag (tag : String) (attributes : List Attribute) : String :=
  "<" ++ tag ++ attributesText attributes ++ ">"

/-- The closing tag of an element. -/
def closeTag (tag : String) : String := "</" ++ tag ++ ">"

mutual
/-- The written form of markup inside a line. -/
def Inline.written : Inline → String
  | .text s => escape s
  | .entity name => "&" ++ name ++ ";"
  | .comment s => "<!-- " ++ escapeComment s ++ " -->"
  | .element tag attributes content =>
    openTag tag attributes ++ contentText content ++ closeTag tag
  | .empty tag attributes => "<" ++ tag ++ attributesText attributes ++ " />"

/-- The written form of the content of an element. -/
def contentText : List Inline → String
  | [] => ""
  | i :: rest => i.written ++ contentText rest
end

mutual
/-- The lines of a block and how much deeper than `depth` each stands. -/
def Block.lines (depth : Nat) : Block → List (Nat × String)
  | .line content => [(depth, content.written)]
  | .group tag attributes content =>
    (depth, openTag tag attributes) :: linesOf (depth + 1) content ++ [(depth, closeTag tag)]

/-- The lines of blocks one below another. -/
def linesOf (depth : Nat) : List Block → List (Nat × String)
  | [] => []
  | b :: rest => b.lines depth ++ linesOf depth rest
end

/-- How markup is laid out. -/
structure Format where
  /-- Whether there are lines at all. -/
  pretty : Bool := true
  /-- What a line starts with for each level. -/
  indent : String := "  "
  /-- The level of the outermost blocks. -/
  depth : Nat := 0

/-- A text repeated. -/
def repeated (s : String) (times : Nat) : String := Css.concat (List.replicate times s)

/-- A line in a format. -/
def Format.line (f : Format) (l : Nat × String) : String :=
  if f.pretty then repeated f.indent (f.depth + l.1) ++ l.2 ++ "\n" else l.2

/-- The text of blocks in a format. -/
def write (f : Format) (blocks : List Block) : String :=
  Css.concat ((linesOf 0 blocks).map f.line)

end PageStudio.Html
