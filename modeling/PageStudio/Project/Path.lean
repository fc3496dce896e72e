import PageStudio.Text.Piece

/-!
# Paths

A path is a text with slashes between its parts. One that starts with a slash stands for itself, any
other is taken from the current folder. Neither a path nor a name in it can have any length.
-/

namespace PageStudio.Path

/-- The length of the longest name, in bytes. -/
def longestName : Nat := 255

/-- The length of the longest path, in bytes. -/
def longestPath : Nat := 4095

/-- A path taken from another. -/
def join (base path : String) : String :=
  match path.toList with
  | '/' :: _ => path
  | _ =>
    match base.toList.getLast? with
    | none | some '/' => base ++ path
    | some _ => base ++ "/" ++ path

/-- Whether a path stands for itself. -/
def isAbsolute (path : String) : Bool := path.toList.head? == some '/'

/-- Whether a path can be followed: it is not too long, and the zero character is not in it. -/
def canFollow (path : String) : Bool :=
  path.utf8ByteSize ≤ longestPath && !path.toList.contains '\x00'

/-- Whether a file or a folder can have a name. -/
def canName (name : String) : Bool := name.utf8ByteSize ≤ longestName

/-- The parts of a path between its slashes. -/
def parts (path : String) : List String := (Text.splitAt '/' path.toList).map String.ofList

/-- The path of parts. -/
def ofParts (parts : List String) : String := "/".intercalate parts

end PageStudio.Path
