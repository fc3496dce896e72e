import PageStudio.Dict
import PageStudio.Project.Path

/-!
# Folders

What commands see of the folder that they run in, what they do to it, and a folder in memory that
this can be done to. A folder in memory knows nothing of what is around it: nothing can be read
there, and what is written beside it is lost.

## Main definitions

* `Action`: a single thing that a command does.
* `Folder.run`: does actions until one fails.
-/

namespace PageStudio

/-- What is found at a path. -/
inductive FileState where
  | missing
  /-- Something that has no text, such as a folder. -/
  | unreadable
  | text (content : String)
deriving DecidableEq, Inhabited

/-- A folder as a command sees it: where it is, and what is found at the paths inside. -/
structure Surroundings where
  location : String
  look : String → FileState

/-- A path as it is shown, from where the folder is. -/
def Surroundings.shown (s : Surroundings) (path : String) : String := Path.join s.location path

/-- A thing that a command does. -/
inductive Action where
  /-- Prints a text. -/
  | print (text : String)
  /-- Makes a folder and all folders around it that are missing. -/
  | makeFolder (path : String)
  /-- Writes a file, in place of one that is there. -/
  | write (path text : String)
deriving DecidableEq

/-- A folder in memory. -/
structure Folder where
  /-- The texts of files by their paths. -/
  files : Dict String String
  /-- Folders that were made, by their paths. Those around files need not be named. -/
  folders : List String := []

namespace Folder

/-- Whether a path starts with the parts of another and goes on. -/
def isInside (parts : List String) (path : String) : Bool :=
  (Path.parts path).length > parts.length && (Path.parts path).take parts.length == parts

/-- Whether parts lead to the folder itself or to one around it: they are two dots each. -/
def isAround (parts : List String) : Bool := parts.all (· == "..")

/-- Whether there is a folder at some parts. -/
def hasFolder (f : Folder) (parts : List String) : Bool :=
  isAround parts || f.folders.contains (Path.ofParts parts) || f.files.keys.any (isInside parts)

/-- One part further: only a folder has parts, and two dots lead to the folder around it. None where
there is no way. -/
def enter (f : Folder) (parts : List String) (part : String) : Option (List String) :=
  if !f.hasFolder parts then none
  else if part == "" || part == "." then some parts
  else if part == ".." then some (if isAround parts then parts ++ [part] else parts.dropLast)
  else if Path.canName part then some (parts ++ [part])
  else none

/-- Where a path leads. None where there is no way, and for all that is at absolute paths. -/
def placeOf (f : Folder) (path : String) : Option (List String) :=
  if Path.isAbsolute path || !Path.canFollow path then none
  else (Path.parts path).foldlM f.enter []

/-- What is found at a path. -/
def look (f : Folder) (path : String) : FileState :=
  match f.placeOf path with
  | some parts =>
    match f.files.get? (Path.ofParts parts) with
    | some text => .text text
    | none => if f.hasFolder parts then .unreadable else .missing
  | none => .missing

/-- Makes the folder at some parts, unless a file is there. -/
def makeAt (f : Folder) (parts : List String) : Option Folder :=
  if f.hasFolder parts then some f
  else if f.files.contains (Path.ofParts parts) then none
  else some { f with folders := Path.ofParts parts :: f.folders }

/-- Goes one part further and makes the folder there. -/
def makeNext (place : Folder × List String) (part : String) : Option (Folder × List String) := do
  let (f, parts) := place
  let parts ← f.enter parts part
  return (← f.makeAt parts, parts)

/-- Makes a folder and the folders on the way. A single dot names nothing that could be made: before
a dot at the end, only the folders around are made, and the folder must be there then. None where a
file is in the way. -/
def makeFolder (f : Folder) (path : String) : Option Folder := do
  guard (!Path.isAbsolute path && Path.canFollow path)
  let steps := (Path.parts path).filter (· != "")
  if steps.getLast? == some "." then
    let names := steps.filter (· != ".")
    let (f, parts) ← names.dropLast.foldlM makeNext (f, [])
    let parts ← names.getLast?.toList.foldlM f.enter parts
    if f.hasFolder parts then some f else none
  else
    let (f, _) ← steps.foldlM makeNext (f, [])
    some f

/-- Writes a file. None where its folder does not exist, or is the file itself. -/
def write (f : Folder) (path text : String) : Option Folder := do
  let parts ← f.placeOf path
  if f.hasFolder parts then none
  else if parts.head? == some ".." then some f
  else some { f with files := f.files.insert (Path.ofParts parts) text }

/-- What actions come to: whether all were done, what was printed, and the folder behind them. -/
structure Result where
  done : Bool
  printed : String
  folder : Folder

/-- Does one action, if all before it were done. -/
def Result.next (r : Result) (a : Action) : Result :=
  if r.done then
    match a with
    | .print text => { r with printed := r.printed ++ text }
    | .makeFolder path =>
      match r.folder.makeFolder path with
      | some folder => { r with folder }
      | none => { r with done := false }
    | .write path text =>
      match r.folder.write path text with
      | some folder => { r with folder }
      | none => { r with done := false }
  else r

/-- Does actions until one fails. -/
def run (f : Folder) (actions : List Action) : Result :=
  actions.foldl Result.next ⟨true, "", f⟩

end Folder

end PageStudio
