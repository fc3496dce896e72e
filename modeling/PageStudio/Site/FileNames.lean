import PageStudio.Document.Page
import PageStudio.Dict
import PageStudio.Text.Slug

/-!
# File names of pages

The first page is `index.html`. The others are named for their slugs, with a number behind it
where the name is taken.
-/

namespace PageStudio.Site

/-- What the file name of a page that is not the first starts with: the characters of its slug that
may stand in a name. -/
def stem (p : Page) : String :=
  let s := String.ofList ((Text.slug p.name).toList.filter Text.isNameChar)
  if s.isEmpty then "page" else s

/-- A file name with a number, which the first one lacks. -/
def numbered (stem : String) (n : Nat) : String :=
  if n ≤ 1 then stem ++ ".html"
  else stem ++ "-" ++ String.ofList (Nat.toDigits 10 n) ++ ".html"

/-- The first number from `n` on whose file name is free, within `tries` numbers. -/
def freeNumber (taken : List String) (stem : String) : (tries n : Nat) → Nat
  | 0, n => n
  | tries + 1, n =>
    if taken.contains (numbered stem n) then freeNumber taken stem tries (n + 1) else n

/-- A file name that is not taken. Of more numbers than there are names taken, one is free. -/
def freeName (taken : List String) (stem : String) : String :=
  numbered stem (freeNumber taken stem taken.length 1)

/-- The ids of pages with their file names, `taken` being the names that are given away. -/
def namesFrom (taken : List String) : List Page → List (String × String)
  | [] => []
  | p :: rest =>
    let name := freeName taken (if taken.isEmpty then "index" else stem p)
    (p.id, name) :: namesFrom (name :: taken) rest

/-- The file name of every page, by the ids of the pages. -/
def fileNames (pages : List Page) : Dict String String := Dict.ofList (namesFrom [] pages)

end PageStudio.Site
