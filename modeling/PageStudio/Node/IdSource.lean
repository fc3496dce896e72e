import PageStudio.Decimal.Reading
import PageStudio.Node.Kind
import PageStudio.Text.Checksum
import PageStudio.Text.Slug

/-!
# Sources of ids

A source hands out ids for nodes and pages: a beginning that tells what it is for, the seed of the
source, and a count that grows with every id.

Counts are meant to be numbers of 64 bits, though the type has all numbers: there is no id behind
the last count of 64 bits. So what is promised of an id is promised as long as its count is below
`UInt64.size`.
-/

namespace PageStudio

/-- A source of ids. -/
structure IdSource where
  seed : String
  /-- The count in the last id, or zero. It is meant to stay below `UInt64.size`. -/
  count : Nat := 0
deriving DecidableEq, Inhabited

namespace IdSource

/-- A source whose seed is the checksum of a text. -/
def ofText (text : String) : IdSource := { seed := Text.checksumHex text }

/-- The id with a beginning and a count. -/
def idAt (ids : IdSource) (front : String) (count : Nat) : String :=
  front ++ "-" ++ ids.seed ++ "-" ++ String.ofList (Nat.toDigits 10 count)

/-- The next id with a beginning, and the source behind it. It is an id as long as its count is one
of 64 bits. -/
def next (ids : IdSource) (front : String) : String × IdSource :=
  (ids.idAt front (ids.count + 1), { ids with count := ids.count + 1 })

/-- An id for a node of a kind. -/
def nodeId (ids : IdSource) (kind : Kind) : String × IdSource := ids.next kind.slug

/-- What the id of a page starts with: the slug of its name. -/
def pageFront (name : String) : String :=
  if (Text.slug name).isEmpty then "page" else Text.slug name

/-- An id for a page of a name. -/
def pageId (ids : IdSource) (name : String) : String × IdSource := ids.next (pageFront name)

/-- The mark of a source in its ids. -/
def mark (ids : IdSource) : String := "-" ++ ids.seed ++ "-"

/-- The count in an id that carries the mark of the source: what follows the last mark, where that
is a number of 64 bits. -/
def countIn? (ids : IdSource) (id : String) : Option Nat :=
  (Text.afterLast? ids.mark.toList id.toList).bind (Decimal.readNatural? UInt64.size)

/-- The source behind the count of an id. -/
def reserveOne (ids : IdSource) (id : String) : IdSource :=
  match ids.countIn? id with
  | some n => { ids with count := max ids.count n }
  | none => ids

/-- The source behind the counts of ids that are in use. -/
def reserve (ids : IdSource) (used : List String) : IdSource := used.foldl reserveOne ids

end IdSource

end PageStudio
