import PageStudio.Json.Token

/-!
# Parsed JSON texts

Parsing never fails. A `Source` is the tree of a text, and what is wrong with the text is marked
in it where it stands, because readers differ in what they mind: one that skips a member does not
look at the numbers, texts and depth inside it, and one that refuses a value early never sees a
fault behind it.

A text may nest arrays and objects 127 levels deep.
-/

namespace PageStudio.Json

/-- The tree of a text. -/
inductive Source where
  | null
  | bool (b : Bool)
  /-- A number; none when it is out of range. -/
  | number (value : Option Number)
  /-- A text; none when it has a surrogate without its partner. -/
  | string (text : Option String)
  | array (items : List Source)
  | object (members : List (Option String × Source))
  /-- An array or object inside too many others. -/
  | tooDeep (inner : Source)
  /-- The place where the text stops being JSON. Nothing comes behind it. -/
  | broken
deriving Inhabited

namespace Source

/-- Marks an array or object that no level is left for. -/
def enclosed (levels : Nat) (v : Source) : Source := if levels = 0 then .tooDeep v else v

mutual
/-- The value that starts with the first token, and the tokens behind it. -/
def parseValue : (fuel levels : Nat) → List Token → Source × List Token
  | 0, _, _ => (.broken, [])
  | fuel + 1, levels, ts =>
    match ts with
    | .null :: rest => (.null, rest)
    | .bool b :: rest => (.bool b, rest)
    | .number n :: rest => (.number n, rest)
    | .string s :: rest => (.string s, rest)
    | .openArray :: .closeArray :: rest => (enclosed levels (.array []), rest)
    | .openArray :: rest =>
      let (items, after) := parseItems fuel (levels - 1) rest
      (enclosed levels (.array items), after)
    | .openObject :: .closeObject :: rest => (enclosed levels (.object []), rest)
    | .openObject :: rest =>
      let (members, after) := parseMembers fuel (levels - 1) rest
      (enclosed levels (.object members), after)
    | _ => (.broken, [])

/-- The items up to the closing bracket, and the tokens behind it. -/
def parseItems : (fuel levels : Nat) → List Token → List Source × List Token
  | 0, _, _ => ([.broken], [])
  | fuel + 1, levels, ts =>
    let (v, rest) := parseValue fuel levels ts
    match rest with
    | .closeArray :: after => ([v], after)
    | .comma :: rest =>
      let (items, after) := parseItems fuel levels rest
      (v :: items, after)
    | _ => ([v, .broken], [])

/-- The members up to the closing brace, and the tokens behind it. -/
def parseMembers : (fuel levels : Nat) → List Token → List (Option String × Source) × List Token
  | 0, _, _ => ([(none, .broken)], [])
  | fuel + 1, levels, ts =>
    match ts with
    | .string k :: .colon :: rest =>
      let (v, rest) := parseValue fuel levels rest
      match rest with
      | .closeObject :: after => ([(k, v)], after)
      | .comma :: rest =>
        let (members, after) := parseMembers fuel levels rest
        ((k, v) :: members, after)
      | _ => ([(k, v), (none, .broken)], [])
    | .string k :: _ => ([(k, .broken)], [])
    | _ => ([(none, .broken)], [])
end

/-- How deep a text may nest arrays and objects. -/
def textLevels : Nat := 127

/-- The tree of a text, and whether anything follows it. Every step takes a token or is followed
by one that does, so two steps for a token are enough. -/
def parse (text : String) : Source × Bool :=
  let ts := tokens text.toList
  let (v, rest) := parseValue (2 * ts.length + 1) textLevels ts
  (v, !rest.isEmpty)

mutual
/-- Whether a text is JSON up to its end, whatever its numbers, texts and depth are. -/
def wellFormed : Source → Bool
  | .array items => itemsWellFormed items
  | .object members => membersWellFormed members
  | .tooDeep inner => wellFormed inner
  | .broken => false
  | _ => true

/-- Whether all items are well formed. -/
def itemsWellFormed : List Source → Bool
  | [] => true
  | v :: rest => wellFormed v && itemsWellFormed rest

/-- Whether all members are well formed. -/
def membersWellFormed : List (Option String × Source) → Bool
  | [] => true
  | (_, v) :: rest => wellFormed v && membersWellFormed rest
end

mutual
def height : Source → Nat
  | .array items => itemsHeight items + 1
  | .object members => membersHeight members + 1
  | .tooDeep inner => height inner
  | _ => 0

def itemsHeight : List Source → Nat
  | [] => 0
  | v :: rest => max (height v) (itemsHeight rest)

def membersHeight : List (Option String × Source) → Nat
  | [] => 0
  | (_, v) :: rest => max (height v) (membersHeight rest)
end

mutual
/-- The value of a text without faults. Members keep their order and repetitions. -/
def toJson? : Source → Option Json
  | .null => some .null
  | .bool b => some (.bool b)
  | .number n => n.map .number
  | .string s => s.map .string
  | .array items => (itemsToJson? items).map .array
  | .object members => (membersToJson? members).map .object
  | .tooDeep _ => none
  | .broken => none

/-- The values of items without faults. -/
def itemsToJson? : List Source → Option (List Json)
  | [] => some []
  | v :: rest => do
    let v ← toJson? v
    let rest ← itemsToJson? rest
    return v :: rest

/-- The members, where no name and no value has a fault. -/
def membersToJson? : List (Option String × Source) → Option (List (String × Json))
  | [] => some []
  | (k, v) :: rest => do
    let k ← k
    let v ← toJson? v
    let rest ← membersToJson? rest
    return (k, v) :: rest
end

/-- The value of a text without faults, with the members of every object in key order and each name
once: the last member of a name counts. -/
def generic? (v : Source) : Option Json := v.toJson?.map Json.sorted

end Source

mutual
/-- A value as the tree of a text without faults. -/
def toSource : Json → Source
  | .null => .null
  | .bool b => .bool b
  | .number n => .number (some n)
  | .string s => .string (some s)
  | .array items => .array (itemsToSource items)
  | .object members => .object (membersToSource members)

/-- Items as trees. -/
def itemsToSource : List Json → List Source
  | [] => []
  | v :: rest => toSource v :: itemsToSource rest

/-- Members with their values as trees. -/
def membersToSource : List (String × Json) → List (Option String × Source)
  | [] => []
  | (k, v) :: rest => (some k, toSource v) :: membersToSource rest
end

/-- The value of a text, as it is written. -/
def parse? (text : String) : Option Json :=
  match Source.parse text with
  | (v, false) => v.toJson?
  | (_, true) => none

end PageStudio.Json
