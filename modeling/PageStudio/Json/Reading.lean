import PageStudio.Json.Source
import PageStudio.Dict

/-!
# Reading values out of JSON

A reader takes the tree of a text to a value of some type, or has none for it. Records may be
written as objects or as arrays of their fields in order; names without data may be written as
texts or as objects with the name as the only member and `null` as its value.
-/

namespace PageStudio.Json

/-- A reader of a type. -/
abbrev Reader (α : Type) := Source → Option α

namespace Reader

/-! ## Plain values -/

/-- A text. -/
def text : Reader String
  | .string s => s
  | _ => none

/-- A truth value. -/
def flag : Reader Bool
  | .bool b => some b
  | _ => none

/-- Any number, as the nearest floating-point one. -/
def float : Reader Float
  | .number (some (.natural n)) => some (Float.ofNat n)
  | .number (some (.negative n)) => some (-Float.ofNat n)
  | .number (some (.float x)) => some x
  | _ => none

/-- An integer from zero to below a bound. -/
def natural (bound : Nat) : Reader Nat
  | .number (some (.natural n)) => if n < bound then some n else none
  | _ => none

/-- A natural number of 32 bits. -/
def word32 (v : Source) : Option UInt32 := (natural UInt32.size v).map UInt32.ofNat

/-- A natural number of 64 bits. -/
def word64 (v : Source) : Option UInt64 := (natural UInt64.size v).map UInt64.ofNat

/-- A name without data. -/
def name : Reader String
  | .string s => s
  | .object [(k, .null)] => k
  | _ => none

/-- A value that may be `null`. -/
def optional {α : Type} (read : Reader α) : Reader (Option α)
  | .null => some none
  | v => (read v).map some

/-- A value that counts as missing when it has another shape. The text must be free of faults. -/
def lenient {α : Type} (read : Reader α) (v : Source) : Option (Option α) :=
  v.generic?.map fun g => read g.toSource

/-! ## Lists and dictionaries -/

/-- All items of an array. -/
def list {α : Type} (read : Reader α) : Reader (List α)
  | .array items => items.mapM read
  | _ => none

/-- All members of an object; of members with one name the last counts. -/
def dict {κ α : Type} [KeyOrder κ] (key? : String → Option κ) (read : Reader α) : Reader (Dict κ α)
  | .object members =>
    (members.mapM fun (m : Option String × Source) => do
      let k ← m.1
      let k ← key? k
      let v ← read m.2
      return (k, v)).map Dict.ofList
  | _ => none

/-- All members of an object by their names. -/
def table {α : Type} (read : Reader α) : Reader (Dict String α) := dict some read

end Reader

/-! ## Records -/

/-- The fields found in a record, in the order of the text up to its first fault. -/
structure Fields where
  found : List (String × Source)
  /-- Whether the record has no fault of its own. -/
  complete : Bool

namespace Fields

/-- The fields among members: unknown members are skipped, and a known one that is repeated is a
fault. -/
def scan (names seen : List String) : List (Option String × Source) → Fields
  | [] => ⟨[], true⟩
  | (none, _) :: _ => ⟨[], false⟩
  | (some k, v) :: rest =>
    if names.contains k then
      if seen.contains k then ⟨[], false⟩
      else
        let fields := scan names (k :: seen) rest
        ⟨(k, v) :: fields.found, fields.complete⟩
    else if v.wellFormed then scan names seen rest
    else ⟨[], false⟩

/-- The fields of a record with these names. -/
def ofSource (names : List String) : Source → Fields
  | .object members => scan names [] members
  | .array items => ⟨names.zip items, items.length ≤ names.length⟩
  | _ => ⟨[], false⟩

/-- The fields of a record without a fault of its own. -/
def read? (names : List String) (v : Source) : Option Fields :=
  let fields := ofSource names v
  if fields.complete then some fields else none

/-- The field of a name. -/
def get? (fields : Fields) (name : String) : Option Source := fields.found.lookup name

variable {α : Type}

/-- A field that must be there. -/
def required (fields : Fields) (name : String) (read : Reader α) : Option α :=
  (fields.get? name).bind read

/-- A field with a value to take when it is missing. -/
def withDefault (fields : Fields) (name : String) (read : Reader α) (default : α) : Option α :=
  match fields.get? name with
  | none => some default
  | some v => read v

/-- A field that may be missing or `null`. -/
def optional (fields : Fields) (name : String) (read : Reader α) : Option (Option α) :=
  fields.withDefault name (Reader.optional read) none

/-- A field that may be missing and counts as missing when it has another shape. -/
def lenient (fields : Fields) (name : String) (read : Reader α) : Option (Option α) :=
  fields.withDefault name (Reader.lenient read) none

end Fields

end PageStudio.Json
