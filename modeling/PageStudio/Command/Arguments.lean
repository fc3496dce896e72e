import PageStudio.Text.Piece

/-!
# Arguments of commands

Arguments are read from the front. An option is written with two hyphens and its name, or with one
and its letter; its value follows behind an equals sign, right behind the letter, or as the next
argument. Letters of options without values may be written in a row. What is no option is a value
by its place, and behind `--` everything is.

A value is only looked at when the next option or value begins, or at the end; so what is wrong
with it gives way to an option that does not exist.
-/

namespace PageStudio.Arguments

/-- A thing that can be given. -/
structure Parameter where
  name : String
  /-- The letter of an option that has one. -/
  letter : Option Char := none
  /-- Whether a value belongs to it. -/
  takesValue : Bool := true
  /-- Whether its value must not be empty. -/
  isPath : Bool := false
deriving DecidableEq, Inhabited

/-- What a command can be given: options, and values by their places. -/
structure Usage where
  options : List Parameter
  places : List Parameter

/-- What is wrong with arguments. -/
inductive UsageError where
  /-- An option that does not exist, or a value without a place. -/
  | unknownArgument
  /-- A value that is missing or not allowed. -/
  | invalidValue
  /-- An option for the second time. -/
  | repeated
  /-- A value for an option that has none. -/
  | valueNotAllowed
  /-- A value by its place that is missing. -/
  | missing
  /-- The wish for help. -/
  | help
deriving DecidableEq, Inhabited

/-- The option that every command has. -/
def helpOption : Parameter := { name := "help", letter := some 'h', takesValue := false }

/-- What has been read. -/
structure Given where
  /-- Names with their values, which are empty where none belongs to them. -/
  values : List (String × String) := []
  /-- The last thing, whose value has not been looked at yet and may be missing. -/
  pending : Option (Parameter × Option String) := none
  /-- Whether the next argument can be the value of the last option. -/
  waiting : Bool := false
  /-- How many values have been read by their places. -/
  placed : Nat := 0
  /-- Whether no options follow. -/
  plain : Bool := false

namespace Given

/-- The value of a name. -/
def value? (g : Given) (name : String) : Option String := g.values.lookup name

/-- Whether a name was given. -/
def has (g : Given) (name : String) : Bool := (g.value? name).isSome

/-- Adds a value to those that have been looked at. -/
def put (g : Given) (p : Parameter) (value : String) : Except UsageError Given :=
  if g.has p.name then .error .repeated
  else if p.isPath && value.isEmpty then .error .invalidValue
  else .ok { g with values := (p.name, value) :: g.values }

/-- Looks at the value of the last thing. -/
def settle (g : Given) : Except UsageError Given :=
  match g.pending with
  | none => .ok g
  | some (_, none) => .error .invalidValue
  | some (p, some value) => { g with pending := none, waiting := false }.put p value

def flag (g : Given) (p : Parameter) : Except UsageError Given := do
  let g ← g.settle
  if p = helpOption then .error .help else g.put p ""

def withValue (g : Given) (p : Parameter) (attached : Option String) :
    Except UsageError Given := do
  let g ← g.settle
  match attached with
  | some value => g.put p value
  | none => return { g with pending := some (p, none), waiting := true }

def place (g : Given) (u : Usage) (value : String) : Except UsageError Given :=
  match u.places[g.placed]? with
  | none => .error .unknownArgument
  | some p => do
    let g ← g.settle
    return { g with pending := some (p, some value), placed := g.placed + 1 }

/-- Reads an option by its name, `s` being what stands behind the hyphens. -/
def long (g : Given) (u : Usage) (s : List Char) : Except UsageError Given :=
  let name := String.ofList (s.takeWhile (· ≠ '='))
  let attached := match s.dropWhile (· ≠ '=') with
    | [] => none
    | _ :: value => some (String.ofList value)
  match (helpOption :: u.options).find? fun p => p.name == name with
  | none => .error .unknownArgument
  | some p =>
    if p.takesValue then g.withValue p attached
    else if attached.isSome then .error .valueNotAllowed
    else g.flag p

/-- The value right behind a letter, where there is one. -/
def attachedTo : List Char → Option String
  | [] => none
  | '=' :: value => some (String.ofList value)
  | value => some (String.ofList value)

/-- Reads options by their letters. -/
def short (g : Given) (u : Usage) : List Char → Except UsageError Given
  | [] => .ok g
  | c :: rest =>
    match (helpOption :: u.options).find? fun p => p.letter == some c with
    | none => .error .unknownArgument
    | some p =>
      if p.takesValue then g.withValue p (attachedTo rest)
      else do
        let g ← g.flag p
        g.short u rest

def plainValue (g : Given) (u : Usage) (arg : String) : Except UsageError Given :=
  match g.pending with
  | some (p, none) =>
    if g.waiting && !g.plain then .ok { g with pending := some (p, some arg), waiting := false }
    else g.place u arg
  | _ => g.place u arg

/-- Reads one argument. -/
def next (u : Usage) (g : Given) (arg : String) : Except UsageError Given :=
  if g.plain then g.plainValue u arg
  else
    match arg.toList with
    | ['-', '-'] => .ok { g with plain := true }
    | '-' :: '-' :: name => g.long u name
    | '-' :: c :: rest => g.short u (c :: rest)
    | _ => g.plainValue u arg

end Given

/-- Reads all arguments. -/
def read (u : Usage) (args : List String) : Except UsageError Given := do
  let g ← args.foldlM (Given.next u) {}
  g.settle

end PageStudio.Arguments
