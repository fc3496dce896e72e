import PageStudio.Command.Plan

/-!
# The command line

Reads the files that a command looks at, and does what its plan says in the current folder.
-/

namespace PageStudio

/-- How this program tells causes that lie in the system or in the form of a file. -/
def wording : Wording := ⟨"the system refuses", "the file has another form"⟩

/-- What is found at a path. -/
def stateOf (path : String) : IO FileState := do
  try
    return .text (← IO.FS.readFile path)
  catch e =>
    match e with
    | .noFileOrDirectory .. => return .missing
    | _ => return .unreadable

/-- The current folder, as far as a command looks at it. -/
def surroundings (r : Request) : IO Surroundings := do
  let states ← r.paths.mapM fun path => return (path, ← stateOf path)
  let location ← IO.currentDir
  return { location := location.toString, look := fun path => (states.lookup path).getD .missing }

/-- Does an action. -/
def Action.perform : Action → IO Unit
  | print text => IO.print text
  | makeFolder path => IO.FS.createDirAll path
  | write path text => IO.FS.writeFile path text

/-- The text about arguments that cannot be understood. -/
def usageText : Arguments.UsageError → String
  | .unknownArgument => "unexpected argument"
  | .invalidValue => "a value is missing or not allowed"
  | .repeated => "an option is given twice"
  | .valueNotAllowed => "a value is given to an option that has none"
  | .missing => "an argument is missing"
  | .help => "commands: init [name] [--force], export [project] [--page id] [--viewport name] " ++
      "[--out-dir folder] [--stdout], styles node [--viewport name] [--project file]"

/-- Runs a command, and gives the code that the program ends with. -/
def runCommand (r : Request) : IO UInt32 := do
  match r.plan (← surroundings r) with
  | .error e =>
    IO.eprintln ("\nError: " ++ e.message wording ++ "\n")
    return 1
  | .ok actions =>
    try
      actions.forM Action.perform
      return 0
    catch e =>
      IO.eprintln ("\nError: " ++ toString e ++ "\n")
      return 1

/-- Runs the command of the arguments of the program. -/
def runArguments (args : List String) : IO UInt32 := do
  match args with
  | [] =>
    IO.eprintln (usageText .help)
    return 2
  | command :: rest =>
    match Request.read? command rest with
    | none =>
      IO.eprintln (usageText .help)
      return 2
    | some (.error e) =>
      IO.eprintln (usageText e)
      return 2
    | some (.ok r) => runCommand r

end PageStudio

/-- The program. -/
def main (args : List String) : IO UInt32 := PageStudio.runArguments args
