import TokenFormula.Command.Answer

/-!
# The command line

Reads the environment and the files that a request needs, prints the answer and
ends with its status. The warnings of the engine go to standard error if they
are asked for.
-/

open TokenFormula
open TokenFormula.Command

/-- What is found at a path. -/
def readPath (path : String) : IO FileContent := do
  try
    return .ofBytes (← IO.FS.readBinFile path)
  catch e =>
    match e with
    | .noFileOrDirectory .. => return .missing
    | .inappropriateType .. => return .directory
    | .permissionDenied .. => return .closed
    | _ => return .blocked

/-- The environment variables that the engine knows. -/
def readEnvironment : IO (Entries String) := do
  let names := projectRootKey :: Setting.all.map Setting.environmentKey
  let found ← names.filterMapM fun name => do
    return (← IO.getEnv name).map (Prod.mk name)
  return found

/-- The cells of a line of the console, if nothing is said of it. -/
def usualConsole : Nat := 80

/-- The cells of a line of the console. -/
def readConsole : IO Nat := do
  return ((← IO.getEnv "COLUMNS").bind String.toNat?).getD usualConsole

/-- The answer to a command line, with what it needs from the surroundings. -/
def answerIn (arguments : List String) : IO (Answer × Bool) := do
  match readArguments arguments with
  | .error r => return (r.answer, true)
  | .ok i => do
    let environment ← readEnvironment
    let contents ← (i.files environment).mapM fun path => do return (path, ← readPath path)
    let read (path : String) := (Entries.get? path contents).getD .missing
    return (i.answer ⟨environment, read, ← readConsole⟩, i.verbose)

/-- Answers a command line. -/
def main (arguments : List String) : IO UInt32 := do
  let (answer, verbose) ← answerIn arguments
  answer.lines.forM fun line => IO.println line
  if verbose then answer.log.forM fun line => IO.eprintln line
  answer.interruption?.forM fun cause => IO.eprintln cause.message
  return answer.status.toUInt32
