import TokenFormula.Command.Request

/-!
# Help on the command line

Results:
* `helpLines`: the help of the engine, or of one command.
* `usageLine`: how the engine, or one command, is called.
-/

namespace TokenFormula.Command

/-- The name of the engine on the console. -/
def engineTitle : String := "algoengine"

/-- An argument or option with what is said of it. -/
structure HelpEntry where
  /-- How it is written. -/
  forms : String
  text : String
deriving DecidableEq, Repr

/-- The column in which what is said begins. -/
def helpColumn : Nat := 24

/-- The lines of an entry: one, or two where the forms reach into the column. -/
def HelpEntry.lines (indent : Nat) (e : HelpEntry) : List String :=
  let forms := "".pushn ' ' indent ++ e.forms
  if forms.length + 2 ≤ helpColumn then
    [forms ++ "".pushn ' ' (helpColumn - forms.length) ++ e.text]
  else [forms, "".pushn ' ' helpColumn ++ e.text]

namespace Name

/-- What a command does. -/
def purpose : Name → String
  | parse => "Print the AST of an expression"
  | optimize => "Print the optimized form of an expression"
  | validate => "List errors and warnings for an expression"
  | run => "Execute an algorithm JSON file for one iteration value"
  | generate => "Generate the token series of an algorithm JSON file"

/-- The argument of a command. -/
def argumentHelp : Name → HelpEntry
  | run | generate => ⟨"file", "Algorithm JSON file"⟩
  | _ => ⟨"expression", "Expression source text"⟩

/-- The option for modes. -/
def modeHelp : HelpEntry := ⟨"--mode DIMENSION=MODE", "Active mode for a dimension"⟩

/-- The options of a command, that for help left out. -/
def optionHelp : Name → List HelpEntry
  | run =>
    [⟨"--n N", "Iteration value (default: 0)"⟩,
      ⟨"--context CONTEXT", "Extra variables as a JSON object"⟩, modeHelp]
  | generate => [modeHelp]
  | _ => []

end Name

/-- The option for help. -/
def helpHelp : HelpEntry := ⟨"-h, --help", "show this help message and exit"⟩

/-- The options before the command. -/
def engineHelp : List HelpEntry :=
  [⟨"--version", "show program's version number and exit"⟩,
    ⟨"--project PROJECT, -p PROJECT", "Project root holding algoengine.json"⟩,
    ⟨"--verbose, -v", "Verbose logging"⟩]

/-- The commands as a choice. -/
def commandChoice : String :=
  "\x7b" ++ ",".intercalate (Name.all.map Name.word) ++ "\x7d"

/-- How the engine, or one command, is called. -/
def usageLine : Option Name → String
  | none =>
    "usage: " ++ engineTitle ++ " [-h] [--version] [--project PROJECT] [--verbose] " ++
      commandChoice ++ " ..."
  | some name =>
    let options := name.optionHelp.map fun e => "[" ++ e.forms ++ "] "
    "usage: " ++ engineTitle ++ " " ++ name.word ++ " [-h] " ++ "".intercalate options ++
      name.argument

/-- The lines of the options. -/
def optionLines (es : List HelpEntry) : List String :=
  "options:" :: (helpHelp :: es).flatMap (HelpEntry.lines 2)

/-- The help of the engine, or of one command. -/
def helpLines : Option Name → List String
  | none =>
    [usageLine none, "", "Algorithm Expression Engine", "", "positional arguments:",
      "  " ++ commandChoice] ++
      Name.all.flatMap (fun name => HelpEntry.lines 4 ⟨name.word, name.purpose⟩) ++ [""] ++
      optionLines engineHelp
  | some name =>
    [usageLine (some name), "", "positional arguments:"] ++ name.argumentHelp.lines 2 ++ [""] ++
      optionLines name.optionHelp

end TokenFormula.Command
