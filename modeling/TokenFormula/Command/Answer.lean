import TokenFormula.Algorithm.Check
import TokenFormula.Algorithm.Token
import TokenFormula.Algorithm.Wire
import TokenFormula.Command.Help
import TokenFormula.Command.Table
import TokenFormula.Expr.Optimize
import TokenFormula.Expr.Print
import TokenFormula.Settings.Loader

/-!
# Answers to requests

What a command prints and the status with which it ends: `0`, or `1` where the
expression or the algorithm has errors. A command reads at most the settings
file and one algorithm.

Results:
* `Invocation.answer`: the answer to a request.
* `answerTo`: the answer to a command line.
-/

namespace TokenFormula.Command

/-- The version of the engine. -/
def version : String := "0.1.0"

/-- A cause that ends a command without being reported on the console. -/
inductive Interruption where
  | fault (f : Fault)
  /-- The tags of a console text do not match. -/
  | markup (p : Text.Markup.Problem)
deriving DecidableEq, Repr

/-- The text of a cause. -/
def Interruption.message : Interruption → String
  | fault f => f.message
  | markup p => p.message

/-- What a command prints and how it ends. -/
structure Answer where
  status : Nat
  lines : List String
  /-- The warnings of the engine, which are not part of what is printed. -/
  log : List String
  /-- The cause that interrupted the command, if one did. -/
  interruption? : Option Interruption
deriving DecidableEq, Repr

/-- What prints nothing and ends well. -/
def Answer.empty : Answer := ⟨0, [], [], none⟩

/-- What a command can see of its surroundings. -/
structure Surroundings where
  environment : Entries String
  /-- What is found at a path. -/
  read : String → FileContent
  /-- The cells of a line of the console. -/
  console : Nat

/-- Why a command ends early. -/
inductive Failure where
  /-- The reason is printed as an error. -/
  | reported (message : String)
  /-- These texts are printed. -/
  | lines (ls : List String)
  /-- Nothing more is printed. -/
  | interrupted (cause : Interruption)
deriving DecidableEq, Repr

/-- A computation that collects what is printed and what is logged, and may end
    early. -/
abbrev Act (α : Type) := ExceptT Failure (StateM Answer) α

/-- The lines of what is printed of a text on a console. -/
def textLines (console : Nat) (s : String) : List String :=
  (Text.folded .goesOn console (printable s)).map fun l => String.ofList (Text.cut console l)

namespace Act

/-- Prints lines as they are. -/
def printLines (ls : List String) : Act Unit :=
  modify fun a => { a with lines := a.lines ++ ls }

/-- Prints a text without markup on a console. -/
def print (console : Nat) (s : String) : Act Unit :=
  printLines (textLines console s)

/-- Keeps warnings. -/
def log (ls : List String) : Act Unit :=
  modify fun a => { a with log := a.log ++ ls }

/-- Ends with the status for errors. -/
def fail : Act Unit :=
  modify fun a => { a with status := 1 }

/-- What a text with markup prints, or the end of the command. -/
def orInterrupt {α : Type} (r : Except Text.Markup.Problem α) : Act α :=
  match r with
  | .ok a => pure a
  | .error p => throw (.interrupted (.markup p))

/-- Prints a text with markup on a console. -/
def printMarked (console : Nat) (s : String) : Act Unit := do
  printLines (textLines console (← orInterrupt (Cell.marked s).printed))

/-- Prints a table on a console. -/
def printTable (console : Nat) (t : Table) : Act Unit := do
  printLines (← orInterrupt (t.printed console))

/-- Runs to the end: a failure gives the status for errors. -/
def finish (console : Nat) (act : Act Unit) : Answer :=
  match act.run Answer.empty with
  | (.ok (), a) => a
  | (.error (.reported message), a) =>
    { a with status := 1, lines := a.lines ++ textLines console ("Error: " ++ message) }
  | (.error (.lines ls), a) =>
    { a with status := 1, lines := a.lines ++ ls.flatMap (textLines console) }
  | (.error (.interrupted cause), a) => { a with status := 1, interruption? := some cause }

end Act

/-! ## Failures -/

/-- A fault ends a command; only one of the class of values or of the system is reported. -/
def failureOf (f : Fault) : Failure :=
  match f.family with
  | .value | .system => .reported f.message
  | _ => .interrupted (.fault f)

/-- A result, or the end of the command. -/
def orFail {α : Type} (r : Except Fault α) : Act α :=
  match r with
  | .ok a => pure a
  | .error f => throw (failureOf f)

/-- The first line for a record that cannot be read. -/
def recordFailure (name : String) (issues : List Issue) : Failure :=
  let n := issues.length
  .reported (toString n ++ " validation error" ++ (if n = 1 then "" else "s") ++ " for " ++ name)

/-- A range that cannot be enumerated ends a command. -/
def rangeFailure : RangeError → Failure
  | .fault f => failureOf f
  | e => .reported e.message

/-- A run without a result ends a command. A failed step is printed as it is. -/
def runFailure : RunError → Failure
  | .step f => .lines [f.message]
  | .escaped f => failureOf f
  | .invalid issues => recordFailure "ExecutionContext" issues

/-- A series without tokens ends a command. -/
def seriesFailure : SeriesError → Failure
  | .range e => rangeFailure e
  | .run (.step f) => .reported f.message
  | .run e => runFailure e
  | .fault f => failureOf f

/-! ## Parts of requests -/

/-- The active modes, each written `DIMENSION=MODE`. -/
def readModes : List String → Except String Modes
  | [] => .ok []
  | pair :: rest =>
    let refuse := .error ("Expected DIMENSION=MODE, got " ++ Text.quoted pair)
    match Text.splitFirst? '=' pair with
    | some (dimension, mode) =>
      if dimension.isEmpty || mode.isEmpty then refuse
      else do
        let modes ← readModes rest
        return (dimension, mode) :: modes
    | none => refuse

/-- The modes of a request as a map; a later one of the same dimension counts. -/
def modesOf (pairs : List String) : Except String Modes :=
  (readModes pairs).map Entries.ofPairs

/-- Why a text does not give more variables. -/
inductive ContextError where
  | unreadable (e : Json.ReadError)
  | notObject (type : String)

/-- The text of an error. -/
def ContextError.message : ContextError → String
  | unreadable e => e.message
  | notObject type => "--context must be a JSON object, got " ++ type

/-- More variables, written as a JSON object; none for an empty text. -/
def contextOf (text? : Option String) : Except ContextError (Option (Entries Value)) :=
  match text? with
  | none | some "" => .ok none
  | some text =>
    match Json.read text with
    | .error e => .error (.unreadable e)
    | .ok (.dict entries) => .ok (some entries)
    | .ok v => .error (.notObject v.typeName)

/-- The settings that hold for a request. -/
def Surroundings.settings (s : Surroundings) : Act Settings := do
  let path := settingsPath s.environment none
  let ((settings, _), lines) := Loader.initial.settings s.environment path (s.read path)
  Act.log lines
  orFail settings

/-- The text of a file. -/
def Surroundings.textOf (s : Surroundings) (path : String) : Act String :=
  match (s.read path).textAt (Text.Path.tidy path) with
  | .ok text => pure text
  | .error reason => throw (.reported reason)

/-- The algorithm in a file. -/
def Surroundings.algorithm (s : Surroundings) (path : String) : Act Algorithm := do
  match Json.read (← s.textOf path) with
  | .error e => throw (.reported e.message)
  | .ok v =>
    match Algorithm.ofWire v with
    | .ok a => return a
    | .bad issues => throw (recordFailure "Algorithm" issues)

/-- A text, or the end of the command. -/
def orReport {α : Type} (r : Except String α) : Act α :=
  match r with
  | .ok a => pure a
  | .error message => throw (.reported message)

/-! ## The commands -/

/-- The lines for the errors of a text outside the grammar. -/
def parseErrorLines (e : Expr) : List String :=
  e.errorTexts.map ("Parse error: " ++ ·)

/-- Prints the tree of an expression. -/
def printTree (console : Nat) (source : String) : Act Unit := do
  let e := Expr.parse source
  Act.printLines (Text.splitAt '\n' (← orFail (Json.Style.indented.write e.toData)))
  (parseErrorLines e).forM (Act.print console)
  if !e.errorTexts.isEmpty then Act.fail

/-- The optimized tree, with the warning of a pass that failed. -/
def optimizeLogged (settings : Settings) (e : Expr) : Act Expr := do
  match e.optimize? settings.maxRounds with
  | .ok r => return r
  | .error f => do
    Act.log ["Expression optimization failed: " ++ f.message]
    return e

/-- The text of a tree on the console. -/
def codeOf (e : Expr) : Act String :=
  match e.code with
  | .ok s => pure s
  | .error (.fault f) => throw (failureOf f)
  | .error e => throw (.reported e.message)

/-- Prints the text of an optimized expression. -/
def printOptimized (s : Surroundings) (source : String) : Act Unit := do
  let e := Expr.parse source
  if !e.errorTexts.isEmpty then throw (.lines (parseErrorLines e))
  let optimized ← optimizeLogged (← s.settings) e
  Act.printMarked s.console (← codeOf optimized)

/-- The table of what is found in an expression. -/
def findingTable (fs : List Finding) : Table :=
  ⟨[⟨"Severity", false, some 8⟩, ⟨"Message", false, none⟩],
    fs.map fun f => [.plain f.severity.name, .marked f.message]⟩

/-- Prints what is found in an expression. -/
def printFindings (s : Surroundings) (source : String) : Act Unit := do
  let settings ← s.settings
  let findings ← orFail (settings.validator.validate (Expr.parse source))
  if findings.isEmpty then Act.print s.console "No issues found"
  else do
    Act.printTable s.console (findingTable findings)
    if !Findings.valid findings then Act.fail

/-- The table of the results of a run. -/
def resultTable (results : Entries Value) : Except Fault Table := do
  let rows ← results.mapM fun p => do return [Cell.marked p.1, Cell.marked (← p.2.format)]
  return ⟨[⟨"Step", false, none⟩, ⟨"Result", true, none⟩], rows⟩

/-- Prints a run of an algorithm. -/
def printRun (s : Surroundings) (file : String) (n : Number) (context? : Option String)
    (modes : List String) : Act Unit := do
  let a ← s.algorithm file
  let settings ← s.settings
  let problems := a.problems settings.language
  if !problems.isEmpty then throw (.lines problems)
  let context ← orReport ((contextOf context?).mapError ContextError.message)
  let modes ← orReport (modesOf modes)
  let (outcome, warnings) := a.run settings (.num n) (context.getD []) modes
  Act.log warnings
  match outcome with
  | .error e => throw (runFailure e)
  | .ok r => do
    Act.printTable s.console (← orFail (resultTable r.results))
    Act.printMarked s.console ("final result: " ++ (← orFail r.final.format))

/-- The row of a token; an error stands in place of the value. -/
def tokenRow (t : Token) : Except Fault (List Cell) := do
  let value := match filled? t.error? with
    | some e => Cell.plain e
    | none => .marked t.value
  return [.marked t.displayName, .marked (← t.iteration.text), value, .marked t.formula]

/-- The table of a series. -/
def tokenTable (ts : List Token) : Except Fault Table := do
  let columns : List Column :=
    [⟨"Token", false, none⟩, ⟨"n", true, none⟩, ⟨"Value", true, none⟩, ⟨"Formula", false, none⟩]
  return ⟨columns, ← ts.mapM tokenRow⟩

/-- Whether a token stands for a failed run. -/
def hasError (t : Token) : Bool :=
  (filled? t.error?).isSome

/-- Prints the series of an algorithm. -/
def printSeries (s : Surroundings) (file : String) (modes : List String) : Act Unit := do
  let a ← s.algorithm file
  let settings ← s.settings
  let modes ← orReport (modesOf modes)
  let (outcome, warnings) := a.tokens settings modes
  Act.log warnings
  match outcome with
  | .error e => throw (seriesFailure e)
  | .ok [] => Act.print s.console "Token generation is disabled for this algorithm"
  | .ok ts => do
    Act.printTable s.console (← orFail (tokenTable ts))
    if ts.any hasError then Act.fail

/-- Carries a request out. -/
def Request.act (s : Surroundings) : Request → Act Unit
  | parse source => printTree s.console source
  | optimize source => printOptimized s source
  | validate source => printFindings s source
  | run file n context? modes => printRun s file n context? modes
  | generate file modes => printSeries s file modes

/-! ## Answers -/

/-- The environment in which a request is carried out: a project that is named
    counts. -/
def Invocation.environment (i : Invocation) (environment : Entries String) : Entries String :=
  match i.project? with
  | some path => environment.set projectRootKey (Text.Path.resolve path)
  | none => environment

/-- The answer to a request. -/
def Invocation.answer (i : Invocation) (s : Surroundings) : Answer :=
  (i.request.act { s with environment := i.environment s.environment }).finish s.console

/-- The files that a request may read. -/
def Invocation.files (i : Invocation) (environment : Entries String) : List String :=
  settingsPath (i.environment environment) none ::
    match i.request with
    | .run file .. | .generate file _ => [file]
    | _ => []

/-- The answer to a command line that holds no request. -/
def Refusal.answer : Refusal → Answer
  | help name? => { Answer.empty with lines := helpLines name? }
  | version => { Answer.empty with lines := [engineTitle ++ " " ++ Command.version] }
  | usage e =>
    { Answer.empty with
      status := 2
      log := [usageLine none, engineTitle ++ ": error: " ++ e.message] }

/-- The answer to a command line. -/
def answerTo (arguments : List String) (s : Surroundings) : Answer :=
  match readArguments arguments with
  | .ok i => i.answer s
  | .error r => r.answer

end TokenFormula.Command
