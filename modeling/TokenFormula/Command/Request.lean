import TokenFormula.Command.Flag
import TokenFormula.Source.Literal

/-!
# Requests

A command line names a command with its arguments. Options of the engine stand
before the command, options of the command before or after its argument.

Results:
* `readArguments`: the request of a command line, or why there is none.
-/

namespace TokenFormula.Command

/-- What is asked for. -/
inductive Request where
  /-- The tree of an expression. -/
  | parse (source : String)
  | optimize (source : String)
  | validate (source : String)
  /-- A run of a stored algorithm for one iteration value. -/
  | run (file : String) (n : Number) (context? : Option String) (modes : List String)
  /-- The token series of a stored algorithm. -/
  | generate (file : String) (modes : List String)

/-- A request with the options of the engine. -/
structure Invocation where
  project? : Option String
  verbose : Bool
  request : Request

/-! ## Tables -/

/-- The commands. -/
inductive Name where
  | parse | optimize | validate | run | generate
deriving DecidableEq, Repr

namespace Name

/-- All commands. -/
def all : List Name := [parse, optimize, validate, run, generate]

/-- The word for a command. -/
def word : Name → String
  | parse => "parse"
  | optimize => "optimize"
  | validate => "validate"
  | run => "run"
  | generate => "generate"

/-- The command of a word. -/
def ofWord? (s : String) : Option Name :=
  all.find? (·.word == s)

/-- The name of the argument of a command. -/
def argument : Name → String
  | parse | optimize | validate => "expression"
  | run | generate => "file"

/-- The options that every command has. -/
def helpFlags : FlagTable := [("-h", .help), ("--help", .help)]

/-- The options of a command. -/
def flags : Name → FlagTable
  | parse | optimize | validate => helpFlags
  | run => helpFlags ++ [("--n", .iteration), ("--context", .context), ("--mode", .mode)]
  | generate => helpFlags ++ [("--mode", .mode)]

end Name

/-- The options before the command. -/
def engineFlags : FlagTable :=
  Name.helpFlags ++ [("--version", .version), ("--project", .project), ("-p", .project),
    ("--verbose", .verbose), ("-v", .verbose)]

/-- Why a command line is not carried out as a request. -/
inductive Refusal where
  /-- Help is asked for, on the engine or on one command. -/
  | help (name? : Option Name)
  | version
  | usage (e : UsageError)

/-! ## Options -/

/-- What has been read. -/
structure Reading where
  project? : Option String
  verbose : Bool
  n : Number
  context? : Option String
  modes : List String
  argument? : Option String
  /-- Words that nothing takes. -/
  unrecognized : List String

/-- What is read from no words. -/
def Reading.initial : Reading := ⟨none, false, .int 0, none, [], none, []⟩

/-- A word that nothing takes. -/
def Reading.refuse (word : String) (r : Reading) : Reading :=
  { r with unrecognized := r.unrecognized ++ [word] }

/-- Takes an option with its value. -/
def Reading.take (r : Reading) (option : Flag × String × String) : Except Refusal Reading :=
  let (flag, name, value) := option
  match flag with
  | .help => .error (.help none)
  | .version => .error .version
  | .verbose => .ok { r with verbose := true }
  | .project => .ok { r with project? := some value }
  | .context => .ok { r with context? := some value }
  | .mode => .ok { r with modes := r.modes ++ [value] }
  | .iteration =>
    match Source.readNumber value with
    | .ok n => .ok { r with n := n }
    | .error _ => .error (.usage (.valueInvalid name value))

/-- Takes several options in order. -/
def Reading.takeAll (r : Reading) (options : List (Flag × String × String)) :
    Except Refusal Reading :=
  options.foldlM Reading.take r

/-- What a word of options does to what has been read, and the words behind it;
    the last option may take the next one. -/
def Reading.takeCluster (r : Reading) (c : Cluster) (rest : List Word) :
    Except Refusal (Reading × Bool) :=
  match c.needsValue? with
  | none => do return (← r.takeAll c.given, false)
  | some (flag, name) =>
    match rest with
    | ⟨value, .plain⟩ :: _ => do return (← r.takeAll (c.given ++ [(flag, name, value)]), true)
    | _ => .error (.usage (.valueMissing name))

/-- The options of one word. -/
def clusterOf (table : FlagTable) (flag : Flag) (name : String) (attached? : Option (List Char)) :
    Except Refusal Cluster :=
  (cluster table flag name attached?).mapError .usage

/-! ## The words of a command -/

/-- Reads the words of a command. The first plain word is its argument, a
    separator right before or behind it belongs to it. -/
def readCommand (table : FlagTable) (r : Reading) : List Word → Except Refusal Reading
  | [] => .ok r
  | ⟨text, .plain⟩ :: rest =>
    if r.argument?.isSome then readCommand table (r.refuse text) rest
    else
      match rest with
      | ⟨_, .separator⟩ :: rest => readCommand table { r with argument? := some text } rest
      | rest => readCommand table { r with argument? := some text } rest
  | ⟨text, .separator⟩ :: rest =>
    if r.argument?.isSome then readCommand table (r.refuse text) rest
    else
      match rest with
      | ⟨argument, .plain⟩ :: rest =>
        readCommand table { r with argument? := some argument } rest
      | rest => readCommand table (r.refuse text) rest
  | ⟨text, .unknownOption⟩ :: rest => readCommand table (r.refuse text) rest
  | ⟨_, .option flag name attached?⟩ :: rest => do
    let (r, takesNext) ← r.takeCluster (← clusterOf table flag name attached?) rest
    match rest with
    | [] => return r
    | w :: rest => if takesNext then readCommand table r rest else readCommand table r (w :: rest)

/-- The request of a command whose words have been read. -/
def Reading.request (r : Reading) (name : Name) : Except Refusal Request :=
  match r.argument? with
  | none => .error (.usage (.argumentMissing name.argument))
  | some argument =>
    .ok <| match name with
      | .parse => .parse argument
      | .optimize => .optimize argument
      | .validate => .validate argument
      | .run => .run argument r.n r.context? r.modes
      | .generate => .generate argument r.modes

/-- What is asked for while a command is read is asked of this command. -/
def Refusal.about (name : Name) : Refusal → Refusal
  | help _ => help (some name)
  | r => r

/-- Reads a command with its words; `r` holds what stands before it. -/
def readNamed (r : Reading) (word : String) (rest : List String) : Except Refusal Invocation :=
  match Name.ofWord? word with
  | none => .error (.usage (.commandUnknown word))
  | some name => do
    let ws ← (words name.flags rest).mapError .usage
    let inner ← (readCommand name.flags Reading.initial ws).mapError (Refusal.about name)
    let request ← inner.request name
    let unrecognized := r.unrecognized ++ inner.unrecognized
    if unrecognized.isEmpty then return ⟨r.project?, r.verbose, request⟩
    else throw (.usage (.unrecognized unrecognized))

/-! ## The whole command line -/

/-- Reads the words up to the command, which takes all words behind it. -/
def readEngine (r : Reading) : List Word → Except Refusal Invocation
  | [] => .error (.usage .commandMissing)
  | ⟨text, .plain⟩ :: rest => readNamed r text (rest.map Word.text)
  | ⟨text, .separator⟩ :: _ => .error (.usage (.commandUnknown text))
  | ⟨text, .unknownOption⟩ :: rest => readEngine (r.refuse text) rest
  | ⟨_, .option flag name attached?⟩ :: rest => do
    let (r, takesNext) ← r.takeCluster (← clusterOf engineFlags flag name attached?) rest
    match rest with
    | [] => throw (.usage .commandMissing)
    | w :: rest => if takesNext then readEngine r rest else readEngine r (w :: rest)

/-- The request of a command line, or why there is none. -/
def readArguments (arguments : List String) : Except Refusal Invocation := do
  readEngine Reading.initial (← (words engineFlags arguments).mapError .usage)

end TokenFormula.Command
