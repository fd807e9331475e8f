import TokenFormula.Files
import TokenFormula.Settings.Basic
import TokenFormula.Text.Blank
import TokenFormula.Text.Case

/-!
# The journal

Records go to the console from warnings on, and all of them to a file in the
log directory if the environment asks for it and the file can be opened.

The handlers belong to the engine. A logger of another name may be given them
as well; it keeps those it has when the engine gets new ones.

Results:
* `Journal.start`, `Journal.restart`: the handlers of the engine.
* `Journal.attach`: gives the engine's handlers to a logger.
* `Journal.write`: a record, given to every handler that takes it.
* `Journal.silence`, `Journal.restore`: the console while tables are printed.
-/

namespace TokenFormula

/-! ## Levels -/

/-- How grave a record is. -/
inductive Level where
  | debug | info | warning | error | critical
deriving DecidableEq, Repr

namespace Level

/-- All levels, the least grave first. -/
def all : List Level := [debug, info, warning, error, critical]

/-- The place of a level on a scale on which thresholds are set. -/
def rank : Level → Nat
  | debug => 10
  | info => 20
  | warning => 30
  | error => 40
  | critical => 50

/-- The name of a level. -/
def name : Level → String
  | debug => "DEBUG"
  | info => "INFO"
  | warning => "WARNING"
  | error => "ERROR"
  | critical => "CRITICAL"

/-- The level with a name. -/
def ofName? (s : String) : Option Level :=
  all.find? (·.name == s)

/-- A threshold that no level reaches. -/
def beyond : Nat := 51

theorem rank_lt_beyond (l : Level) : l.rank < beyond := by
  cases l <;> decide

end Level

/-! ## Handlers -/

/-- Where records go. -/
inductive Sink where
  | file (path : String)
  | console
deriving DecidableEq, Repr

/-- A sink with the rank from which it takes records, and the lines it has
    got. -/
structure Handler where
  sink : Sink
  threshold : Nat
  lines : List String
deriving DecidableEq, Repr

namespace Handler

/-- The sink is the console. -/
def isConsole (h : Handler) : Bool :=
  h.sink == .console

/-- Gives a line to a handler, which takes it from its threshold on. -/
def receive (level : Level) (line : String) (h : Handler) : Handler :=
  if h.threshold ≤ level.rank then { h with lines := h.lines ++ [line] } else h

/-- Sets the threshold of the console. -/
def setConsole (threshold : Nat) (h : Handler) : Handler :=
  if h.isConsole then { h with threshold } else h

/-- A console that no level reaches takes no record. -/
theorem receive_setConsole_beyond {h : Handler} (hc : h.isConsole = true) (level : Level)
    (text : String) :
    (h.setConsole Level.beyond).receive level text = h.setConsole Level.beyond := by
  have := level.rank_lt_beyond
  have : ¬ Level.beyond ≤ level.rank := by omega
  simp [receive, setConsole, hc, this]

end Handler

/-! ## The environment -/

namespace Journal

/-- The environment variable that names the log directory. -/
def directoryKey : String := "ALGOENGINE_LOG_DIR"

/-- The environment variable that asks for the file. -/
def enabledKey : String := "ALGOENGINE_DEBUG_LOG"

/-- The start of the names of the engine's own loggers. -/
def engineName : String := "algoengine"

/-- The name of the logger above all others. -/
def rootName : String := "root"

/-- The log directory inside a project. -/
def directoryName : String := ".algoengine"

/-- The name of the file. -/
def fileName : String := "algoengine_debug.log"

/-- The words that do not ask for the file. -/
def refusals : List String := ["", "0", "false", "no"]

/-- Whether the environment asks for the file. -/
def isEnabled (environment : Entries String) : Bool :=
  let word := Text.lower (Text.trimmed ((environment.get? enabledKey).getD ""))
  !refusals.contains word

/-- What an environment variable names, unless it is empty. -/
def named? (environment : Entries String) (key : String) : Option String :=
  (environment.get? key).filter (!·.isEmpty)

/-- The log directory: the one that is named, else the one inside the project,
    else the one inside the working directory. -/
def directory (environment : Entries String) : String :=
  match named? environment directoryKey, named? environment projectRootKey with
  | some path, _ => Text.Path.tidy path
  | none, some root => Text.Path.inside root directoryName
  | none, none => directoryName

/-- The path of the file. -/
def filePath (environment : Entries String) : String :=
  Text.Path.inside (directory environment) fileName

/-- A fresh handler of the console. -/
def console : Handler := ⟨.console, Level.warning.rank, []⟩

/-- A fresh handler of the file, if there is one. -/
def file? (environment : Entries String) (files : Files) : Option Handler :=
  let path := filePath environment
  if isEnabled environment && files.opens path then
    some ⟨.file (Text.Path.resolve path), Level.debug.rank, []⟩
  else none

/-- The fresh handlers of an environment. -/
def freshHandlers (environment : Entries String) (files : Files) : List Handler :=
  (file? environment files).toList ++ [console]

/-- The rank from which the engine's records are kept. -/
def thresholdOf (environment : Entries String) : Nat :=
  if isEnabled environment then Level.debug.rank else Level.info.rank

end Journal

/-! ## The journal -/

/-- All handlers that were ever made, and who holds which of them. A handler is
    known by its place. -/
structure Journal where
  handlers : List Handler
  /-- The rank from which the engine's records are kept. -/
  threshold : Nat
  /-- The places of the engine's handlers. -/
  engine : List Nat
  /-- The places of the handlers of other loggers. -/
  others : Entries (List Nat)
deriving DecidableEq, Repr

namespace Journal

/-- The journal without handlers. -/
def empty : Journal := ⟨[], Level.info.rank, [], []⟩

/-- Makes fresh handlers and gives them to the engine in place of its old ones. -/
def restart (environment : Entries String) (files : Files) (j : Journal) : Journal :=
  let fresh := freshHandlers environment files
  { j with
    handlers := j.handlers ++ fresh
    threshold := thresholdOf environment
    engine := List.range' j.handlers.length fresh.length }

/-- Gives the engine handlers, unless it has some. -/
def start (environment : Entries String) (files : Files) (j : Journal) : Journal :=
  if j.engine.isEmpty then j.restart environment files else j

/-- The logger is one of the engine. -/
def isEngineLogger (logger : String) : Bool :=
  engineName.toList.isPrefixOf logger.toList

/-- The name of a logger; the logger above all others has a name, and goes by none as
    well. -/
def loggerName (logger : String) : String :=
  if logger.isEmpty then rootName else logger

/-- The places of the handlers that a logger holds itself. The engine's loggers
    other than the engine hold none: their records go up to the engine. -/
def placesOf (j : Journal) (logger : String) : List Nat :=
  if logger == engineName then j.engine
  else if isEngineLogger logger then []
  else (j.others.get? (loggerName logger)).getD []

/-- Gives the engine's handlers to a logger of another name that does not hold
    them. -/
def attach (environment : Entries String) (files : Files) (logger : String) (j : Journal) :
    Journal :=
  let j := j.start environment files
  if isEngineLogger logger then j
  else
    let held := j.placesOf logger
    let given := held ++ j.engine.filter (!held.contains ·)
    { j with others := j.others.set (loggerName logger) given }

/-- The handlers that a logger holds itself. -/
def handlersOf (j : Journal) (logger : String) : List Handler :=
  (j.placesOf logger).filterMap (j.handlers[·]?)

/-- Changes the engine's handlers. -/
def mapEngine (f : Handler → Handler) (j : Journal) : Journal :=
  { j with handlers := j.handlers.zipIdx.map fun p => if p.2 ∈ j.engine then f p.1 else p.1 }

/-- A record as a line. -/
def line (logger : String) (level : Level) (message : String) : String :=
  logger ++ " - " ++ level.name ++ " - " ++ message

/-- Writes a record of one of the engine's loggers. -/
def write (logger : String) (level : Level) (message : String) (j : Journal) : Journal :=
  if level.rank < j.threshold then j
  else j.mapEngine (·.receive level (line logger level message))

/-- Keeps records from the console. -/
def silence (j : Journal) : Journal :=
  j.mapEngine (·.setConsole Level.beyond)

/-- Lets warnings go to the console again. -/
def restore (j : Journal) : Journal :=
  j.mapEngine (·.setConsole Level.warning.rank)

/-- The lines that went to the console. -/
def consoleLines (j : Journal) : List String :=
  (j.handlers.filter (·.isConsole)).flatMap Handler.lines

/-- The files with their lines. -/
def fileLines (j : Journal) : List (String × List String) :=
  j.handlers.filterMap fun h => match h.sink with
    | .file path => some (path, h.lines)
    | .console => none

end Journal
end TokenFormula
