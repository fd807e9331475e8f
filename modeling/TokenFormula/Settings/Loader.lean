import TokenFormula.Builtin
import TokenFormula.Files
import TokenFormula.Json.Reader
import TokenFormula.Settings.Basic
import TokenFormula.Text.Blank
import TokenFormula.Text.Split
import TokenFormula.Value.Text

/-!
# Finding the settings

A setting is taken from the environment, else from the settings file, else it
has its default. The file is read once. A value that is no integer where one is
needed is reported and ignored.

Results:
* `Loader.load`: reads the settings file, unless it has been read.
* `Loader.resolve`: the settings, resolved once.
* `Loader.settings`: both, one after the other.
* `resolveSettings`: the settings of an environment and a file.
-/

namespace TokenFormula

/-- The name of the settings file. -/
def settingsFileName : String := "algoengine.json"

/-- The path of the settings file: in the given directory, else in the one that
    the environment names, else in the working directory. -/
def settingsPath (environment : Entries String) (directory? : Option String) : String :=
  let named? := (environment.get? projectRootKey).filter (!·.isEmpty)
  Text.Path.inside ((directory?.orElse fun _ => named?).getD ".") settingsFileName

/-- What a computation reports beside its result. A failure keeps the reports. -/
abbrev Reporting (α : Type) := ExceptT Fault (StateM (List String)) α

namespace Reporting

/-- Reports a line. -/
def report (line : String) : Reporting Unit :=
  modify (· ++ [line])

/-- A result without reports. -/
def ofExcept {α : Type} (r : Except Fault α) : Reporting α :=
  ExceptT.mk (pure r)

end Reporting

/-! ## Values of settings -/

/-- Reports a value that a setting cannot take. -/
def ignoreValue (s : Setting) (v : Value) : Reporting Unit := do
  let shown ← Reporting.ofExcept v.display
  Reporting.report ("Ignoring invalid value for " ++ s.key ++ ": " ++ shown)

/-- An integer setting: the integer that the value converts to. An infinity is
    not ignored but fails. -/
def integerSetting (s : Setting) (default : Int) (v : Value) : Reporting Int := do
  match v.convertToInteger with
  | .ok n => return n
  | .error f =>
    match f.family with
    | .value | .type => do
      ignoreValue s v
      return default
    | _ => throw f

/-- Names without blanks around them, the empty ones left out. -/
def cleanNames (names : List String) : List String :=
  (names.map Text.trimmed).filter (!·.isEmpty)

/-- A setting of names: a text with commas or a list. -/
def namesSetting (s : Setting) (default : List String) (v : Value) : Reporting (List String) := do
  match v with
  | .text t => return cleanNames (Text.splitAt ',' t)
  | .list items => do
    let names ← Reporting.ofExcept (items.mapM Value.plain)
    return cleanNames names
  | v => do
    ignoreValue s v
    return default

/-- A text setting: any value as text. -/
def textSetting (v : Value) : Reporting String :=
  Reporting.ofExcept v.plain

/-- The value that the environment or the file gives a setting. -/
def settingValue? (environment : Entries String) (file : Entries Value) (s : Setting) :
    Option Value :=
  match environment.get? s.environmentKey with
  | some text => some (.text text)
  | none => file.get? s.key

/-- The settings of an environment and the entries of a settings file. -/
def resolveSettings (environment : Entries String) (file : Entries Value) : Reporting Settings := do
  let value? := settingValue? environment file
  let integer (s : Setting) (d : Int) : Reporting Int :=
    match value? s with
    | some v => integerSetting s d v
    | none => pure d
  let text (s : Setting) (d : String) : Reporting String :=
    match value? s with
    | some v => textSetting v
    | none => pure d
  let d := Settings.default
  let complexityThreshold ← integer .complexityThreshold d.complexityThreshold
  let recognized ← match value? .recognized with
    | some v => namesSetting .recognized d.recognized v
    | none => pure d.recognized
  let systemStart ← text .systemStart d.systemStart
  let maxRounds ← integer .maxRounds d.maxRounds
  let maxIterations ← integer .maxIterations d.maxIterations
  let language ← text .language d.language
  return { complexityThreshold, recognized, systemStart, maxRounds, maxIterations, language }

/-! ## The settings file -/

/-- The entries of a settings file, or what is reported of it. -/
def readSettings (path : String) (content : String) : Except String (Entries Value) :=
  match Json.read content with
  | .ok (.dict entries) => .ok entries
  | .ok _ => .error ("Error loading " ++ path ++ ": top-level value must be an object")
  | .error (.tooManyDigits count) =>
    .error ("Error loading " ++ path ++ ": " ++ (Json.ReadError.tooManyDigits count).message)
  | .error e => .error ("Invalid JSON in " ++ path ++ ": " ++ e.message)

/-- What has been read and resolved so far. -/
structure Loader where
  file : Entries Value
  path? : Option String
  loaded : Bool
  resolved? : Option Settings
deriving Inhabited

namespace Loader

/-- A loader that has read nothing. -/
def initial : Loader := ⟨[], none, false, none⟩

/-- Reads the settings file at a path, unless a file has been looked for before;
    gives the reports. What cannot be read is reported and ignored, but the search
    for a file fails at a path that is too long. -/
def load (l : Loader) (path : String) (content : FileContent) :
    Except Fault (Loader × List String) :=
  if l.loaded then .ok (l, [])
  else
    let l := { l with loaded := true, resolved? := none }
    match content with
    | .missing | .blocked | .unnamed => .ok (l, [])
    | .tooLong => .error (.pathTooLong path)
    | content =>
      match content.textAt path with
      | .error reason => .ok (l, ["Error loading " ++ path ++ ": " ++ reason])
      | .ok s =>
        match readSettings path s with
        | .ok entries => .ok ({ l with file := entries, path? := some path }, [])
        | .error line => .ok (l, [line])

/-- A settings file has been read. -/
def found (l : Loader) : Bool :=
  l.path?.isSome

/-- The settings, resolved once; the file must have been looked for. -/
def resolve (l : Loader) (environment : Entries String) :
    (Except Fault Settings × Loader) × List String :=
  match l.resolved? with
  | some s => ((.ok s, l), [])
  | none =>
    match (resolveSettings environment l.file).run [] with
    | (.ok s, lines) => ((.ok s, { l with resolved? := some s }), lines)
    | (.error f, lines) => ((.error f, l), lines)

/-- The settings, for which the file is looked for first. -/
def settings (l : Loader) (environment : Entries String) (path : String) (content : FileContent) :
    (Except Fault Settings × Loader) × List String :=
  match l.load path content with
  | .error f => ((.error f, l), [])
  | .ok (l, lines) =>
    let (found, more) := l.resolve environment
    (found, lines ++ more)

end Loader
end TokenFormula
