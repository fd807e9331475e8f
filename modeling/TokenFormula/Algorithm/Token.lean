import TokenFormula.Algorithm.Range
import TokenFormula.Algorithm.Run
import TokenFormula.Text.Case
import TokenFormula.Text.Quoted

/-!
# Token series

An algorithm with token generation runs once per iteration value of its range.
Each run gives one token: the rendered final result, or an entry for the error
that ended the run.

Results:
* `renderFor`: a result as the value of a token.
* `Algorithm.tokens`: the series of an algorithm.
-/

namespace TokenFormula

/-! ## Rendering -/

/-- The types of values that are rendered as numbers where they can be read as
    numbers. -/
def isSizeType (valueType : String) : Bool :=
  valueType == "dimension" || valueType == "gap" || valueType == "font-size"

/-- A natural number as a color: a hash and at least six digits of base
    sixteen. -/
def colorText (n : Nat) : String :=
  String.ofList ('#' :: Text.hexDigits (max 6 (Nat.toDigits 16 n).length) n)

/-- The integer that a number stands for as a color, if it is not negative and
    integral. A number too large for a double fails. -/
def colorNumber? (n : Number) : Except Fault (Option Nat) := do
  if (Number.int 0).lessEq n then
    let x ← n.toReal
    match Double.integer? x, n.integer? with
    | some _, some m => return some m.toNat
    | _, _ => return none
  else return none

/-- A text that is a color as it stands. -/
def isColorText (v : Value) : Bool :=
  match v with
  | .text s => startsWith "#" s || startsWith "rgb" s
  | _ => false

/-- A result as a color. -/
def renderColor (v : Value) : Except Fault String := do
  if isColorText v then v.format
  else
    match v.reading? with
    | none => v.format
    | some n =>
      match ← colorNumber? n with
      | some m => return colorText m
      | none => v.format

/-- A result as the value of a token of a type. -/
def renderFor (valueType : String) (v : Value) : Except Fault String :=
  match v with
  | .null => .ok ""
  | v =>
    if isSizeType valueType then
      match v.reading? with
      | some n => n.text
      | none => v.format
    else if valueType == "color" then renderColor v
    else v.format

/-- The name of a token that is shown: the algorithm's name in lower case with
    dashes for blanks, and the iteration value. -/
def displayName (algorithmName : String) (n : Number) : Except Fault String := do
  let base := Text.lower (String.ofList (Text.joinBlanks '-' algorithmName.toList))
  if n.less (.int 0) then return base ++ "-minus-" ++ (← n.magnitude.text)
  else return base ++ "-" ++ (← n.text)

/-! ## Series -/

/-- A generated token, or the entry that stands for a failed run. -/
structure Token where
  id : String
  displayName : String
  value : String
  iteration : Number
  formula : String
  error? : Option String

/-- Why a series cannot be generated. -/
inductive SeriesError where
  | range (e : RangeError)
  /-- A run ends with an error that is not laid to a step. -/
  | run (e : RunError)
  /-- A value cannot be rendered. -/
  | fault (f : Fault)

namespace Algorithm

/-- The entry for a run that failed. -/
def errorToken (id : String) (n : Number) (message : String) : Except Fault Token := do
  return ⟨id, "Error-" ++ (← n.text), "", n, "Error", some message⟩

/-- The token of a finished run. -/
def resultToken (a : Algorithm) (id : String) (n : Number) (final : Value) :
    Except Fault Token := do
  let name ← displayName a.name n
  let value ← renderFor a.valueType final
  return ⟨id, name, value, n, a.lastFormulaName, none⟩

/-- The warning about a failed run. -/
def errorWarning (n : Number) (message : String) : Except Fault String := do
  return "Error generating token for iteration " ++ (← n.display) ++ ": " ++ message

/-- The id of the token of an iteration value. -/
def tokenId (a : Algorithm) (n : Number) : Except Fault String := do
  return a.id ++ "-" ++ (← n.text)

/-- The token of one iteration value, with the warnings of its run. -/
def token (a : Algorithm) (settings : Settings) (modes : Modes) (n : Number) :
    Except SeriesError Token × List String :=
  match a.tokenId n with
  | .error f => (.error (.fault f), [])
  | .ok id =>
    match a.run settings (.num n) [] modes with
    | (.ok r, warnings) => ((a.resultToken id n r.final).mapError .fault, warnings)
    | (.error (.step failure), warnings) =>
      match errorWarning n failure.message with
      | .error f => (.error (.fault f), warnings)
      | .ok line =>
        ((errorToken id n failure.message).mapError .fault, warnings ++ [line])
    | (.error e, warnings) => (.error (.run e), warnings)

/-- The tokens of several iteration values, with the warnings of all runs; ends
    at the first that cannot be generated. -/
def tokensOf (a : Algorithm) (settings : Settings) (modes : Modes) :
    List Number → Except SeriesError (List Token) × List String
  | [] => (.ok [], [])
  | n :: rest =>
    match a.token settings modes n with
    | (.error e, warnings) => (.error e, warnings)
    | (.ok t, warnings) =>
      match tokensOf a settings modes rest with
      | (.error e, more) => (.error e, warnings ++ more)
      | (.ok ts, more) => (.ok (t :: ts), warnings ++ more)

/-- The series of an algorithm; empty where tokens are not generated. -/
def tokens (a : Algorithm) (settings : Settings) (modes : Modes) :
    Except SeriesError (List Token) × List String :=
  match a.generation? with
  | none => (.ok [], [])
  | some g =>
    if g.enabled then
      match g.range.values settings.maxIterations with
      | .error e => (.error (.range e), [])
      | .ok ns => a.tokensOf settings modes ns
    else (.ok [], [])

end Algorithm
end TokenFormula
