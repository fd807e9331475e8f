import TokenFormula.Algorithm.Basic
import TokenFormula.Json.Reader
import TokenFormula.Number.Numeral
import TokenFormula.Text.Blank
import TokenFormula.Value.Text

/-!
# Values of variables

The authored value of a variable becomes a run-time value according to its
declared type. A mode may give another authored value.

Results:
* `Value.reading?`: the number that a value is read as.
* `VariableType.convert`: an authored value as a value of a type.
* `Variable.value`: the value of a variable in the active modes.
-/

namespace TokenFormula

/-- The number that a value is read as: a number itself, a truth value, or a
    text that is a numeral or blank. The value that is no number is not read. -/
def Value.reading? (v : Value) : Option Number :=
  match v with
  | .text s =>
    let cs := Text.trim s.toList
    if cs.isEmpty then some (.int 0)
    else
      match Numeral.readReal? cs with
      | some x => if Double.isNaN x then none else some (Number.real x).normalize
      | none => none
  | v => v.number?.filter (!·.isNaN)

/-- The first of the characters. -/
def startsWith (start s : String) : Bool :=
  start.toList.isPrefixOf s.toList

/-- A text in brackets is read as a list where it is JSON; any other text stands
    for itself. -/
def listOrText (s : String) : Except Fault Value :=
  let inner := Text.trim s.toList
  if inner.head? = some '[' ∧ inner.getLast? = some ']' then
    match Json.read (String.ofList inner) with
    | .ok v => .ok v
    | .error (.tooManyDigits count) => .error (.tooManyDigits (some count))
    | .error (.malformed ..) => .ok (.text s)
  else .ok (.text s)

/-- An authored value as a value of a type; without a type it stays as it is. -/
def VariableType.convert (type? : Option VariableType) (v : Value) : Except Fault Value :=
  match type? with
  | some number => .ok (.num (v.reading?.getD (.int 0)))
  | some text => do listOrText (← v.format)
  | some boolean =>
    match v with
    | .bool b => .ok (.bool b)
    | v => do
      let s ← v.format
      return .bool (s == "true" || s == "1")
  | some color => do return .text (← v.format)
  | none => .ok v

/-- The active mode of each dimension. -/
abbrev Modes := Entries String

/-- A text that is not empty. -/
def filled? (s? : Option String) : Option String :=
  s?.filter (!·.isEmpty)

/-- A value other than null and the empty text. -/
def isGiven : Value → Bool
  | .null => false
  | .text s => !s.isEmpty
  | _ => true

/-- The value that the active modes give a variable, if they give one. -/
def Variable.modeValue? (v : Variable) (modes : Modes) : Option Value := do
  guard v.modeBased
  let dimension ← filled? v.dimension?
  let mode ← filled? (modes.get? dimension)
  let value ← Entries.get? mode (← v.byMode?)
  guard (isGiven value)
  return value

/-- The authored value of a variable in the active modes. -/
def Variable.authored (v : Variable) (modes : Modes) : Value :=
  (v.modeValue? modes).getD v.default

/-- The value of a variable in the active modes. -/
def Variable.value (v : Variable) (modes : Modes) : Except Fault Value :=
  VariableType.convert v.type? (v.authored modes)

end TokenFormula
