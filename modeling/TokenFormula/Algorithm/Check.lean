import TokenFormula.Algorithm.Basic
import TokenFormula.Settings.Basic
import TokenFormula.Text.Case

/-!
# Checking an algorithm

Results:
* `Algorithm.problems`: what an algorithm lacks, in a fixed order.
-/

namespace TokenFormula

/-- The line for a part that is empty. -/
def required (isMissing : Bool) (line : String) : List String :=
  if isMissing then [line] else []

/-- The name of a language in a message. -/
def languageLabel (language : String) : String :=
  if language == "javascript" then "JavaScript" else Text.capitalize language

/-- What a variable lacks. -/
def Variable.problems (i : Nat) (v : Variable) : List String :=
  let line (what : String) := "Variable " ++ toString i ++ ": " ++ what ++ " is required"
  required v.id.isEmpty (line "ID") ++ required v.name.isEmpty (line "Name") ++
    required v.type?.isNone (line "Type")

/-- What a formula lacks. -/
def Formula.problems (language : String) (i : Nat) (f : Formula) : List String :=
  let line (what : String) := "Formula " ++ toString i ++ ": " ++ what ++ " is required"
  required f.id.isEmpty (line "ID") ++ required f.name.isEmpty (line "Name") ++
    required (f.sourceIn language).isEmpty (line (languageLabel language ++ " expression"))

namespace Algorithm

/-- A reference of a step that leads nowhere. -/
def danglingReference (a : Algorithm) (i : Nat) (s : Step) : List String :=
  let line (what : String) :=
    "Step " ++ toString i ++ ": Referenced " ++ what ++ " '" ++ s.id ++ "' not found"
  match s.type? with
  | some .formula => required (a.formula? s.id).isNone (line "formula")
  | some .condition => required (a.condition? s.id).isNone (line "condition")
  | none => []

/-- What a step lacks. -/
def stepProblems (a : Algorithm) (i : Nat) (s : Step) : List String :=
  let line (what : String) := "Step " ++ toString i ++ ": " ++ what ++ " is required"
  required s.type?.isNone (line "Type") ++ required s.id.isEmpty (line "ID") ++
    required s.name.isEmpty (line "Name") ++ a.danglingReference i s

/-- What an algorithm lacks: first the algorithm itself, then its variables, its
    formulas and its steps. -/
def problems (a : Algorithm) (language : String) : List String :=
  required a.id.isEmpty "Algorithm ID is required" ++
    required a.name.isEmpty "Algorithm name is required" ++
    required a.valueType.isEmpty "Resolved value type ID is required" ++
    a.variables.zipIdx.flatMap (fun p => p.1.problems p.2) ++
    a.formulas.zipIdx.flatMap (fun p => p.1.problems language p.2) ++
    a.steps.zipIdx.flatMap (fun p => a.stepProblems p.2 p.1)

end Algorithm
end TokenFormula
