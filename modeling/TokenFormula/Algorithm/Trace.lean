import TokenFormula.Algorithm.Dependency

/-!
# Traces

A trace runs all steps of an algorithm and records each one. Unlike a run, it
goes on after a step that fails, in the scope that the step left.

Results:
* `Algorithm.trace`: the trace of an algorithm for one iteration value.
-/

namespace TokenFormula

/-- One step of a trace. -/
structure TraceStep where
  step : Step
  /-- The bindings before the step. -/
  inputs : List (Value × Value)
  /-- The value of the step; null where it was skipped or failed. -/
  output : Value
  error? : Option String
  /-- The variables that the step reads. -/
  reads : List String

/-- The record of all steps. -/
structure Trace where
  steps : List TraceStep
  /-- The value of the last formula that ran. -/
  final : Value
  errors : List String

/-- The bindings without the tables of functions, those without a name last. -/
def Scope.shownBindings (s : Scope) : List (Value × Value) :=
  s.ownBindings.map (fun p => (.text p.1, p.2)) ++ s.unnamed

namespace Algorithm

/-- The text that a step runs; empty where its target is missing. A step without
    a type counts as one of a condition. -/
def sourceOf (a : Algorithm) (language : String) (s : Step) : String :=
  match s.type? with
  | some .formula => ((a.formula? s.id).map (·.sourceIn language)).getD ""
  | _ => ((a.condition? s.id).map Condition.source).getD ""

/-- The variables that a step reads. -/
def readsOf (a : Algorithm) (language : String) (s : Step) : List String :=
  let source := a.sourceOf language s
  if source.isEmpty then [] else (inputsAndOutputs source).1

/-- The line for a failed step. -/
def failureLine (i : Nat) (s : Step) (message : String) : String :=
  "Step " ++ toString (i + 1) ++ " (" ++ s.name ++ "): " ++ message

/-- The trace with one more step. -/
def extend (a : Algorithm) (settings : Settings) (i : Nat) (s : Step) (before : Scope)
    (output : Value) (error? : Option String) (t : Trace) : Trace where
  steps := t.steps ++
    [⟨s, before.shownBindings, output, error?, a.readsOf settings.language s⟩]
  final := t.final
  errors := t.errors ++ (error?.map (failureLine i s)).toList

/-- Traces the steps from place `i` on. A fault that is not laid to a step ends
    the trace. -/
def traceSteps (a : Algorithm) (settings : Settings) :
    (i : Nat) → List Step → Trace → Scope → Except RunError Trace × List String
  | _, [], t, _ => (.ok t, [])
  | i, s :: rest, t, before =>
    let r := a.runStep settings s before
    let next (t : Trace) :=
      let (result, more) := traceSteps a settings (i + 1) rest t r.scope
      (result, r.warnings ++ more)
    match r.outcome with
    | .ok none => next (a.extend settings i s before .null none t)
    | .ok (some v) =>
      let t := a.extend settings i s before v none t
      next (if s.type? = some .formula then { t with final := v } else t)
    | .error (.step f) => next (a.extend settings i s before .null (some f.message) t)
    | .error e => (.error e, r.warnings)

/-- The trace of an algorithm for one iteration value, with the warnings. -/
def trace (a : Algorithm) (settings : Settings) (iteration : Value) (context : Entries Value) :
    Except RunError Trace × List String :=
  match a.scope iteration context [] with
  | .error f => (.error (.escaped f), [])
  | .ok scope => a.traceSteps settings 0 a.steps ⟨[], .null, []⟩ scope

end Algorithm
end TokenFormula
