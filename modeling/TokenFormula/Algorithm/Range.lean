import TokenFormula.Algorithm.Basic

/-!
# Iteration values

The values `first + k · step` of a range, for `k = 0, 1, …`, as long as they do
not exceed the last value. Integers are exact, all else is rounded.

Results:
* `IterationRange.values`: the values of a range, or why it has none.
-/

namespace TokenFormula

/-- Why a range cannot be enumerated. -/
inductive RangeError where
  /-- The step is not positive or not finite; `shown` is the step. -/
  | step (shown : String)
  | bounds
  | tooMany (count limit : Int)
  /-- The arithmetic on the bounds fails. -/
  | fault (f : Fault)
deriving DecidableEq, Repr

/-- The text of an error. -/
def RangeError.message : RangeError → String
  | step shown => "Iteration step must be a positive number, got " ++ shown
  | bounds => "Iteration range bounds must be finite numbers"
  | tooMany count limit =>
    "Iteration range produces " ++ toString count ++ " values; the limit is " ++ toString limit
  | fault f => f.message

namespace IterationRange

/-- Whether a number is finite as a double; an integer may be too large for
    one. -/
def isFinite (n : Number) : Except RangeError Bool :=
  match n.toReal with
  | .ok x => .ok (Double.isFinite x)
  | .error f => .error (.fault f)

/-- Refuses a range whose step is not positive and finite, or whose bounds are
    not finite. -/
def check (r : IterationRange) : Except RangeError Unit := do
  let refuseStep : Except RangeError Unit := do
    throw (.step (← r.step.display.mapError .fault))
  if !(Number.int 0).less r.step then refuseStep
  if !(← isFinite r.step) then refuseStep
  if !(← isFinite r.first) then throw .bounds
  if !(← isFinite r.last) then throw .bounds

/-- The number of values by rounded arithmetic: the floor of the quotient of the
    length by the step, and one more. -/
def count (r : IterationRange) : Except Fault Int := do
  let length ← r.last.sub r.first
  let quotient ← length.divide r.step
  return (← quotient.floor) + 1

/-- The value at a place of the range. -/
def value (r : IterationRange) (k : Nat) : Except Fault Number := do
  let offset ← (Number.int k).mul r.step
  return (← r.first.add offset).normalize

/-- The next `n` values from place `k` on, up to the first that exceeds the last
    value of the range. -/
def valuesFrom (r : IterationRange) (k : Nat) : (n : Nat) → Except Fault (List Number)
  | 0 => .ok []
  | n + 1 => do
    let v ← r.value k
    if r.last.less v then return []
    else return v :: (← valuesFrom r (k + 1) n)

/-- The values of a range, at most `limit` of them. -/
def values (r : IterationRange) (limit : Int) : Except RangeError (List Number) := do
  r.check
  if r.last.less r.first then return []
  let count ← r.count.mapError .fault
  if limit < count then throw (.tooMany count limit)
  (r.valuesFrom 0 count.toNat).mapError .fault

end IterationRange
end TokenFormula
