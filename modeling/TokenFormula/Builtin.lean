import TokenFormula.Number.Numeral
import TokenFormula.Number.Power
import TokenFormula.Value.Order

/-!
# Built-in functions

The functions and constants that an expression finds under `Math` and `Array`.
They work on doubles unless they are exact on integers.

Results:
* `powerWith`, `power`, `roundHalfUp`: the operations with rules of their own.
* `Builtin.apply`: a function applied to arguments, or why it has no result.
* `tables`: the two tables that every run binds.
-/

namespace TokenFormula

/-! ## Conversions -/

namespace Value

/-- The double that a function of real numbers takes from a value. -/
def toReal (v : Value) : Except Fault Float :=
  match v.number? with
  | some n => n.toReal
  | none => .error (.expectsReal v.typeName)

/-- The double that a value converts to; a text is read as a numeral. -/
def convertToReal : Value → Except Fault Float
  | text s =>
    match Numeral.readReal? s.toList with
    | some x => .ok x
    | none => .error (.unreadableReal s)
  | v =>
    match v.number? with
    | some n => n.toReal
    | none => .error (.expectsRealOrText v.typeName)

/-- The integer that a value converts to: a text is read as an integer, and a
    double loses its fraction. -/
def convertToInteger : Value → Except Fault Int
  | text s =>
    match Numeral.readInteger s.toList with
    | .ok n => .ok n
    | .error .malformed => .error (.unreadableInteger s)
    | .error (.tooManyDigits count) => .error (.tooManyDigits (some count))
  | v =>
    match v.number? with
    | some n => n.truncate
    | none => .error (.expectsIntegerOrText v.typeName)

end Value

/-! ## Powers and rounding -/

/-- Whether the exponent of a power that overflows is an odd integer. -/
def hasOddExponent : Value → Except Fault Bool
  | .num (.real x) => .ok (Double.isOddInteger x)
  | v => do return (← v.convertToInteger) % 2 == 1

/-- The infinity that stands for a power too large for a double: negative for a
    negative base with an odd exponent. -/
def overflowedPower (base exponent : Value) : Except Fault Value := do
  let odd ← hasOddExponent exponent
  let negative ← Value.ordered .less base (.int 0)
  return .real (if negative && odd then Double.negativeInfinity else Double.infinity)

/-- The power of two values in doubles, with `pow` for those of finite doubles. Too
    large a base, exponent or result gives an infinity, and so does zero to a negative
    power. -/
def powerWith (pow : Float → Float → Float) (base exponent : Value) : Except Fault Value :=
  match (do
    let x ← base.convertToReal
    let y ← exponent.convertToReal
    return Double.power pow x y : Except Fault Double.Power) with
  | .error .integerTooLarge => overflowedPower base exponent
  | .error f => .error f
  | .ok .overflow => overflowedPower base exponent
  | .ok .pole => .ok (.real Double.infinity)
  | .ok .notReal => .error .notReal
  | .ok (.value r) => .ok (.num (Number.real r).normalize)

/-- The power of two values, with that of the platform. -/
def power : Value → Value → Except Fault Value :=
  powerWith Float.pow

/-- The floor of a value plus one half. -/
def roundHalfUp (v : Value) : Except Fault Value :=
  match v.number? with
  | some n => do return .int (← n.round)
  | none =>
    match v with
    | .text _ | .list _ => .error (.notJoinable v.typeName "float")
    | _ => .error (.noOperation "+" v.typeName "float")

/-! ## Functions of one real number -/

/-- A function of one double that does not overflow; it has no value where it
    would leave the real numbers. -/
def realFunction (f : Float → Float) (v : Value) : Except Fault Value := do
  let x ← v.toReal
  let r := f x
  if Double.isNaN r && !Double.isNaN x then throw .domain
  return .real r

/-- As `realFunction`, with infinity for what is too large and the result in
    normal form. -/
def saturating (f : Float → Float) (v : Value) : Except Fault Value :=
  match realFunction f v with
  | .ok r => .ok r.normalize
  | .error .integerTooLarge => .ok (.real Double.infinity)
  | .error e => .error e

/-- The leading bits of a positive integer, rounded, as a double from one half to below one,
    and the exponent of the power of two to multiply it with. -/
def leadingBits (n : Nat) : Float × Nat :=
  let bits := n.log2 + 1
  -- From 54 leading ones on the integer is rounded up to the next power of two.
  if (2 ^ 54 - 1) * 2 ^ bits ≤ n * 2 ^ 54 then (Double.ofQuotient false 1 2, bits + 1)
  else (Double.ofQuotient false n (2 ^ bits), bits)

/-- The natural logarithm of a positive integer of any size: that of its leading
    bits plus a multiple of the logarithm of two. -/
def integerLog (n : Nat) : Float :=
  match Double.ofInt? n with
  | some x => Float.log x
  | none =>
    let (bits, exponent) := leadingBits n
    Float.log bits + Float.log (Double.ofQuotient false 2 1) * Double.ofQuotient false exponent 1

/-- The natural logarithm. -/
def naturalLog (v : Value) : Except Fault Float :=
  match v.number? with
  | none => .error (.expectsReal v.typeName)
  | some (.int n) => if 0 < n then .ok (integerLog n.toNat) else .error .domain
  | some (.real x) =>
    if Double.isNaN x then .ok x
    else if Double.isNegative x || Double.isZero x then .error .domain
    else .ok (Float.log x)

/-- The quotient of two logarithms. -/
def logToBase (v base : Value) : Except Fault Value := do
  let x ← naturalLog v
  let y ← naturalLog base
  return .num (← Number.divide (.real x) (.real y))

/-- The neighbouring integer that `f` picks. -/
def toNeighbour (f : Number → Except Fault Int) (v : Value) : Except Fault Value :=
  match v.number? with
  | some n => do return .int (← f n)
  | none => .error (.expectsReal v.typeName)

/-- The best of the arguments: a later one replaces the best so far where the
    relation holds. -/
def best (r : Value.Relation) (first : Value) (rest : List Value) : Except Fault Value :=
  rest.foldlM (fun b v => do return if ← Value.ordered r v b then v else b) first

/-! ## Calls -/

/-- What a function is called in the messages about its arguments, with its
    parameters; a primitive function has one parameter. -/
def Builtin.signature : Builtin → String × List String
  | .pow => ("js_pow", ["base", "exponent"])
  | .round => ("js_round", ["x"])
  | .sqrt | .exp => ("_unary.<locals>.wrapper", ["x"])
  | .isArray => ("<lambda>", ["value"])
  | .max => ("js_max", [])
  | .min => ("js_min", [])
  | .abs => ("abs", [])
  | .floor => ("math.floor", [])
  | .ceil => ("math.ceil", [])
  | .sin => ("math.sin", [])
  | .cos => ("math.cos", [])
  | .tan => ("math.tan", [])
  | .log => ("math.log", [])

/-- The fault of a call with the wrong count of arguments. -/
def Builtin.arityFault (f : Builtin) (given : Nat) : Fault :=
  let (callee, parameters) := f.signature
  match f with
  | .log => .arity (.oneOrTwo callee)
  | .abs | .floor | .ceil | .sin | .cos | .tan => .arity (.exactlyOne callee given)
  | _ =>
    if given < parameters.length then .arity (.missing callee (parameters.drop given))
    else .arity (.extra callee parameters.length given)

/-- A function applied to arguments. -/
def Builtin.apply : Builtin → List Value → Except Fault Value
  | .max, [] => .ok (.real Double.negativeInfinity)
  | .max, v :: rest => best .greater v rest
  | .min, [] => .ok (.real Double.infinity)
  | .min, v :: rest => best .less v rest
  | .pow, [base, exponent] => power base exponent
  | .abs, [v] =>
    match v.number? with
    | some n => .ok (.num n.magnitude)
    | none => .error (.noMagnitude v.typeName)
  | .floor, [v] => toNeighbour Number.floor v
  | .ceil, [v] => toNeighbour Number.ceil v
  | .round, [v] => roundHalfUp v
  | .sqrt, [v] => saturating Float.sqrt v
  | .exp, [v] => saturating Float.exp v
  | .sin, [v] => realFunction Float.sin v
  | .cos, [v] => realFunction Float.cos v
  | .tan, [v] => realFunction Float.tan v
  | .log, [v] => do return .real (← naturalLog v)
  | .log, [v, base] => logToBase v base
  | .isArray, [v] =>
    match v with
    | .list _ => .ok (.bool true)
    | _ => .ok (.bool false)
  | f, args => .error (f.arityFault args.length)

/-! ## Tables -/

/-- The ratio of a circle's circumference to its diameter. -/
def pi : Float := Float.ofBits 0x400921FB54442D18

/-- The base of the natural logarithm. -/
def eulerNumber : Float := Float.ofBits 0x4005BF0A8B145769

/-- What is found under `Math`. -/
def mathTable : Entries Value :=
  [("pow", .function .pow), ("max", .function .max), ("min", .function .min),
    ("abs", .function .abs), ("floor", .function .floor), ("ceil", .function .ceil),
    ("round", .function .round), ("sqrt", .function .sqrt), ("sin", .function .sin),
    ("cos", .function .cos), ("tan", .function .tan), ("log", .function .log),
    ("exp", .function .exp), ("PI", .real pi), ("E", .real eulerNumber)]

/-- What is found under `Array`. -/
def arrayTable : Entries Value :=
  [("isArray", .function .isArray)]

/-- The tables that every run binds, by name. -/
def tables : Entries Value :=
  [("Math", .dict mathTable), ("Array", .dict arrayTable)]

/-- A name of one of the tables. -/
def isTableName (name : String) : Bool :=
  tables.has name

/-- The functions that may be applied ahead of evaluation. -/
def foldable? (name : String) : Option Builtin :=
  match name with
  | "abs" => some .abs
  | "round" => some .round
  | "floor" => some .floor
  | "ceil" => some .ceil
  | "sqrt" => some .sqrt
  | "pow" => some .pow
  | "min" => some .min
  | "max" => some .max
  | _ => none

/-- The name under which a function is found. -/
def Builtin.path (f : Builtin) : String :=
  match f with
  | .isArray => "Array.isArray"
  | .pow => "Math.pow" | .max => "Math.max" | .min => "Math.min" | .abs => "Math.abs"
  | .floor => "Math.floor" | .ceil => "Math.ceil" | .round => "Math.round"
  | .sqrt => "Math.sqrt" | .sin => "Math.sin" | .cos => "Math.cos" | .tan => "Math.tan"
  | .log => "Math.log" | .exp => "Math.exp"

end TokenFormula
