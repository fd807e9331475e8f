import TokenFormula.Text.Quoted

/-!
# Faults of operations on values

Why an operation on plain values, a reader of a numeral or a built-in function
has no result. Each cause has a class, by which the evaluator decides what it
reports as its own error, and a message.

Results:
* `Fault.family`: the class of a fault.
* `Fault.message`: its text.
-/

namespace TokenFormula

/-- The classes of faults. -/
inductive Fault.Family where
  /-- An argument of the right type has no result. -/
  | value
  /-- An argument has the wrong type, or the count of arguments is wrong. -/
  | type
  /-- A result is too large. -/
  | overflow
  /-- A divisor is zero. -/
  | zeroDivision
  /-- A value that is no text was used as one. -/
  | attribute
  /-- A name is not bound. -/
  | key
  /-- The system refuses a path. -/
  | system
deriving DecidableEq, Repr

/-- How the count of arguments of a call is wrong. -/
inductive ArityFault where
  /-- The function takes exactly one argument. -/
  | exactlyOne (callee : String) (given : Nat)
  /-- The function takes one or two arguments. -/
  | oneOrTwo (callee : String)
  /-- These parameters have no argument. -/
  | missing (callee : String) (parameters : List String)
  /-- There are more arguments than parameters. -/
  | extra (callee : String) (takes given : Nat)
deriving DecidableEq, Repr

/-- Why an operation on plain values has no result. The names of types are
    those of `Value.typeName`. -/
inductive Fault where
  /-- A function is not defined at its argument. -/
  | domain
  /-- An infinity has no integer part. -/
  | infinityToInteger
  /-- The value that is no number has no integer part. -/
  | nanToInteger
  /-- An integer is beyond the largest double. -/
  | integerTooLarge
  /-- A quotient of integers is beyond the largest double. -/
  | quotientTooLarge
  /-- Division of doubles by zero. -/
  | zeroQuotient
  /-- A power is not a real number. -/
  | notReal
  /-- An integer has too many digits for text; `count` is known when it is read. -/
  | tooManyDigits (count : Option Nat)
  /-- The text is no integer. -/
  | unreadableInteger (text : String)
  /-- The text is no number. -/
  | unreadableReal (text : String)
  /-- A function of numbers got a value of another type. -/
  | expectsReal (type : String)
  /-- A conversion to a double got a value that is neither number nor text. -/
  | expectsRealOrText (type : String)
  /-- A conversion to an integer got a value that is neither number nor text. -/
  | expectsIntegerOrText (type : String)
  /-- The absolute value of a value that is no number. -/
  | noMagnitude (type : String)
  /-- The two types have no order. -/
  | unordered (symbol left right : String)
  /-- A text or list is joined to a value of another type. -/
  | notJoinable (left right : String)
  /-- The two types have no such operation. -/
  | noOperation (symbol left right : String)
  /-- The count of arguments is wrong. -/
  | arity (cause : ArityFault)
  /-- A list or dictionary is used as a key. -/
  | unhashable (type : String)
  /-- The value has no elements. -/
  | notIterable (type : String)
  /-- A value that is no text lacks an operation of texts. -/
  | noAttribute (type name : String)
  /-- A text is joined from parts of which one is no text. -/
  | partNotText (index : Nat) (type : String)
  /-- A stored tree is no dictionary. -/
  | notMapping (type : String)
  /-- A stored tree has a type that is not known; `shown` is the type. -/
  | unknownNode (shown : String)
  /-- The key is not bound. -/
  | unbound (key : String)
  /-- The path is longer than paths can be. -/
  | pathTooLong (path : String)
deriving DecidableEq, Repr

namespace Fault

/-- The class of a fault. -/
def family : Fault → Family
  | domain | nanToInteger | notReal | tooManyDigits _ | unreadableInteger _ | unreadableReal _
  | notMapping _ | unknownNode _ => .value
  | infinityToInteger | integerTooLarge | quotientTooLarge => .overflow
  | zeroQuotient => .zeroDivision
  | expectsReal _ | expectsRealOrText _ | expectsIntegerOrText _ | noMagnitude _ | unordered ..
  | notJoinable .. | noOperation .. | arity _ | unhashable _ | notIterable _ | partNotText .. =>
    .type
  | noAttribute .. => .attribute
  | unbound _ => .key
  | pathTooLong _ => .system

/-- Faults of arithmetic: overflow, division by zero, no value at an argument. -/
def isArithmetic (f : Fault) : Bool :=
  match f.family with
  | .value | .overflow | .zeroDivision => true
  | _ => false

/-- Faults that a call reports as its own: those of arithmetic and those of
    types. -/
def isOfCall (f : Fault) : Bool :=
  f.isArithmetic || f.family == .type

/-- An ending for a count other than one. -/
def plural (n : Nat) : String :=
  if n = 1 then "" else "s"

end Fault

/-- The text of a wrong count of arguments. -/
def ArityFault.message : ArityFault → String
  | exactlyOne callee given => callee ++ "() takes exactly one argument (" ++ toString given ++ " given)"
  | oneOrTwo callee => callee ++ " requires 1 to 2 arguments"
  | missing callee parameters =>
    callee ++ "() missing " ++ toString parameters.length ++ " required positional argument" ++
      Fault.plural parameters.length ++ ": " ++
      " and ".intercalate (parameters.map fun p => "'" ++ p ++ "'")
  | extra callee takes given =>
    callee ++ "() takes " ++ toString takes ++ " positional argument" ++ Fault.plural takes ++
      " but " ++ toString given ++ (if given = 1 then " was given" else " were given")

/-- What the system says where it refuses a path; its reasons have numbers. -/
def refusal (number : Nat) (reason path : String) : String :=
  "[Errno " ++ toString number ++ "] " ++ reason ++ ": " ++ Text.quoted path

/-- The text of a fault. -/
def Fault.message : Fault → String
  | domain => "math domain error"
  | infinityToInteger => "cannot convert float infinity to integer"
  | nanToInteger => "cannot convert float NaN to integer"
  | integerTooLarge => "int too large to convert to float"
  | quotientTooLarge => "integer division result too large for a float"
  | zeroQuotient => "float division by zero"
  | notReal => "result is not a real number"
  | tooManyDigits count =>
    "Exceeds the limit (4300 digits) for integer string conversion" ++
      (match count with
        | some n => ": value has " ++ toString n ++ " digits"
        | none => "") ++
      "; use sys.set_int_max_str_digits() to increase the limit"
  | unreadableInteger text => "invalid literal for int() with base 10: " ++ Text.quoted text
  | unreadableReal text => "could not convert string to float: " ++ Text.quoted text
  | expectsReal type => "must be real number, not " ++ type
  | expectsRealOrText type =>
    "float() argument must be a string or a real number, not '" ++ type ++ "'"
  | expectsIntegerOrText type =>
    "int() argument must be a string, a bytes-like object or a real number, not '" ++ type ++ "'"
  | noMagnitude type => "bad operand type for abs(): '" ++ type ++ "'"
  | unordered symbol left right =>
    "'" ++ symbol ++ "' not supported between instances of '" ++ left ++ "' and '" ++ right ++ "'"
  | notJoinable left right =>
    "can only concatenate " ++ left ++ " (not \"" ++ right ++ "\") to " ++ left
  | noOperation symbol left right =>
    "unsupported operand type(s) for " ++ symbol ++ ": '" ++ left ++ "' and '" ++ right ++ "'"
  | arity cause => cause.message
  | unhashable type => "unhashable type: '" ++ type ++ "'"
  | notIterable type => "'" ++ type ++ "' object is not iterable"
  | noAttribute type name => "'" ++ type ++ "' object has no attribute '" ++ name ++ "'"
  | partNotText index type =>
    "sequence item " ++ toString index ++ ": expected str instance, " ++ type ++ " found"
  | notMapping type => "AST node must be a mapping, got " ++ type
  | unknownNode shown => "Unsupported AST node type: " ++ shown
  | unbound key => key
  | pathTooLong path => refusal 36 "File name too long" path

end TokenFormula
