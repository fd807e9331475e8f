import TokenFormula.Number.Basic

/-!
# Values

What an expression yields, a scope binds and stored data holds. A dictionary
keeps its entries in the order of their first insertion, each key once.

Results:
* `Value.typeName`: the name of a value's type in messages.
* `Value.isTruthy`: whether a value counts as true.
* `Value.number?`: the number that a value counts as in arithmetic.
* `Entries.get?`, `Entries.set`, `Entries.erase`: a list of entries as a map.
-/

namespace TokenFormula

/-- The built-in functions. -/
inductive Builtin where
  | pow | max | min | abs | floor | ceil | round | sqrt | sin | cos | tan | log | exp
  | isArray
deriving DecidableEq, Repr

/-- The functions that are put together from others; the rest are primitive. -/
def Builtin.isDerived : Builtin → Bool
  | .pow | .max | .min | .round | .sqrt | .exp | .isArray => true
  | _ => false

/-- A run-time value. -/
inductive Value where
  | null
  | bool (b : Bool)
  | num (n : Number)
  | text (s : String)
  | list (items : List Value)
  | dict (entries : List (String × Value))
  | function (f : Builtin)

namespace Value

instance : Inhabited Value := ⟨null⟩

/-- An integer as a value. -/
def int (n : Int) : Value := num (.int n)

/-- A double as a value. -/
def real (x : Float) : Value := num (.real x)

/-- The name of a value's type. -/
def typeName : Value → String
  | null => "NoneType"
  | bool _ => "bool"
  | num (.int _) => "int"
  | num (.real _) => "float"
  | text _ => "str"
  | list _ => "list"
  | dict _ => "dict"
  | function f => if f.isDerived then "function" else "builtin_function_or_method"

/-- The name of a value's type in the messages of the evaluator. -/
def kindName : Value → String
  | null => "null"
  | bool _ => "boolean"
  | num _ => "number"
  | text _ => "string"
  | list _ => "array"
  | v => v.typeName

/-- Null, `false`, zero and what is empty do not count as true. -/
def isTruthy : Value → Bool
  | null => false
  | bool b => b
  | num n => !n.isZero
  | text s => !s.isEmpty
  | list items => !items.isEmpty
  | dict entries => !entries.isEmpty
  | function _ => true

/-- The value is a number; truth values are none. -/
def isNumber : Value → Bool
  | num _ => true
  | _ => false

/-- The number that a value counts as in arithmetic; truth values count as `1`
    and `0`. -/
def number? : Value → Option Number
  | bool b => some (.int (if b then 1 else 0))
  | num n => some n
  | _ => none

/-- The value is a text. -/
def isText : Value → Bool
  | text _ => true
  | _ => false

/-- A list or dictionary cannot be a key. -/
def isHashable : Value → Bool
  | list _ | dict _ => false
  | _ => true

/-- A number in normal form; any other value as it is. -/
def normalize : Value → Value
  | num n => num n.normalize
  | v => v

/-- The value of an optional value, null for none. -/
def ofOption : Option Value → Value
  | some v => v
  | none => null

/-- An optional text as a value. -/
def ofText? : Option String → Value
  | some s => text s
  | none => null

end Value

/-! ## Entries -/

/-- Keys with values, in the order of first insertion. -/
abbrev Entries (α : Type) := List (String × α)

namespace Entries

variable {α : Type}

/-- The value at a key. -/
def get? (key : String) : Entries α → Option α
  | [] => none
  | (k, v) :: rest => if k = key then some v else get? key rest

/-- Whether the key is there. -/
def has (key : String) (es : Entries α) : Bool :=
  (es.get? key).isSome

/-- Writes at a key: in place where the key is there, else at the end. -/
def set (key : String) (value : α) : Entries α → Entries α
  | [] => [(key, value)]
  | (k, v) :: rest => if k = key then (k, value) :: rest else (k, v) :: set key value rest

/-- The entries without a key. -/
def erase (key : String) : Entries α → Entries α
  | [] => []
  | (k, v) :: rest => if k = key then rest else (k, v) :: erase key rest

/-- The keys in order. -/
def keys (es : Entries α) : List String :=
  es.map Prod.fst

/-- The entries that pairs leave when they are written one after the other. -/
def ofPairs (pairs : List (String × α)) : Entries α :=
  pairs.foldl (fun es p => es.set p.1 p.2) []

@[simp] theorem get?_nil (key : String) : get? key ([] : Entries α) = none := rfl

theorem get?_cons (key k : String) (v : α) (rest : Entries α) :
    get? key ((k, v) :: rest : Entries α) = if k = key then some v else get? key rest := rfl

@[simp] theorem get?_set_self (key : String) (value : α) (es : Entries α) :
    (es.set key value).get? key = some value := by
  induction es with
  | nil => simp [set, get?]
  | cons e rest ih =>
    obtain ⟨k, v⟩ := e
    by_cases h : k = key <;> simp [set, get?, h, ih]

theorem get?_set_of_ne {key other : String} (h : other ≠ key) (value : α) (es : Entries α) :
    (es.set key value).get? other = es.get? other := by
  induction es with
  | nil => simp [set, get?, Ne.symm h]
  | cons e rest ih =>
    obtain ⟨k, v⟩ := e
    by_cases hk : k = key
    · subst hk
      simp [set, get?, Ne.symm h]
    · simp only [set, if_neg hk, get?, ih]

end Entries
end TokenFormula
