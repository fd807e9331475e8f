import TokenFormula.Value.Basic

/-!
# Equality and order of values

Numbers are compared exactly, truth values as the numbers `1` and `0`, texts by
code points, lists element by element. Other values of different types are
different and have no order.

Results:
* `Value.equal`: equality of values.
* `Value.identical`: equality of elements of lists and dictionaries, where the
  value that is no number equals itself.
* `==` on values and numbers: the same, for the parts of records.
* `Value.ordered`: one of the four order relations.
-/

namespace TokenFormula.Value

/-! ## Equality -/

mutual

/-- Equality of elements: as `equal`, but the value that is no number equals
    itself. -/
def identical : Value → Value → Bool
  | null, null => true
  | text s, text t => s == t
  | function f, function g => f == g
  | list xs, list ys => identicalItems xs ys
  | dict xs, dict ys => xs.length == ys.length && identicalEntries xs ys
  | a, b =>
    match a.number?, b.number? with
    | some m, some n => m.equal n || (m.isNaN && n.isNaN)
    | _, _ => false

/-- Equality of lists, element by element. -/
def identicalItems : List Value → List Value → Bool
  | [], [] => true
  | x :: xs, y :: ys => identical x y && identicalItems xs ys
  | _, _ => false

/-- Every entry of the first dictionary is in the second. -/
def identicalEntries : List (String × Value) → List (String × Value) → Bool
  | [], _ => true
  | (k, v) :: rest, es =>
    (match Entries.get? k es with
      | some w => identical v w
      | none => false) && identicalEntries rest es

end

/-- Equality of values. -/
def equal (a b : Value) : Bool :=
  match a.number?, b.number? with
  | some m, some n => m.equal n
  | _, _ => identical a b

/-- Equality where truth values and numbers differ, and otherwise the types are
    the same. -/
def strictEqual (a b : Value) : Bool :=
  match a, b with
  | num m, num n => m.equal n
  | bool p, bool q => p == q
  | bool _, num _ | num _, bool _ => false
  | _, _ => equal a b

/-- Parts of records are compared as elements. -/
instance : BEq Value := ⟨identical⟩

instance : BEq Number := ⟨fun m n => identical (num m) (num n)⟩

/-! ## Order -/

/-- The four order relations. -/
inductive Relation where
  | less | greater | lessEq | greaterEq
deriving DecidableEq, Repr

/-- The sign of a relation. -/
def Relation.symbol : Relation → String
  | less => "<"
  | greater => ">"
  | lessEq => "<="
  | greaterEq => ">="

/-- Whether a relation holds of two things in this order; of things without
    order none holds. -/
def Relation.holds : Relation → Option Ordering → Bool
  | _, none => false
  | less, some o => o == .lt
  | greater, some o => o == .gt
  | lessEq, some o => o != .gt
  | greaterEq, some o => o != .lt

/-- The order of two texts by code points. -/
def compareText (s t : String) : Ordering :=
  compareOfLessAndEq s t

mutual

/-- Whether the relation holds; an error where the values have no order. Lists
    are ordered by their first different elements, else by their lengths. -/
def ordered (r : Relation) : Value → Value → Except Fault Bool
  | text s, text t => .ok (r.holds (some (compareText s t)))
  | list xs, list ys => orderedItems r xs ys
  | a, b =>
    match a.number?, b.number? with
    | some m, some n => .ok (r.holds (m.compare? n))
    | _, _ => .error (.unordered r.symbol a.typeName b.typeName)

/-- The relation on lists. -/
def orderedItems (r : Relation) : List Value → List Value → Except Fault Bool
  | x :: xs, y :: ys => if identical x y then orderedItems r xs ys else ordered r x y
  | xs, ys => .ok (r.holds (some (compare xs.length ys.length)))

end

end TokenFormula.Value
