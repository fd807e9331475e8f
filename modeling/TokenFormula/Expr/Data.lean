import TokenFormula.Expr.Basic
import TokenFormula.Value.Text

/-!
# Expressions as plain data

A tree is stored as nested dictionaries with a `type`. Missing entries become
missing parts, so that a malformed tree can be rebuilt and then reported.

Results:
* `Expr.toData`: a tree as plain data.
* `Expr.ofData`: the tree of plain data, or why there is none.
-/

namespace TokenFormula

/-! ## Writing -/

/-- A note as data. -/
def Note.toData (note : Note) : Value :=
  .dict [("astVersion", note.version), ("validationErrors", .list note.errors),
    ("complexity", note.complexity)]

namespace Expr

/-- The entry of a note, if there is one. -/
def noteEntry : Option Note → Entries Value
  | none => []
  | some note => [("metadata", note.toData)]

/-- The entry of a literal's value, if it has one. -/
def valueEntry : Option Value → Entries Value
  | none => []
  | some v => [("value", v)]

mutual

/-- A tree as plain data; a missing tree is null. -/
def toData : Expr → Value
  | absent => .null
  | binary op left right note =>
    .dict ([("type", .text "binary"), ("operator", op), ("left", left.toData),
      ("right", right.toData)] ++ noteEntry note)
  | unary op operand note =>
    .dict ([("type", .text "unary"), ("operator", op), ("operand", operand.toData)] ++
      noteEntry note)
  | var name note =>
    .dict ([("type", .text "variable"), ("variableName", name)] ++ noteEntry note)
  | literal value fallback note =>
    .dict ([("type", .text "literal")] ++ valueEntry value ++
      (if fallback then [("fallback", .bool true)] else []) ++ noteEntry note)
  | call name args note =>
    .dict ([("type", .text "function"), ("functionName", name),
      ("arguments", .list (argumentData args))] ++ noteEntry note)
  | assign name value note =>
    .dict ([("type", .text "assignment"), ("variableName", name),
      ("expression", value.toData)] ++ noteEntry note)
  | group body note =>
    .dict ([("type", .text "group"), ("body", body.toData)] ++ noteEntry note)

/-- An argument list as plain data. -/
def argumentData : List Expr → List Value
  | [] => []
  | a :: rest => a.toData :: argumentData rest

end

/-! ## Reading -/

/-- The kinds of nodes. -/
inductive Kind where
  | binary | unary | var | literal | call | assign | group
deriving DecidableEq, Repr

/-- The kind with a name. -/
def Kind.ofName? (s : String) : Option Kind :=
  match s with
  | "binary" => some binary
  | "unary" => some unary
  | "variable" => some var
  | "literal" => some literal
  | "function" => some call
  | "assignment" => some assign
  | "group" => some group
  | _ => none

/-- The kind that the entry `type` names. -/
def kindOf (entries : Entries Value) : Except Fault Kind :=
  let type := Value.ofOption (entries.get? "type")
  let refused := do throw (.unknownNode (← type.display))
  match type with
  | .text s =>
    match Kind.ofName? s with
    | some k => .ok k
    | none => refused
  | v => if v.isHashable then refused else .error (.unhashable v.typeName)

/-- The elements of a value: of a list its items, of a text its characters, of
    a dictionary its keys. What counts as false has none. -/
def elements (v : Value) : Except Fault (List Value) :=
  match v with
  | .list items => .ok items
  | .text s => .ok (s.toList.map fun c => .text (String.singleton c))
  | .dict entries => .ok (entries.map fun p => .text p.1)
  | v => if v.isTruthy then .error (.notIterable v.typeName) else .ok []

/-- The note that the entry `metadata` holds, if it is a dictionary. -/
def noteOf (entries : Entries Value) : Except Fault (Option Note) :=
  match entries.get? "metadata" with
  | some (.dict note) => do
    let errors ← elements (Value.ofOption (Entries.get? "validationErrors" note))
    return some {
      version := (Entries.get? "astVersion" note).getD (.text formVersion)
      errors
      complexity := (Entries.get? "complexity" note).getD (.text "low") }
  | _ => .ok none

theorem sizeOf_lt_of_get? {key : String} {v : Value} :
    {entries : Entries Value} → entries.get? key = some v → sizeOf v < sizeOf entries
  | (k, w) :: rest, h => by
    rw [Entries.get?_cons] at h
    split at h
    · cases h
      simp only [List.cons.sizeOf_spec, Prod.mk.sizeOf_spec]
      omega
    · have := sizeOf_lt_of_get? h
      simp only [List.cons.sizeOf_spec]
      omega

mutual

/-- The tree of plain data; null is a missing tree. -/
def ofData : Value → Except Fault Expr
  | .null => .ok absent
  | .dict entries => do
    let kind ← kindOf entries
    let note ← noteOf entries
    let entry (key : String) := Value.ofOption (Entries.get? key entries)
    match kind with
    | .binary =>
      let left ← childOf entries "left"
      let right ← childOf entries "right"
      return binary (entry "operator") left right note
    | .unary => return unary (entry "operator") (← childOf entries "operand") note
    | .var => return var (entry "variableName") note
    | .literal =>
      return literal (Entries.get? "value" entries) (entry "fallback").isTruthy note
    | .call => return call (entry "functionName") (← argumentsOf entries) note
    | .assign => return assign (entry "variableName") (← childOf entries "expression") note
    | .group => return group (← childOf entries "body") note
  | v => .error (.notMapping v.typeName)
termination_by v => (sizeOf v, 0)

/-- The tree at a key; missing where the key is. -/
def childOf (entries : Entries Value) (key : String) : Except Fault Expr :=
  match _h : entries.get? key with
  | some v => ofData v
  | none => .ok absent
termination_by (sizeOf entries, 0)
decreasing_by
  have := sizeOf_lt_of_get? _h
  exact Prod.Lex.left _ _ this

/-- The argument list at the key `arguments`. -/
def argumentsOf (entries : Entries Value) : Except Fault (List Expr) :=
  match _h : entries.get? "arguments" with
  | some (.list items) => ofItems items
  | some v => do
    match ← elements v with
    | [] => return []
    | first :: _ => throw (.notMapping first.typeName)
  | none => .ok []
termination_by (sizeOf entries, 0)
decreasing_by
  have := sizeOf_lt_of_get? _h
  simp only [Value.list.sizeOf_spec] at this
  exact Prod.Lex.left _ _ (by omega)

/-- The trees of a list of plain data. -/
def ofItems : List Value → Except Fault (List Expr)
  | [] => .ok []
  | v :: rest => do
    let e ← ofData v
    let es ← ofItems rest
    return e :: es
termination_by items => (sizeOf items, 1)

end

end Expr
end TokenFormula
