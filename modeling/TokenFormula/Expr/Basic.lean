import TokenFormula.Value.Order

/-!
# Expressions

The tree of a formula as the engine works on it. Trees also come from stored
data, so every part may be missing or of an unexpected kind: an absent child is
`absent`, a missing name or operator is null, and a literal may have no value.
A node may carry a note, which comparison ignores.

Results:
* `Expr.same`: equality of trees, notes apart.
* `Expr.children`: the children that are there, in source order.
* `Expr.variables`: the names that a tree reads, each once.
-/

namespace TokenFormula

/-- What the reader of a formula notes at a node: the version of the form, the
    errors found and the tier of complexity. Stored notes hold any values. -/
structure Note where
  version : Value
  errors : List Value
  complexity : Value

/-- The version of the form of trees. -/
def formVersion : String := "1.0.0"

/-- An expression. -/
inductive Expr where
  /-- A place where a tree should be. -/
  | absent
  | binary (op : Value) (left right : Expr) (note : Option Note)
  | unary (op : Value) (operand : Expr) (note : Option Note)
  | var (name : Value) (note : Option Note)
  /-- A constant; without a value it is malformed. A fallback stands for a
      construct that expressions do not model. -/
  | literal (value : Option Value) (fallback : Bool) (note : Option Note)
  | call (name : Value) (arguments : List Expr) (note : Option Note)
  | assign (name : Value) (value : Expr) (note : Option Note)
  | group (body : Expr) (note : Option Note)

namespace Expr

instance : Inhabited Expr := ⟨absent⟩

/-- There is no tree here. -/
def isAbsent : Expr → Bool
  | absent => true
  | _ => false

/-! ## Notes -/

/-- The note at the root. -/
def note? : Expr → Option Note
  | absent => none
  | binary _ _ _ note | unary _ _ note | var _ note | literal _ _ note | call _ _ note
  | assign _ _ note | group _ note => note

/-- The tree with another note at its root. -/
def withNote (note : Option Note) : Expr → Expr
  | absent => absent
  | binary op left right _ => binary op left right note
  | unary op operand _ => unary op operand note
  | var name _ => var name note
  | literal value fallback _ => literal value fallback note
  | call name args _ => call name args note
  | assign name value _ => assign name value note
  | group body _ => group body note

/-- The errors that the note at the root lists. -/
def notedErrors (e : Expr) : List Value :=
  match e.note? with
  | some note => note.errors
  | none => []

/-! ## Construction -/

/-- A number as a tree. -/
def number (n : Number) : Expr :=
  literal (some (.num n)) false none

/-- A fallback that holds a text. -/
def fallback (s : String) : Expr :=
  literal (some (.text s)) true none

/-! ## Views -/

/-- The name of a node's kind. -/
def kindName : Expr → String
  | absent => "node"
  | binary .. => "binary"
  | unary .. => "unary"
  | var .. => "variable"
  | literal .. => "literal"
  | call .. => "function"
  | assign .. => "assignment"
  | group .. => "group"

/-- The children that are there, in source order. -/
def children : Expr → List Expr
  | binary _ left right _ => [left, right].filter (!·.isAbsent)
  | unary _ e _ | assign _ e _ | group e _ => [e].filter (!·.isAbsent)
  | call _ args _ => args.filter (!·.isAbsent)
  | absent | var .. | literal .. => []

/-- The number that a literal writes, unless it is a fallback. -/
def number? : Expr → Option Number
  | literal (some (.num n)) false _ => some n
  | _ => none

/-- A literal that writes a number equal to an integer. -/
def isInteger (n : Int) (e : Expr) : Bool :=
  match e.number? with
  | some m => m.equal (.int n)
  | none => false

/-! ## Equality -/

/-- Equality of the values of two literals. -/
def sameValue : Option Value → Option Value → Bool
  | none, none => true
  | some v, some w => v.identical w
  | _, _ => false

mutual

/-- Equality of trees, notes apart. -/
def same : Expr → Expr → Bool
  | absent, absent => true
  | binary op a b _, binary op' a' b' _ => op.identical op' && same a a' && same b b'
  | unary op a _, unary op' a' _ => op.identical op' && same a a'
  | var name _, var name' _ => name.identical name'
  | literal v fallback _, literal v' fallback' _ => sameValue v v' && fallback == fallback'
  | call name args _, call name' args' _ => name.identical name' && sameArguments args args'
  | assign name a _, assign name' a' _ => name.identical name' && same a a'
  | group a _, group a' _ => same a a'
  | _, _ => false

/-- Equality of argument lists. -/
def sameArguments : List Expr → List Expr → Bool
  | [], [] => true
  | a :: as, b :: bs => same a b && sameArguments as bs
  | _, _ => false

end

/-! ## Variables -/

mutual

/-- The names at the variables of a tree, depth first, with repetitions; missing
    names are left out. -/
def mentions : Expr → List Value
  | absent | literal .. => []
  | var name _ => if name.isTruthy then [name] else []
  | binary _ a b _ => a.mentions ++ b.mentions
  | unary _ a _ | assign _ a _ | group a _ => a.mentions
  | call _ args _ => argumentMentions args

/-- The names at the variables of an argument list. -/
def argumentMentions : List Expr → List Value
  | [] => []
  | a :: rest => a.mentions ++ argumentMentions rest

end

/-- Adds the names that are not there yet; a list or dictionary cannot be a
    name. -/
def addNames (known : List Value) : List Value → Except Fault (List Value)
  | [] => .ok known
  | name :: rest =>
    if !name.isHashable then .error (.unhashable name.typeName)
    else addNames (if known.any (·.identical name) then known else known ++ [name]) rest

/-- The names that a tree reads, each once, in the order of their first place. -/
def «variables» (e : Expr) : Except Fault (List Value) :=
  addNames [] e.mentions

/-- The texts among values. -/
def textsOf (vs : List Value) : List String :=
  vs.filterMap fun v => match v with
    | .text s => some s
    | _ => none

/-- The variables that a tree reads by text names, each once, in the order of
    their first place. -/
def variableNames (e : Expr) : List String :=
  (textsOf e.mentions).foldl (fun known s => if s ∈ known then known else known ++ [s]) []

end Expr
end TokenFormula
