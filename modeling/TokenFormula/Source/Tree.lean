import TokenFormula.Source.Token
import TokenFormula.Value.Basic

/-!
# Parse trees

The shape of a formula text, with every construct of the grammar, also those
that expressions do not model. An outline shows a tree by rule names and
leaves.

Results:
* `Tree.outline`: a tree by rules and leaves.
* `Outline.toValue`, `Outline.pretty`: an outline as data and as indented text.
* `Tree.dottedName?`: the name that a chain of members spells.
-/

namespace TokenFormula.Source

/-- A parse tree. -/
inductive Tree where
  | number (s : String)
  | quoted (s : String)
  | keyword (k : Keyword)
  | name (s : String)
  | group (body : Tree)
  | array (items : List Tree)
  | member (object : Tree) (name : String)
  | index (object position : Tree)
  | call (callee : Tree) (arguments : List Tree)
  | unary (op : UnaryOp) (operand : Tree)
  | binary (op : BinaryOp) (left right : Tree)
  | choice (condition consequent alternative : Tree)
  | assign (name : String) (value : Tree)

/-! ## Outlines -/

/-- A tree by rule names and leaves. -/
inductive Outline where
  | leaf (kind text : String)
  | rule (name : String) (children : List Outline)

/-- The rule of a binary operator. -/
def binaryRule : BinaryOp → String
  | .or => "or_"
  | .and => "and_"
  | .strictEq => "strict_eq"
  | .strictNe => "strict_ne"
  | .eq => "eq"
  | .ne => "ne"
  | .lt => "lt"
  | .gt => "gt"
  | .le => "le"
  | .ge => "ge"
  | .add => "add"
  | .sub => "sub"
  | .mul => "mul"
  | .div => "div"
  | .mod => "mod"
  | .pow => "pow"

/-- The rule of a unary operator. -/
def unaryRule : UnaryOp → String
  | .neg => "neg"
  | .pos => "pos"
  | .not => "not_"

/-- The leaf of a name. -/
def Outline.ofName (s : String) : Outline :=
  .leaf "NAME" s

/-- The children that stand for an argument list: none for an empty one. -/
def argumentOutline : List Outline → List Outline
  | [] => []
  | items => [.rule "arguments" items]

mutual

/-- The outline of a tree. -/
def Tree.outline : Tree → Outline
  | .number s => .rule "number" [.leaf "NUMBER" s]
  | .quoted s => .rule "string" [.leaf "STRING" s]
  | .keyword k => .rule k.spelling []
  | .name s => .rule "var" [.ofName s]
  | .group body => .rule "group" [body.outline]
  | .array items => .rule "array" (argumentOutline (outlines items))
  | .member object name => .rule "member" [object.outline, .ofName name]
  | .index object position => .rule "index" [object.outline, position.outline]
  | .call callee args => .rule "call" (callee.outline :: argumentOutline (outlines args))
  | .unary op operand => .rule (unaryRule op) [operand.outline]
  | .binary op left right => .rule (binaryRule op) [left.outline, right.outline]
  | .choice c a b => .rule "ternary" [c.outline, a.outline, b.outline]
  | .assign name value => .rule "assignment" [.ofName name, value.outline]

/-- The outlines of several trees. -/
def outlines : List Tree → List Outline
  | [] => []
  | t :: rest => t.outline :: outlines rest

end

mutual

/-- An outline as data. -/
def Outline.toValue : Outline → Value
  | .leaf kind text => .dict [("type", .text kind), ("value", .text text)]
  | .rule name children =>
    .dict [("type", .text name), ("children", .list (outlineValues children))]

/-- Several outlines as data. -/
def outlineValues : List Outline → List Value
  | [] => []
  | o :: rest => o.toValue :: outlineValues rest

end

/-- The blanks before a line at a depth. -/
def indentation (depth : Nat) : String :=
  "".pushn ' ' (2 * depth)

mutual

/-- An outline as lines of text, two blanks per level. A rule with a leaf as its
    only child shares a line with it. -/
def Outline.prettyAt (depth : Nat) : Outline → String
  | .leaf _ text => indentation depth ++ text ++ "\n"
  | .rule name [.leaf _ text] => indentation depth ++ name ++ "\t" ++ text ++ "\n"
  | .rule name children =>
    indentation depth ++ name ++ "\n" ++ prettyLines (depth + 1) children

/-- Several outlines as lines of text. -/
def prettyLines (depth : Nat) : List Outline → String
  | [] => ""
  | o :: rest => o.prettyAt depth ++ prettyLines depth rest

end

/-- An outline as lines of text. -/
def Outline.pretty (o : Outline) : String :=
  o.prettyAt 0

/-! ## Names -/

/-- The name that a name or a chain of members of a name spells. -/
def Tree.dottedName? : Tree → Option String
  | .name s => some s
  | .member object s => object.dottedName?.map (· ++ "." ++ s)
  | _ => none

end TokenFormula.Source
