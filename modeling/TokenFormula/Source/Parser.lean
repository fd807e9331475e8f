import TokenFormula.Source.Lexer
import TokenFormula.Source.Tree
import TokenFormula.Text.Position

/-!
# From tokens to a parse tree

The parser reads one token at a time. Its state holds the unfinished constructs
around the current place, innermost first, and the finished operand, if one has
just been read. A token that closes or goes on a construct first finishes the
constructs inside it that bind at least as tightly.

Results:
* `State.step?`: the state after one more token, if the grammar allows it.
* `State.finish?`: the tree, if the text may end here.
* `parse`: the tree of a text, or the first place where it leaves the grammar.
-/

namespace TokenFormula.Source

/-- An unfinished construct that waits for an operand. -/
inductive Frame where
  | binary (op : BinaryOp) (left : Tree)
  | unary (op : UnaryOp)
  | assign (name : String)
  /-- The part between the question mark and the colon. -/
  | consequent (condition : Tree)
  /-- The part after the colon. -/
  | alternative (condition consequent : Tree)
  | group
  | array (items : List Tree)
  | call (callee : Tree) (arguments : List Tree)
  | index (object : Tree)

/-- Where the parser is. -/
inductive State where
  /-- An operand is due inside these constructs. -/
  | operand (stack : List Frame)
  /-- An operand has been read. -/
  | operator (stack : List Frame) (tree : Tree)
  /-- A member name of the tree is due. -/
  | member (stack : List Frame) (object : Tree)
  /-- The text has been closed by a semicolon. -/
  | done (tree : Tree)

/-! ## Finishing constructs -/

/-- Finishes the innermost constructs that bind at least as tightly as `level`;
    the choice and the assignment bind most loosely, at level zero. -/
def reduce (level : Nat) : List Frame → Tree → List Frame × Tree
  | .binary op left :: stack, t =>
    if level ≤ op.level then reduce level stack (.binary op left t)
    else (.binary op left :: stack, t)
  | .unary op :: stack, t =>
    if level ≤ UnaryOp.level then reduce level stack (.unary op t)
    else (.unary op :: stack, t)
  | .assign name :: stack, t =>
    if level = 0 then reduce level stack (.assign name t) else (.assign name :: stack, t)
  | .alternative c a :: stack, t =>
    if level = 0 then reduce level stack (.choice c a t) else (.alternative c a :: stack, t)
  | stack, t => (stack, t)

/-- The level of the constructs that a binary operator finishes before it: the
    power is grouped from the right and takes its left operand as it is. -/
def leftLevel (op : BinaryOp) : Nat :=
  match op with
  | .pow => op.level + 1
  | _ => op.level

/-- Whether a whole expression may start here, so that a name may be assigned. -/
def startsExpression : List Frame → Bool
  | .binary .. :: _ | .unary _ :: _ => false
  | _ => true

/-! ## Steps -/

/-- A token where an operand is due. -/
def stepOperand? (stack : List Frame) (w : Lexeme) : Option State :=
  match w with
  | .name s => some (.operator stack (.name s))
  | .number s => some (.operator stack (.number s))
  | .quoted s => some (.operator stack (.quoted s))
  | .keyword k => some (.operator stack (.keyword k))
  | .mark .openParen => some (.operand (.group :: stack))
  | .mark .openBracket => some (.operand (.array [] :: stack))
  | .mark .closeBracket =>
    match stack with
    | .array [] :: stack => some (.operator stack (.array []))
    | _ => none
  | .mark .closeParen =>
    match stack with
    | .call callee [] :: stack => some (.operator stack (.call callee []))
    | _ => none
  | .mark m => m.unary?.map fun op => .operand (.unary op :: stack)

/-- A closing parenthesis after the tree `t` inside `stack`. -/
def closeParen? (stack : List Frame) (t : Tree) : Option State :=
  match reduce 0 stack t with
  | (.group :: stack, t) => some (.operator stack (.group t))
  | (.call callee args :: stack, t) => some (.operator stack (.call callee (args ++ [t])))
  | _ => none

/-- A closing bracket after the tree `t` inside `stack`. -/
def closeBracket? (stack : List Frame) (t : Tree) : Option State :=
  match reduce 0 stack t with
  | (.array items :: stack, t) => some (.operator stack (.array (items ++ [t])))
  | (.index object :: stack, t) => some (.operator stack (.index object t))
  | _ => none

/-- A comma after the tree `t` inside `stack`. -/
def comma? (stack : List Frame) (t : Tree) : Option State :=
  match reduce 0 stack t with
  | (.array items :: stack, t) => some (.operand (.array (items ++ [t]) :: stack))
  | (.call callee args :: stack, t) => some (.operand (.call callee (args ++ [t]) :: stack))
  | _ => none

/-- A colon after the tree `t` inside `stack`. -/
def colon? (stack : List Frame) (t : Tree) : Option State :=
  match reduce 0 stack t with
  | (.consequent c :: stack, t) => some (.operand (.alternative c t :: stack))
  | _ => none

/-- An equals sign after the tree `t` inside `stack`. -/
def assign? (stack : List Frame) (t : Tree) : Option State :=
  match t with
  | .name s => if startsExpression stack then some (.operand (.assign s :: stack)) else none
  | _ => none

/-- A token where an operand has been read. -/
def stepOperator? (stack : List Frame) (t : Tree) (w : Lexeme) : Option State :=
  match w with
  | .mark .openParen => some (.operand (.call t [] :: stack))
  | .mark .openBracket => some (.operand (.index t :: stack))
  | .mark .dot => some (.member stack t)
  | .mark .assign => assign? stack t
  | .mark .question =>
    let (stack, t) := reduce BinaryOp.or.level stack t
    some (.operand (.consequent t :: stack))
  | .mark .colon => colon? stack t
  | .mark .comma => comma? stack t
  | .mark .closeParen => closeParen? stack t
  | .mark .closeBracket => closeBracket? stack t
  | .mark .semicolon =>
    match reduce 0 stack t with
    | ([], t) => some (.done t)
    | _ => none
  | .mark m =>
    m.binary?.map fun op =>
      let (stack, t) := reduce (leftLevel op) stack t
      .operand (.binary op t :: stack)
  | _ => none

/-- The state after one more token, if the grammar allows it. -/
def State.step? (s : State) (w : Lexeme) : Option State :=
  match s with
  | .operand stack => stepOperand? stack w
  | .operator stack t => stepOperator? stack t w
  | .member stack object =>
    match w with
    | .name s => some (.operator stack (.member object s))
    | _ => none
  | .done _ => none

/-- The tree, if the text may end here. -/
def State.finish? : State → Option Tree
  | .operator stack t =>
    match reduce 0 stack t with
    | ([], t) => some t
    | _ => none
  | .done t => some t
  | _ => none

/-- The state at the start of a text. -/
def State.initial : State := .operand []

/-- The state after several tokens, or the first that the grammar refuses. -/
def State.run (s : State) : List Token → Except Token State
  | [] => .ok s
  | t :: rest =>
    match s.step? t.lexeme with
    | some s => s.run rest
    | none => .error t

/-! ## Whole texts -/

/-- Where a text leaves the grammar. -/
inductive SyntaxError where
  /-- The token cannot stand here. -/
  | token (t : Token)
  /-- No token starts at this position. -/
  | character (offset : Nat)
  /-- The text ends too early; its last token starts at this position. -/
  | ending (last : Nat)
deriving DecidableEq, Repr

/-- The position of an error. -/
def SyntaxError.offset : SyntaxError → Nat
  | token t => t.offset
  | character offset => offset
  | ending last => last

/-- The tree of a token sequence after which the lexer stopped or the text
    ended. -/
def parseTokens (l : Lexed) : Except SyntaxError Tree :=
  match State.initial.run l.tokens with
  | .error t => .error (.token t)
  | .ok s =>
    match l.stop? with
    | some offset => .error (.character offset)
    | none =>
      match s.finish? with
      | some t => .ok t
      | none => .error (.ending ((l.tokens.getLast?.map Token.offset).getD 0))

/-- The tree of a text, or the first place where it leaves the grammar. -/
def parse (source : String) : Except SyntaxError Tree :=
  parseTokens (lex source.toList)

/-- Line and column of an error in its text. -/
def SyntaxError.lineColumn (source : String) (e : SyntaxError) : Nat × Nat :=
  Text.lineColumn source.toList e.offset

end TokenFormula.Source
