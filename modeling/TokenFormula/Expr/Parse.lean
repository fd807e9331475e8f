import TokenFormula.Expr.Complexity
import TokenFormula.Json.Writer
import TokenFormula.Source.Literal
import TokenFormula.Source.Parser
import TokenFormula.Text.Blank

/-!
# Expressions of formula texts

A parse tree becomes an expression. Constructs that expressions do not model
become fallback literals that hold a description of the construct. Reading a
text always yields a tree: a text outside the grammar becomes a literal that
holds the text, with one error in its note.

Results:
* `Expr.ofTree`: the expression of a parse tree.
* `Expr.parse`: the expression of a formula text.
* `SyntaxError.message`: what a note says of a text outside the grammar.
-/

namespace TokenFormula

/-! ## Parse trees -/

/-- A parse tree as JSON text. -/
def Source.Tree.describe (t : Source.Tree) : Except Fault String :=
  Json.Style.compact.write t.outline.toValue

namespace Expr

open Source (Tree)

/-- The name under which the members of the table of functions are read as
    calls without arguments. -/
def mathName : String := "Math"

/-- The fallback that holds the description of a tree. -/
def describe (t : Tree) : Except Fault Expr := do
  return fallback (← t.describe)

/-- The expression of a member: a call without arguments for a member of the
    table of functions, else a fallback with the dotted name or a description. -/
def ofMember (object : Tree) (name : String) : Except Fault Expr :=
  let whole := Tree.member object name
  match object with
  | .name s =>
    if s = mathName then .ok (call (.text (mathName ++ "." ++ name)) [] none)
    else .ok (fallback (s ++ "." ++ name))
  | _ =>
    match whole.dottedName? with
    | some s => .ok (fallback s)
    | none => describe whole

/-- The value that a keyword stands for. -/
def keywordValue : Source.Keyword → Value
  | .true => .bool true
  | .false => .bool false
  | .null => .null

mutual

/-- The expression of a parse tree. It fails only on an integer with too many
    digits. -/
def ofTree : Tree → Except Fault Expr
  | .number s => do return number (← Source.readNumber s)
  | .quoted s => .ok (literal (some (.text (Source.unquote s))) false none)
  | .keyword k => .ok (literal (some (keywordValue k)) false none)
  | .name s => .ok (var (.text s) none)
  | .group body => do return group (← ofTree body) none
  | .member object name => ofMember object name
  | .call callee args => do
    return call (.text (callee.dottedName?.getD "unknown")) (← ofTrees args) none
  | .unary op operand => do return unary (.text op.symbol) (← ofTree operand) none
  | .binary op left right => do
    let left ← ofTree left
    let right ← ofTree right
    return binary (.text op.symbol) left right none
  | .assign name value => do return assign (.text name) (← ofTree value) none
  | .array items => describe (.array items)
  | .index object position => describe (.index object position)
  | .choice c a b => describe (.choice c a b)

/-- The expressions of several parse trees. -/
def ofTrees : List Tree → Except Fault (List Expr)
  | [] => .ok []
  | t :: rest => do
    let e ← ofTree t
    let es ← ofTrees rest
    return e :: es

end

/-! ## Formula texts -/

/-- Where something is in a text. -/
def placeText (source : String) (e : Source.SyntaxError) : String :=
  let (line, column) := e.lineColumn source
  " at line " ++ toString line ++ ", column " ++ toString column

/-- What a note says of a text outside the grammar. -/
def syntaxMessage (source : String) (e : Source.SyntaxError) : String :=
  match e with
  | .ending _ =>
    if (Text.trim source.toList).isEmpty then "Empty expression"
    else "Unexpected end of expression" ++ placeText source e
  | .token t => "Unexpected token " ++ Text.quoted t.lexeme.spelling ++ placeText source e
  | .character offset =>
    let character := ((source.toList[offset]?).map String.singleton).getD ""
    "Unexpected character " ++ Text.quoted character ++ placeText source e

/-- The literal that stands for a text that cannot be read. -/
def errorLiteral (source message : String) : Expr :=
  literal (some (.text source)) false
    (some ⟨.text formVersion, [.text message], .text Tier.low.name⟩)

/-- The tree with the note of a text that has been read. -/
def noted (e : Expr) : Expr :=
  e.withNote (some ⟨.text formVersion, [], .text e.tier.name⟩)

/-- The expression of a formula text. -/
def parse (source : String) : Expr :=
  match Source.parse source with
  | .error e => errorLiteral source (syntaxMessage source e)
  | .ok t =>
    match ofTree t with
    | .error f => errorLiteral source ("ValueError: " ++ f.message)
    | .ok e => e.noted

end Expr
end TokenFormula
