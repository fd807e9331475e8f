import TokenFormula.Operator

/-!
# Tokens

The words of a formula text: names, numbers, quoted texts, three keywords and
marks.

Results:
* `Lexeme.spelling`: the characters of a word.
* `Mark.binary?`, `Mark.unary?`: the operator that a mark stands for.
-/

namespace TokenFormula.Source

/-- Operators, brackets and separators. -/
inductive Mark where
  | semicolon | assign | question | colon | comma | dot
  | openBracket | closeBracket | openParen | closeParen
  | or | and | strictEq | strictNe | eq | ne
  | less | greater | lessEq | greaterEq
  | plus | minus | star | slash | percent
  | bang | caret | doubleStar
deriving DecidableEq, Repr

/-- The names that stand for values. -/
inductive Keyword where
  | true | false | null
deriving DecidableEq, Repr

/-- A word of a formula text. Numbers and quoted texts are kept as they are
    spelled. -/
inductive Lexeme where
  | name (s : String)
  | number (s : String)
  | quoted (s : String)
  | keyword (k : Keyword)
  | mark (m : Mark)
deriving DecidableEq, Repr

/-- A word and the position of its first character. -/
structure Token where
  lexeme : Lexeme
  offset : Nat
deriving DecidableEq, Repr

namespace Mark

/-- All marks, longer ones first, so that the first that fits is the longest. -/
def all : List Mark :=
  [strictEq, strictNe, or, and, eq, ne, lessEq, greaterEq, doubleStar, semicolon, assign, question,
    colon, comma, dot, openBracket, closeBracket, openParen, closeParen, less, greater, plus,
    minus, star, slash, percent, bang, caret]

/-- The characters of a mark. -/
def spelling : Mark → String
  | semicolon => ";"
  | assign => "="
  | question => "?"
  | colon => ":"
  | comma => ","
  | dot => "."
  | openBracket => "["
  | closeBracket => "]"
  | openParen => "("
  | closeParen => ")"
  | or => "||"
  | and => "&&"
  | strictEq => "==="
  | strictNe => "!=="
  | eq => "=="
  | ne => "!="
  | less => "<"
  | greater => ">"
  | lessEq => "<="
  | greaterEq => ">="
  | plus => "+"
  | minus => "-"
  | star => "*"
  | slash => "/"
  | percent => "%"
  | bang => "!"
  | caret => "^"
  | doubleStar => "**"

/-- The binary operator that a mark stands for; two marks stand for the power. -/
def binary? : Mark → Option BinaryOp
  | or => some .or
  | and => some .and
  | strictEq => some .strictEq
  | strictNe => some .strictNe
  | eq => some .eq
  | ne => some .ne
  | less => some .lt
  | greater => some .gt
  | lessEq => some .le
  | greaterEq => some .ge
  | plus => some .add
  | minus => some .sub
  | star => some .mul
  | slash => some .div
  | percent => some .mod
  | caret | doubleStar => some .pow
  | _ => none

/-- The unary operator that a mark stands for before an operand. -/
def unary? : Mark → Option UnaryOp
  | minus => some .neg
  | plus => some .pos
  | bang => some .not
  | _ => none

/-- The marks that may stand where an operand is due. -/
def startsOperand : Mark → Bool
  | openBracket | openParen | closeBracket | closeParen | minus | plus | bang => true
  | _ => false

end Mark

/-- The characters of a keyword. -/
def Keyword.spelling : Keyword → String
  | true => "true"
  | false => "false"
  | null => "null"

/-- The keyword that a name is. -/
def Keyword.ofName? (s : String) : Option Keyword :=
  [true, false, null].find? fun k => k.spelling == s

/-- The characters of a word. -/
def Lexeme.spelling : Lexeme → String
  | name s | number s | quoted s => s
  | keyword k => k.spelling
  | mark m => m.spelling

end TokenFormula.Source
