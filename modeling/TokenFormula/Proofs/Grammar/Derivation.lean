import TokenFormula.Source.Parser

/-!
# Derivations of the formula grammar

The grammar of formula texts over tokens, apart from the parser: one constructor
of `Derivation` per alternative of a rule. A derivation is read in three ways:
the tokens it derives, the parse tree, and the outline by rule names, where an
alternative of a single rule is left out and the others carry their names.

Results:
* `Derivation.word`, `Sentence.word`: the derived tokens.
* `Derivation.tree`, `Sentence.tree`: the parse tree.
* `Derivation.outline_tree`: the outline of the parse tree is that of the
  derivation.
* `Derivation.length_word`: the tree determines the number of tokens.
-/

namespace TokenFormula.Source

/-- The rules of the grammar. `primary` is an atom with the members, positions
    and arguments after it. -/
inductive Rule where
  | expr | assignment | conditional
  | logicOr | logicAnd | equality | comparison | sum | product
  | unary | power | primary | atom
deriving DecidableEq, Repr

/-- The alternatives that consist of one other rule. -/
inductive Passes : Rule → Rule → Prop
  | assignment : Passes .expr .assignment
  | conditional : Passes .expr .conditional
  | logicOr : Passes .conditional .logicOr
  | logicAnd : Passes .logicOr .logicAnd
  | equality : Passes .logicAnd .equality
  | comparison : Passes .equality .comparison
  | sum : Passes .comparison .sum
  | product : Passes .sum .product
  | unary : Passes .product .unary
  | power : Passes .unary .power
  | primary : Passes .power .primary
  | atom : Passes .primary .atom

/-- The alternatives of two rules around a sign: `Joins N L m op R` says that
    the rule `N` has the alternative `L m R`, which stands for the operator `op`. -/
inductive Joins : Rule → Rule → Mark → BinaryOp → Rule → Prop
  | or : Joins .logicOr .logicOr .or .or .logicAnd
  | and : Joins .logicAnd .logicAnd .and .and .equality
  | strictEq : Joins .equality .equality .strictEq .strictEq .comparison
  | strictNe : Joins .equality .equality .strictNe .strictNe .comparison
  | eq : Joins .equality .equality .eq .eq .comparison
  | ne : Joins .equality .equality .ne .ne .comparison
  | less : Joins .comparison .comparison .less .lt .sum
  | greater : Joins .comparison .comparison .greater .gt .sum
  | lessEq : Joins .comparison .comparison .lessEq .le .sum
  | greaterEq : Joins .comparison .comparison .greaterEq .ge .sum
  | plus : Joins .sum .sum .plus .add .product
  | minus : Joins .sum .sum .minus .sub .product
  | star : Joins .product .product .star .mul .unary
  | slash : Joins .product .product .slash .div .unary
  | percent : Joins .product .product .percent .mod .unary
  | caret : Joins .power .primary .caret .pow .unary
  | doubleStar : Joins .power .primary .doubleStar .pow .unary

/-- The alternatives of a sign before an operand. -/
inductive Signs : Mark → UnaryOp → Prop
  | minus : Signs .minus .neg
  | plus : Signs .plus .pos
  | bang : Signs .bang .not

mutual

/-- The derivations from a rule. -/
inductive Derivation : Rule → Type
  | pass {N M : Rule} (h : Passes N M) (d : Derivation M) : Derivation N
  | assign (name : String) (value : Derivation .expr) : Derivation .assignment
  | choice (condition : Derivation .logicOr) (consequent alternative : Derivation .expr) :
    Derivation .conditional
  | join {N L R : Rule} {m : Mark} {op : BinaryOp} (h : Joins N L m op R)
    (left : Derivation L) (right : Derivation R) : Derivation N
  | sign {m : Mark} {op : UnaryOp} (h : Signs m op) (operand : Derivation .unary) :
    Derivation .unary
  | member (object : Derivation .primary) (name : String) : Derivation .primary
  | index (object : Derivation .primary) (position : Derivation .expr) : Derivation .primary
  | call (callee : Derivation .primary) : Derivation .primary
  | callWith (callee : Derivation .primary) (arguments : Arguments) : Derivation .primary
  | number (s : String) : Derivation .atom
  | quoted (s : String) : Derivation .atom
  | keyword (k : Keyword) : Derivation .atom
  | name (s : String) : Derivation .atom
  | group (body : Derivation .expr) : Derivation .atom
  | array : Derivation .atom
  | arrayOf (items : Arguments) : Derivation .atom

/-- The derivations from the rule `arguments`: one expression or more, with
    commas between them. -/
inductive Arguments : Type
  | last (e : Derivation .expr) : Arguments
  | more (e : Derivation .expr) (rest : Arguments) : Arguments

end

/-- The derivations from the rule `start`: an expression and maybe a semicolon. -/
inductive Sentence where
  | plain (e : Derivation .expr)
  | closed (e : Derivation .expr)

/-! ## Tokens -/

mutual

/-- The tokens that a derivation derives. -/
def Derivation.word : {N : Rule} → Derivation N → List Lexeme
  | _, .pass _ d => d.word
  | _, .assign name value => .name name :: .mark .assign :: value.word
  | _, .choice c a b => c.word ++ .mark .question :: (a.word ++ .mark .colon :: b.word)
  | _, .join (m := m) _ l r => l.word ++ .mark m :: r.word
  | _, .sign (m := m) _ d => .mark m :: d.word
  | _, .member d name => d.word ++ [.mark .dot, .name name]
  | _, .index d e => d.word ++ .mark .openBracket :: (e.word ++ [.mark .closeBracket])
  | _, .call d => d.word ++ [.mark .openParen, .mark .closeParen]
  | _, .callWith d args => d.word ++ .mark .openParen :: (args.word ++ [.mark .closeParen])
  | _, .number s => [.number s]
  | _, .quoted s => [.quoted s]
  | _, .keyword k => [.keyword k]
  | _, .name s => [.name s]
  | _, .group e => .mark .openParen :: (e.word ++ [.mark .closeParen])
  | _, .array => [.mark .openBracket, .mark .closeBracket]
  | _, .arrayOf items => .mark .openBracket :: (items.word ++ [.mark .closeBracket])

/-- The tokens of arguments. -/
def Arguments.word : Arguments → List Lexeme
  | .last e => e.word
  | .more e rest => e.word ++ .mark .comma :: rest.word

end

/-- The tokens of a sentence. -/
def Sentence.word : Sentence → List Lexeme
  | plain e => e.word
  | closed e => e.word ++ [.mark .semicolon]

/-! ## Parse trees -/

mutual

/-- The parse tree of a derivation. -/
def Derivation.tree : {N : Rule} → Derivation N → Tree
  | _, .pass _ d => d.tree
  | _, .assign name value => .assign name value.tree
  | _, .choice c a b => .choice c.tree a.tree b.tree
  | _, @Derivation.join _ _ _ _ op _ l r => .binary op l.tree r.tree
  | _, @Derivation.sign _ op _ d => .unary op d.tree
  | _, .member d name => .member d.tree name
  | _, .index d e => .index d.tree e.tree
  | _, .call d => .call d.tree []
  | _, .callWith d args => .call d.tree args.trees
  | _, .number s => .number s
  | _, .quoted s => .quoted s
  | _, .keyword k => .keyword k
  | _, .name s => .name s
  | _, .group e => .group e.tree
  | _, .array => .array []
  | _, .arrayOf items => .array items.trees

/-- The parse trees of arguments. -/
def Arguments.trees : Arguments → List Tree
  | .last e => [e.tree]
  | .more e rest => e.tree :: rest.trees

end

/-- The parse tree of a sentence. -/
def Sentence.tree : Sentence → Tree
  | plain e | closed e => e.tree

/-! ## Outlines -/

/-- The name of the alternative around a sign. -/
def joinAlias : Mark → String
  | .or => "or_"
  | .and => "and_"
  | .strictEq => "strict_eq"
  | .strictNe => "strict_ne"
  | .eq => "eq"
  | .ne => "ne"
  | .less => "lt"
  | .greater => "gt"
  | .lessEq => "le"
  | .greaterEq => "ge"
  | .plus => "add"
  | .minus => "sub"
  | .star => "mul"
  | .slash => "div"
  | .percent => "mod"
  | .caret | .doubleStar => "pow"
  | _ => ""

/-- The name of the alternative of a sign before an operand. -/
def signAlias : Mark → String
  | .minus => "neg"
  | .plus => "pos"
  | .bang => "not_"
  | _ => ""

/-- The name of the alternative of a keyword. -/
def keywordAlias : Keyword → String
  | .true => "true"
  | .false => "false"
  | .null => "null"

mutual

/-- The outline of a derivation: a node per named alternative, a leaf per name,
    number and quoted text. -/
def Derivation.outline : {N : Rule} → Derivation N → Outline
  | _, .pass _ d => d.outline
  | _, .assign name value => .rule "assignment" [.leaf "NAME" name, value.outline]
  | _, .choice c a b => .rule "ternary" [c.outline, a.outline, b.outline]
  | _, .join (m := m) _ l r => .rule (joinAlias m) [l.outline, r.outline]
  | _, .sign (m := m) _ d => .rule (signAlias m) [d.outline]
  | _, .member d name => .rule "member" [d.outline, .leaf "NAME" name]
  | _, .index d e => .rule "index" [d.outline, e.outline]
  | _, .call d => .rule "call" [d.outline]
  | _, .callWith d args => .rule "call" [d.outline, .rule "arguments" args.outlines]
  | _, .number s => .rule "number" [.leaf "NUMBER" s]
  | _, .quoted s => .rule "string" [.leaf "STRING" s]
  | _, .keyword k => .rule (keywordAlias k) []
  | _, .name s => .rule "var" [.leaf "NAME" s]
  | _, .group e => .rule "group" [e.outline]
  | _, .array => .rule "array" []
  | _, .arrayOf items => .rule "array" [.rule "arguments" items.outlines]

/-- The outlines of arguments. -/
def Arguments.outlines : Arguments → List Outline
  | .last e => [e.outline]
  | .more e rest => e.outline :: rest.outlines

end

/-- The outline of a sentence. -/
def Sentence.outline : Sentence → Outline
  | plain e | closed e => e.outline

theorem Joins.rule_eq {N L R : Rule} {m : Mark} {op : BinaryOp} (h : Joins N L m op R) :
    binaryRule op = joinAlias m := by
  cases h <;> rfl

theorem Signs.rule_eq {m : Mark} {op : UnaryOp} (h : Signs m op) : unaryRule op = signAlias m := by
  cases h <;> rfl

theorem keyword_rule_eq (k : Keyword) : k.spelling = keywordAlias k := by
  cases k <;> rfl

theorem argumentOutline_of_ne_nil {os : List Outline} (h : os ≠ []) :
    argumentOutline os = [.rule "arguments" os] := by
  cases os with
  | nil => exact absurd rfl h
  | cons o rest => rfl

theorem Arguments.outlines_ne_nil (args : Arguments) : args.outlines ≠ [] := by
  cases args <;> simp [Arguments.outlines]

mutual

/-- The outline of the parse tree is that of the derivation. -/
theorem Derivation.outline_tree : {N : Rule} → (d : Derivation N) → d.tree.outline = d.outline
  | _, .pass _ d => d.outline_tree
  | _, .assign name value => by
    rw [Derivation.tree, Tree.outline, value.outline_tree]; rfl
  | _, .choice c a b => by
    rw [Derivation.tree, Tree.outline, c.outline_tree, a.outline_tree, b.outline_tree]; rfl
  | _, .join h l r => by
    rw [Derivation.tree, Tree.outline, l.outline_tree, r.outline_tree, h.rule_eq]; rfl
  | _, .sign h d => by
    rw [Derivation.tree, Tree.outline, d.outline_tree, h.rule_eq]; rfl
  | _, .member d name => by rw [Derivation.tree, Tree.outline, d.outline_tree]; rfl
  | _, .index d e => by
    rw [Derivation.tree, Tree.outline, d.outline_tree, e.outline_tree]; rfl
  | _, .call d => by rw [Derivation.tree, Tree.outline, d.outline_tree]; rfl
  | _, .callWith d args => by
    rw [Derivation.tree, Tree.outline, d.outline_tree, args.outlines_trees,
      argumentOutline_of_ne_nil args.outlines_ne_nil]
    rfl
  | _, .number _ => rfl
  | _, .quoted _ => rfl
  | _, .keyword k => by rw [Derivation.tree, Tree.outline, keyword_rule_eq]; rfl
  | _, .name _ => rfl
  | _, .group e => by rw [Derivation.tree, Tree.outline, e.outline_tree]; rfl
  | _, .array => rfl
  | _, .arrayOf items => by
    rw [Derivation.tree, Tree.outline, items.outlines_trees,
      argumentOutline_of_ne_nil items.outlines_ne_nil]
    rfl

/-- The outlines of the parse trees of arguments. -/
theorem Arguments.outlines_trees : (args : Arguments) → Source.outlines args.trees = args.outlines
  | .last e => by rw [Arguments.trees, Source.outlines, e.outline_tree]; rfl
  | .more e rest => by
    rw [Arguments.trees, Source.outlines, e.outline_tree, rest.outlines_trees]; rfl

end

theorem Sentence.outline_tree (d : Sentence) : d.tree.outline = d.outline := by
  cases d with
  | plain e => exact e.outline_tree
  | closed e => exact e.outline_tree

/-! ## Number of tokens -/

mutual

/-- The number of tokens of a text with this parse tree. -/
def Tree.width : Tree → Nat
  | .number _ | .quoted _ | .keyword _ | .name _ => 1
  | .group body => body.width + 2
  | .array items => listWidth items + 2
  | .member object _ => object.width + 2
  | .index object position => object.width + position.width + 2
  | .call callee args => callee.width + listWidth args + 2
  | .unary _ operand => operand.width + 1
  | .binary _ l r => l.width + r.width + 1
  | .choice c a b => c.width + a.width + b.width + 2
  | .assign _ value => value.width + 2

/-- The number of tokens between brackets, commas included. -/
def listWidth : List Tree → Nat
  | [] => 0
  | [t] => t.width
  | t :: u :: rest => t.width + 1 + listWidth (u :: rest)

end

theorem Arguments.trees_ne_nil (args : Arguments) : args.trees ≠ [] := by
  cases args <;> simp [Arguments.trees]

theorem listWidth_cons {ts : List Tree} (t : Tree) (h : ts ≠ []) :
    listWidth (t :: ts) = t.width + 1 + listWidth ts := by
  cases ts with
  | nil => exact absurd rfl h
  | cons u rest => rw [listWidth]

mutual

/-- The tree determines the number of tokens. -/
theorem Derivation.length_word : {N : Rule} → (d : Derivation N) → d.word.length = d.tree.width
  | _, .pass _ d => d.length_word
  | _, .assign _ value => by
    have := value.length_word
    simp only [Derivation.word, Derivation.tree, Tree.width, List.length_cons]; omega
  | _, .choice c a b => by
    have := c.length_word
    have := a.length_word
    have := b.length_word
    simp only [Derivation.word, Derivation.tree, Tree.width, List.length_append,
      List.length_cons]
    omega
  | _, .join _ l r => by
    have := l.length_word
    have := r.length_word
    simp only [Derivation.word, Derivation.tree, Tree.width, List.length_append,
      List.length_cons]
    omega
  | _, .sign _ d => by
    have := d.length_word
    simp only [Derivation.word, Derivation.tree, Tree.width, List.length_cons]; omega
  | _, .member d _ => by
    have := d.length_word
    simp only [Derivation.word, Derivation.tree, Tree.width, List.length_append,
      List.length_cons, List.length_nil]
    omega
  | _, .index d e => by
    have := d.length_word
    have := e.length_word
    simp only [Derivation.word, Derivation.tree, Tree.width, List.length_append,
      List.length_cons, List.length_nil]
    omega
  | _, .call d => by
    have := d.length_word
    simp only [Derivation.word, Derivation.tree, Tree.width, listWidth, List.length_append,
      List.length_cons, List.length_nil]
    omega
  | _, .callWith d args => by
    have := d.length_word
    have := args.length_word
    simp only [Derivation.word, Derivation.tree, Tree.width, List.length_append,
      List.length_cons, List.length_nil]
    omega
  | _, .number _ => rfl
  | _, .quoted _ => rfl
  | _, .keyword _ => rfl
  | _, .name _ => rfl
  | _, .group e => by
    have := e.length_word
    simp only [Derivation.word, Derivation.tree, Tree.width, List.length_append,
      List.length_cons, List.length_nil]
    omega
  | _, .array => by simp [Derivation.word, Derivation.tree, Tree.width, listWidth]
  | _, .arrayOf items => by
    have := items.length_word
    simp only [Derivation.word, Derivation.tree, Tree.width, List.length_append,
      List.length_cons, List.length_nil]
    omega

/-- The trees of arguments determine the number of their tokens. -/
theorem Arguments.length_word : (args : Arguments) → args.word.length = listWidth args.trees
  | .last e => by rw [Arguments.word, Arguments.trees, listWidth, e.length_word]
  | .more e rest => by
    have := e.length_word
    have := rest.length_word
    rw [Arguments.word, Arguments.trees, listWidth_cons _ rest.trees_ne_nil, List.length_append,
      List.length_cons]
    omega

end

end TokenFormula.Source
