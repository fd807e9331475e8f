import TokenFormula.Proofs.Grammar.Complete

/-!
# What the parser reads is derivable

The stack of the parser stands for the tokens read so far: every frame holds the
parts of one alternative before the place that is still due, and each part is
derived. The level of that place bounds from below how tightly the next part
binds, so a frame can be finished into an alternative of the grammar.

Results:
* `Stands.reduce`: finishing constructs keeps the tokens that are stood for.
* `Reached.step`, `Reached.steps`: every token read is stood for.
* `exists_sentence_of_finish`: a text that may end here is a sentence with the
  tree of the parser.
-/

namespace TokenFormula.Source

/-! ## Derivable trees -/

/-- The loosest rule of a level. -/
def Rule.ofLevel : Nat → Rule
  | 0 => .expr
  | 1 => .logicOr
  | 2 => .logicAnd
  | 3 => .equality
  | 4 => .comparison
  | 5 => .sum
  | 6 => .product
  | 7 => .unary
  | _ => .primary

/-- The loosest rule of this level derives the tokens with the tree. -/
def Derives (level : Nat) (word : List Lexeme) (t : Tree) : Prop :=
  ∃ d : Derivation (Rule.ofLevel level), d.word = word ∧ d.tree = t

theorem Derives.of_derivation {level : Nat} (d : Derivation (Rule.ofLevel level)) :
    Derives level d.word d.tree :=
  ⟨d, rfl, rfl⟩

/-- A derivation through an alternative of one rule. -/
theorem Derives.of_passes {level : Nat} {M : Rule} (h : Passes (Rule.ofLevel level) M)
    (d : Derivation M) : Derives level d.word d.tree :=
  ⟨.pass h d, rfl, rfl⟩

theorem Derives.step {level : Nat} {word : List Lexeme} {t : Tree}
    (h : Derives (level + 1) word t) : Derives level word t := by
  obtain ⟨d, rfl, rfl⟩ := h
  match level, d with
  | 0, d => exact ⟨.pass .conditional (.pass .logicOr d), rfl, rfl⟩
  | 1, d => exact @of_passes 1 _ .logicAnd d
  | 2, d => exact @of_passes 2 _ .equality d
  | 3, d => exact @of_passes 3 _ .comparison d
  | 4, d => exact @of_passes 4 _ .sum d
  | 5, d => exact @of_passes 5 _ .product d
  | 6, d => exact @of_passes 6 _ .unary d
  | 7, d => exact ⟨.pass .power (.pass .primary d), rfl, rfl⟩
  | n + 8, d => exact @of_derivation (n + 8) d

theorem Derives.mono {level level' : Nat} (hl : level ≤ level') {word : List Lexeme} {t : Tree}
    (h : Derives level' word t) : Derives level word t := by
  induction hl with
  | refl => exact h
  | step _ ih => exact ih h.step

/-- Every rule is reached from the loosest rule of its level. -/
theorem Derivation.derives {N : Rule} (d : Derivation N) : Derives N.level d.word d.tree := by
  cases N with
  | assignment => exact @Derives.of_passes 0 _ .assignment d
  | conditional => exact @Derives.of_passes 0 _ .conditional d
  | power => exact @Derives.of_passes 7 _ .power d
  | atom => exact @Derives.of_passes 9 _ .atom d
  | _ => exact ⟨d, rfl, rfl⟩

theorem Derives.atom {word : List Lexeme} {t : Tree} (d : Derivation .atom)
    (hw : d.word = word) (ht : d.tree = t) : Derives 9 word t := by
  rw [← hw, ← ht]
  exact d.derives

theorem derives_choice {u v w : List Lexeme} {c a b : Tree} (hc : Derives 1 u c)
    (ha : Derives 0 v a) (hb : Derives 0 w b) :
    Derives 0 (u ++ .mark .question :: (v ++ .mark .colon :: w)) (.choice c a b) := by
  obtain ⟨dc, rfl, rfl⟩ := hc
  obtain ⟨da, rfl, rfl⟩ := ha
  obtain ⟨db, rfl, rfl⟩ := hb
  exact (Derivation.choice dc da db).derives

/-- The level of the operand after the sign of an operator. -/
def rightLevel (op : BinaryOp) : Nat :=
  match op with
  | .pow => UnaryOp.level
  | _ => op.level + 1

section Joins

variable {N L R : Rule} {m : Mark} {op : BinaryOp}

theorem Joins.left_eq (h : Joins N L m op R) : L = Rule.ofLevel (leftLevel op) := by
  cases h <;> rfl

theorem Joins.right_eq (h : Joins N L m op R) : R = Rule.ofLevel (rightLevel op) := by
  cases h <;> rfl

theorem Joins.derives (h : Joins N L m op R) {u v : List Lexeme} {l r : Tree}
    (hl : Derives (leftLevel op) u l) (hr : Derives (rightLevel op) v r) :
    Derives N.level (u ++ .mark m :: v) (.binary op l r) := by
  obtain rfl := h.left_eq
  obtain rfl := h.right_eq
  obtain ⟨dl, rfl, rfl⟩ := hl
  obtain ⟨dr, rfl, rfl⟩ := hr
  exact (Derivation.join h dl dr).derives

/-- A level where the operator finishes constructs is one of its rule. -/
theorem Joins.le_level (h : Joins N L m op R) {level : Nat} (hl : level ≤ op.level)
    (h8 : level ≠ 8) : level ≤ N.level := by
  cases h <;> first | exact hl | exact Nat.le_of_lt_succ (Nat.lt_of_le_of_ne hl h8)

/-- The rule of an operator fits every place that is no tighter than its left operand. -/
theorem Joins.le_level_of_le_left (h : Joins N L m op R) {level : Nat}
    (hl : level ≤ leftLevel op) (h7 : level ≤ 7) : level ≤ N.level := by
  cases h <;> first | exact hl | exact h7

end Joins

/-- Every sign between operands belongs to an alternative. -/
theorem exists_joins {m : Mark} {op : BinaryOp} (h : m.binary? = some op) :
    ∃ N L R, Joins N L m op R := by
  cases m <;> cases h <;> exact ⟨_, _, _, by constructor⟩

/-! ## Arguments before the current one -/

/-- Items with a comma after each. -/
inductive Listed : List Tree → List Lexeme → Prop
  | nil : Listed [] []
  | snoc {items : List Tree} {v u : List Lexeme} {t : Tree} (h : Listed items v)
    (ht : Derives 0 u t) : Listed (items ++ [t]) (v ++ (u ++ [.mark .comma]))

theorem Listed.prepend {items : List Tree} {v : List Lexeme} (h : Listed items v) :
    ∀ args : Arguments, ∃ args' : Arguments,
      args'.word = v ++ args.word ∧ args'.trees = items ++ args.trees := by
  induction h with
  | nil => intro args; exact ⟨args, rfl, rfl⟩
  | snoc h ht ih =>
    intro args
    obtain ⟨e, rfl, rfl⟩ := ht
    obtain ⟨args', hw, ht⟩ := ih (.more e args)
    refine ⟨args', ?_, ?_⟩
    · rw [hw, List.append_assoc, List.append_assoc]
      rfl
    · rw [ht, List.append_assoc]
      rfl

/-- The last item closes the list. -/
theorem Listed.close {items : List Tree} {v u : List Lexeme} {t : Tree} (h : Listed items v)
    (ht : Derives 0 u t) :
    ∃ args : Arguments, args.word = v ++ u ∧ args.trees = items ++ [t] := by
  obtain ⟨e, rfl, rfl⟩ := ht
  exact h.prepend (.last e)

/-! ## Stacks -/

/-- The stack stands for these tokens, and a part of at least this level is due
    on it. -/
inductive Stands : Nat → List Frame → List Lexeme → Prop
  | empty : Stands 0 [] []
  | binary {N L R : Rule} {m : Mark} {op : BinaryOp} {k : Nat} {stack : List Frame}
    {w u : List Lexeme} {l : Tree} (h : Joins N L m op R) (hs : Stands k stack w)
    (hk : k ≤ N.level) (hl : Derives (leftLevel op) u l) :
    Stands (rightLevel op) (.binary op l :: stack) (w ++ (u ++ [.mark m]))
  | unary {m : Mark} {op : UnaryOp} {k : Nat} {stack : List Frame} {w : List Lexeme}
    (h : Signs m op) (hs : Stands k stack w) :
    Stands 7 (.unary op :: stack) (w ++ [.mark m])
  | assign {name : String} {stack : List Frame} {w : List Lexeme} (hs : Stands 0 stack w) :
    Stands 0 (.assign name :: stack) (w ++ [.name name, .mark .assign])
  | consequent {stack : List Frame} {w u : List Lexeme} {c : Tree} (hs : Stands 0 stack w)
    (hc : Derives 1 u c) : Stands 0 (.consequent c :: stack) (w ++ (u ++ [.mark .question]))
  | alternative {stack : List Frame} {w u v : List Lexeme} {c a : Tree} (hs : Stands 0 stack w)
    (hc : Derives 1 u c) (ha : Derives 0 v a) :
    Stands 0 (.alternative c a :: stack)
      (w ++ (u ++ .mark .question :: (v ++ [.mark .colon])))
  | group {k : Nat} {stack : List Frame} {w : List Lexeme} (hs : Stands k stack w) :
    Stands 0 (.group :: stack) (w ++ [.mark .openParen])
  | array {k : Nat} {stack : List Frame} {w v : List Lexeme} {items : List Tree}
    (hs : Stands k stack w) (hi : Listed items v) :
    Stands 0 (.array items :: stack) (w ++ .mark .openBracket :: v)
  | call {k : Nat} {stack : List Frame} {w u v : List Lexeme} {callee : Tree} {args : List Tree}
    (hs : Stands k stack w) (hc : Derives 9 u callee) (hi : Listed args v) :
    Stands 0 (.call callee args :: stack) (w ++ (u ++ .mark .openParen :: v))
  | index {k : Nat} {stack : List Frame} {w u : List Lexeme} {object : Tree}
    (hs : Stands k stack w) (ho : Derives 9 u object) :
    Stands 0 (.index object :: stack) (w ++ (u ++ [.mark .openBracket]))

theorem rightLevel_le (op : BinaryOp) : rightLevel op ≤ 7 := by
  cases op <;> decide

theorem rightLevel_le_succ (op : BinaryOp) : rightLevel op ≤ op.level + 1 := by
  cases op <;> decide

theorem Stands.le_seven {k : Nat} {stack : List Frame} {w : List Lexeme} (h : Stands k stack w) :
    k ≤ 7 := by
  cases h with
  | binary => exact rightLevel_le _
  | unary => exact Nat.le_refl 7
  | _ => exact Nat.zero_le 7

/-- Where nothing is finished at a level, the place that is due is no tighter. -/
theorem Stands.le_of_open {k level : Nat} {stack : List Frame} {w : List Lexeme}
    (h : Stands k stack w) (ho : Open level stack) : k ≤ level := by
  cases h with
  | binary => exact Nat.le_trans (rightLevel_le_succ _) ho
  | unary => exact Nat.le_of_lt ho
  | _ => exact Nat.zero_le level

/-- Where an expression may start, an expression is due. -/
theorem Stands.eq_zero {k : Nat} {stack : List Frame} {w : List Lexeme} (h : Stands k stack w)
    (hs : startsExpression stack = true) : k = 0 := by
  cases h with
  | binary | unary => cases hs
  | _ => rfl

theorem BinaryOp.level_pos (op : BinaryOp) : 0 < op.level := by
  cases op <;> decide

/-- Where no operator is open, an expression is due. -/
theorem Stands.eq_zero_of_open {k : Nat} {stack : List Frame} {w : List Lexeme}
    (h : Stands k stack w) (ho : Open 1 stack) : k = 0 := by
  cases h with
  | binary => exact absurd (BinaryOp.level_pos _) (Nat.not_lt.mpr (Nat.le_of_lt_succ ho))
  | unary => exact absurd (show UnaryOp.level < 1 from ho) (by decide)
  | _ => rfl

theorem Stands.nil_eq {k : Nat} {w : List Lexeme} (h : Stands k [] w) : w = [] := by
  cases h
  rfl

/-! ## Finishing constructs -/

/-- A stack and a finished operand on it stand for these tokens; the operand
    binds at least as tightly as `level`, and nothing below it does. -/
structure Finished (level : Nat) (stack : List Frame) (t : Tree) (word : List Lexeme) : Prop where
  is_open : Open level stack
  split : ∃ k j w u, Stands k stack w ∧ Derives j u t ∧ k ≤ j ∧ level ≤ j ∧ word = w ++ u

/-- Finishing constructs keeps the tokens. -/
theorem Stands.reduce {k : Nat} {stack : List Frame} {w : List Lexeme} (h : Stands k stack w)
    {level : Nat} (h8 : level ≠ 8) :
    ∀ {j : Nat} {u : List Lexeme} {t : Tree}, Derives j u t → k ≤ j → level ≤ j →
      Finished level (Source.reduce level stack t).1 (Source.reduce level stack t).2 (w ++ u) := by
  -- The frames that nothing finishes at this level stay as they are.
  have stay {k j : Nat} {stack : List Frame} {w u : List Lexeme} {t : Tree}
      (h : Stands k stack w) (ho : Open level stack) (ht : Derives j u t) (hk : k ≤ j)
      (hl : level ≤ j) :
      Finished level (Source.reduce level stack t).1 (Source.reduce level stack t).2
        (w ++ u) := by
    rw [reduce_of_open ho]
    exact ⟨ho, k, j, w, u, h, ht, hk, hl, rfl⟩
  induction h with
  | empty => intro j u t ht hk hl; exact stay .empty trivial ht hk hl
  | @binary N L R m op k stack w v l h hs hk' hd ih =>
    intro j u t ht hk hl
    by_cases hop : level ≤ op.level
    · rw [reduce_binary hop, List.append_assoc, List.append_assoc]
      exact ih (h.derives hd (ht.mono hk)) hk' (h.le_level hop h8)
    · exact stay (.binary h hs hk' hd) (Nat.lt_of_not_le hop) ht hk hl
  | @unary m op k stack w h hs ih =>
    intro j u t ht hk hl
    by_cases hop : level ≤ UnaryOp.level
    · obtain ⟨d, rfl, rfl⟩ := ht.mono hk
      rw [reduce_unary hop, List.append_assoc]
      exact ih (Derivation.sign h d).derives hs.le_seven hop
    · exact stay (.unary h hs) (Nat.lt_of_not_le hop) ht hk hl
  | @assign name stack w hs ih =>
    intro j u t ht hk hl
    by_cases hop : level = 0
    · subst hop
      obtain ⟨d, rfl, rfl⟩ := ht.mono hk
      rw [reduce_assign, List.append_assoc]
      exact ih (Derivation.assign name d).derives (Nat.zero_le 0) (Nat.zero_le 0)
    · exact stay (.assign hs) (Nat.pos_of_ne_zero hop) ht hk hl
  | @alternative stack w v v' c a hs hc ha ih =>
    intro j u t ht hk hl
    by_cases hop : level = 0
    · subst hop
      have := ih (derives_choice hc ha (ht.mono hk)) (Nat.zero_le 0) (Nat.zero_le 0)
      rw [reduce_alternative]
      simpa only [List.append_assoc, List.cons_append, List.nil_append] using this
    · exact stay (.alternative hs hc ha) (Nat.pos_of_ne_zero hop) ht hk hl
  | consequent hs hc => intro j u t ht hk hl; exact stay (.consequent hs hc) trivial ht hk hl
  | group hs => intro j u t ht hk hl; exact stay (.group hs) trivial ht hk hl
  | array hs hi => intro j u t ht hk hl; exact stay (.array hs hi) trivial ht hk hl
  | call hs hc hi => intro j u t ht hk hl; exact stay (.call hs hc hi) trivial ht hk hl
  | index hs ho => intro j u t ht hk hl; exact stay (.index hs ho) trivial ht hk hl

/-- The parts after finishing an operand just read. -/
theorem Stands.reduce_operand {k : Nat} {stack stack' : List Frame} {w u : List Lexeme}
    {t t' : Tree} {level : Nat} (h : Stands k stack w) (ht : Derives 9 u t) (h8 : level ≠ 8)
    (h9 : level ≤ 9) (hr : Source.reduce level stack t = (stack', t')) :
    ∃ k' w' u', Stands k' stack' w' ∧ Derives level u' t' ∧ Open level stack' ∧
      w ++ u = w' ++ u' := by
  have hk : k ≤ 9 := Nat.le_trans h.le_seven (by decide)
  obtain ⟨ho, k', j, w', u', hs, ht', -, hl, hw⟩ := h.reduce h8 ht hk h9
  rw [hr] at ho hs ht'
  exact ⟨k', w', u', hs, ht'.mono hl, ho, hw⟩

/-! ## Steps -/

/-- The state stands for the tokens read so far. -/
inductive Reached : State → List Lexeme → Prop
  | operand {k : Nat} {stack : List Frame} {w : List Lexeme} (hs : Stands k stack w) :
    Reached (.operand stack) w
  | operator {k : Nat} {stack : List Frame} {w u : List Lexeme} {t : Tree}
    (hs : Stands k stack w) (ht : Derives 9 u t) : Reached (.operator stack t) (w ++ u)
  | member {k : Nat} {stack : List Frame} {w u : List Lexeme} {t : Tree}
    (hs : Stands k stack w) (ht : Derives 9 u t) :
    Reached (.member stack t) (w ++ (u ++ [.mark .dot]))
  | done {u : List Lexeme} {t : Tree} (ht : Derives 0 u t) :
    Reached (.done t) (u ++ [.mark .semicolon])

/-- A tree that is a name stands for the name alone. -/
theorem Derives.word_of_name {u : List Lexeme} {s : String} (h : Derives 9 u (.name s)) :
    u = [.name s] := by
  obtain ⟨d, rfl, ht⟩ := h
  cases d with
  | pass h d =>
    cases h
    cases d with
    | name s' =>
      cases ht
      rfl
    | pass h d => cases h
    | join h l r => cases h
    | _ => cases ht
  | join h l r => cases h
  | _ => cases ht

theorem Listed.nil_eq {v : List Lexeme} (h : Listed [] v) : v = [] := by
  generalize hi : ([] : List Tree) = items at h
  cases h with
  | nil => rfl
  | snoc => simp at hi

theorem Derives.call {u : List Lexeme} {t : Tree} (h : Derives 9 u t) :
    Derives 9 (u ++ [.mark .openParen, .mark .closeParen]) (.call t []) := by
  obtain ⟨d, rfl, rfl⟩ := h
  exact (Derivation.call d).derives

theorem Derives.callWith {u v v' : List Lexeme} {t t' : Tree} {items : List Tree}
    (h : Derives 9 u t) (hi : Listed items v) (ht : Derives 0 v' t') :
    Derives 9 (u ++ .mark .openParen :: (v ++ v' ++ [.mark .closeParen]))
      (.call t (items ++ [t'])) := by
  obtain ⟨d, rfl, rfl⟩ := h
  obtain ⟨args, hw, hts⟩ := hi.close ht
  rw [← hw, ← hts]
  exact (Derivation.callWith d args).derives

theorem Derives.arrayOf {v v' : List Lexeme} {t' : Tree} {items : List Tree}
    (hi : Listed items v) (ht : Derives 0 v' t') :
    Derives 9 (.mark .openBracket :: (v ++ v' ++ [.mark .closeBracket]))
      (.array (items ++ [t'])) := by
  obtain ⟨args, hw, hts⟩ := hi.close ht
  rw [← hw, ← hts]
  exact (Derivation.arrayOf args).derives

theorem Derives.index {u v : List Lexeme} {t t' : Tree} (h : Derives 9 u t)
    (ht : Derives 0 v t') :
    Derives 9 (u ++ .mark .openBracket :: (v ++ [.mark .closeBracket])) (.index t t') := by
  obtain ⟨d, rfl, rfl⟩ := h
  obtain ⟨e, rfl, rfl⟩ := ht
  exact (Derivation.index d e).derives

theorem Derives.group {v : List Lexeme} {t : Tree} (ht : Derives 0 v t) :
    Derives 9 (.mark .openParen :: (v ++ [.mark .closeParen])) (.group t) := by
  obtain ⟨e, rfl, rfl⟩ := ht
  exact (Derivation.group e).derives

theorem Derives.member {u : List Lexeme} {t : Tree} (h : Derives 9 u t) (name : String) :
    Derives 9 (u ++ [.mark .dot, .name name]) (.member t name) := by
  obtain ⟨d, rfl, rfl⟩ := h
  exact (Derivation.member d name).derives

theorem Reached.of_eq {s : State} {w w' : List Lexeme} (h : Reached s w) (e : w = w') :
    Reached s w' :=
  e ▸ h

/-- An operand that starts with the token. -/
theorem Stands.stepOperand {k : Nat} {stack : List Frame} {w : List Lexeme}
    (hs : Stands k stack w) {x : Lexeme} {s : State} (h : stepOperand? stack x = some s) :
    Reached s (w ++ [x]) := by
  cases x with
  | name n =>
    obtain rfl := Option.some.inj h
    exact .operator hs (Derives.atom (.name n) rfl rfl)
  | number n =>
    obtain rfl := Option.some.inj h
    exact .operator hs (Derives.atom (.number n) rfl rfl)
  | quoted n =>
    obtain rfl := Option.some.inj h
    exact .operator hs (Derives.atom (.quoted n) rfl rfl)
  | keyword n =>
    obtain rfl := Option.some.inj h
    exact .operator hs (Derives.atom (.keyword n) rfl rfl)
  | mark m =>
    cases m with
    | openParen =>
      obtain rfl := Option.some.inj h
      exact .operand (.group hs)
    | openBracket =>
      obtain rfl := Option.some.inj h
      exact .operand (.array hs .nil)
    | closeBracket =>
      simp only [stepOperand?] at h
      split at h
      · obtain rfl := Option.some.inj h
        cases hs with
        | array hs hi =>
          obtain rfl := hi.nil_eq
          refine (Reached.operator hs (Derives.atom .array rfl rfl)).of_eq ?_
          simp only [Derivation.word, List.append_assoc, List.cons_append, List.nil_append]
      · cases h
    | closeParen =>
      simp only [stepOperand?] at h
      split at h
      · obtain rfl := Option.some.inj h
        cases hs with
        | call hs hc hi =>
          obtain rfl := hi.nil_eq
          refine (Reached.operator hs hc.call).of_eq ?_
          simp only [List.append_assoc, List.cons_append, List.nil_append]
      · cases h
    | minus =>
      obtain rfl := Option.some.inj h
      exact .operand (.unary .minus hs)
    | plus =>
      obtain rfl := Option.some.inj h
      exact .operand (.unary .plus hs)
    | bang =>
      obtain rfl := Option.some.inj h
      exact .operand (.unary .bang hs)
    | _ => cases h

section Operator

variable {k : Nat} {stack : List Frame} {w u : List Lexeme} {t : Tree} {s : State}

theorem Stands.closeParen (hs : Stands k stack w) (ht : Derives 9 u t)
    (h : closeParen? stack t = some s) : Reached s (w ++ u ++ [.mark .closeParen]) := by
  unfold closeParen? at h
  split at h
  · rename_i stack' t' hr
    obtain rfl := Option.some.inj h
    obtain ⟨k', w', u', hs', ht', -, hw⟩ := hs.reduce_operand ht (by decide) (by decide) hr
    cases hs' with
    | group hs' =>
      refine (Reached.operator hs' ht'.group).of_eq ?_
      simp only [hw, List.append_assoc, List.cons_append, List.nil_append]
  · rename_i callee args stack' t' hr
    obtain rfl := Option.some.inj h
    obtain ⟨k', w', u', hs', ht', -, hw⟩ := hs.reduce_operand ht (by decide) (by decide) hr
    cases hs' with
    | call hs' hc hi =>
      refine (Reached.operator hs' (hc.callWith hi ht')).of_eq ?_
      simp only [hw, List.append_assoc, List.cons_append]
  · cases h

theorem Stands.closeBracket (hs : Stands k stack w) (ht : Derives 9 u t)
    (h : closeBracket? stack t = some s) : Reached s (w ++ u ++ [.mark .closeBracket]) := by
  unfold closeBracket? at h
  split at h
  · rename_i items stack' t' hr
    obtain rfl := Option.some.inj h
    obtain ⟨k', w', u', hs', ht', -, hw⟩ := hs.reduce_operand ht (by decide) (by decide) hr
    cases hs' with
    | array hs' hi =>
      refine (Reached.operator hs' (Derives.arrayOf hi ht')).of_eq ?_
      simp only [hw, List.append_assoc, List.cons_append]
  · rename_i object stack' t' hr
    obtain rfl := Option.some.inj h
    obtain ⟨k', w', u', hs', ht', -, hw⟩ := hs.reduce_operand ht (by decide) (by decide) hr
    cases hs' with
    | index hs' ho =>
      refine (Reached.operator hs' (ho.index ht')).of_eq ?_
      simp only [hw, List.append_assoc, List.cons_append, List.nil_append]
  · cases h

theorem Stands.comma (hs : Stands k stack w) (ht : Derives 9 u t)
    (h : comma? stack t = some s) : Reached s (w ++ u ++ [.mark .comma]) := by
  unfold comma? at h
  split at h
  · rename_i items stack' t' hr
    obtain rfl := Option.some.inj h
    obtain ⟨k', w', u', hs', ht', -, hw⟩ := hs.reduce_operand ht (by decide) (by decide) hr
    cases hs' with
    | array hs' hi =>
      refine (Reached.operand (.array hs' (hi.snoc ht'))).of_eq ?_
      simp only [hw, List.append_assoc, List.cons_append]
  · rename_i callee args stack' t' hr
    obtain rfl := Option.some.inj h
    obtain ⟨k', w', u', hs', ht', -, hw⟩ := hs.reduce_operand ht (by decide) (by decide) hr
    cases hs' with
    | call hs' hc hi =>
      refine (Reached.operand (.call hs' hc (hi.snoc ht'))).of_eq ?_
      simp only [hw, List.append_assoc, List.cons_append]
  · cases h

theorem Stands.colon (hs : Stands k stack w) (ht : Derives 9 u t)
    (h : colon? stack t = some s) : Reached s (w ++ u ++ [.mark .colon]) := by
  unfold colon? at h
  split at h
  · rename_i c stack' t' hr
    obtain rfl := Option.some.inj h
    obtain ⟨k', w', u', hs', ht', -, hw⟩ := hs.reduce_operand ht (by decide) (by decide) hr
    cases hs' with
    | consequent hs' hc =>
      refine (Reached.operand (.alternative hs' hc ht')).of_eq ?_
      simp only [hw, List.append_assoc, List.cons_append, List.nil_append]
  · cases h

theorem Stands.assignment (hs : Stands k stack w) (ht : Derives 9 u t)
    (h : assign? stack t = some s) : Reached s (w ++ u ++ [.mark .assign]) := by
  unfold assign? at h
  split at h
  · rename_i name
    split at h
    · rename_i hstart
      obtain rfl := Option.some.inj h
      obtain rfl := ht.word_of_name
      obtain rfl := hs.eq_zero hstart
      refine (Reached.operand (.assign hs)).of_eq ?_
      simp only [List.append_assoc, List.cons_append, List.nil_append]
    · cases h
  · cases h

theorem Stands.question (hs : Stands k stack w) (ht : Derives 9 u t) :
    Reached (.operand (.consequent (Source.reduce 1 stack t).2 :: (Source.reduce 1 stack t).1))
      (w ++ u ++ [.mark .question]) := by
  obtain ⟨k', w', u', hs', ht', ho, hw⟩ :=
    hs.reduce_operand ht (show 1 ≠ 8 by decide) (by decide) rfl
  obtain rfl := hs'.eq_zero_of_open ho
  refine (Reached.operand (.consequent hs' ht')).of_eq ?_
  simp only [hw, List.append_assoc]

theorem leftLevel_ne_eight (op : BinaryOp) : leftLevel op ≠ 8 := by
  cases op <;> decide

theorem leftLevel_le (op : BinaryOp) : leftLevel op ≤ 9 := by
  cases op <;> decide

theorem Stands.sign (hs : Stands k stack w) (ht : Derives 9 u t) {m : Mark} {op : BinaryOp}
    (hm : m.binary? = some op) :
    Reached (.operand (.binary op (Source.reduce (leftLevel op) stack t).2 ::
      (Source.reduce (leftLevel op) stack t).1)) (w ++ u ++ [.mark m]) := by
  obtain ⟨N, L, R, h⟩ := exists_joins hm
  obtain ⟨k', w', u', hs', ht', ho, hw⟩ :=
    hs.reduce_operand ht (leftLevel_ne_eight op) (leftLevel_le op) rfl
  have hk := h.le_level_of_le_left (hs'.le_of_open ho) hs'.le_seven
  refine (Reached.operand (.binary h hs' hk ht')).of_eq ?_
  simp only [hw, List.append_assoc]

theorem Stands.semicolon (hs : Stands k stack w) (ht : Derives 9 u t) {t' : Tree}
    (hr : Source.reduce 0 stack t = ([], t')) : Derives 0 (w ++ u) t' := by
  obtain ⟨k', w', u', hs', ht', -, hw⟩ := hs.reduce_operand ht (by decide) (by decide) hr
  obtain rfl := hs'.nil_eq
  rw [hw]
  exact ht'

/-- A token after an operand. -/
theorem Stands.stepOperator (hs : Stands k stack w) (ht : Derives 9 u t) {x : Lexeme}
    (h : stepOperator? stack t x = some s) : Reached s (w ++ u ++ [x]) := by
  cases x with
  | name | number | quoted | keyword => cases h
  | mark m =>
    cases m with
    | openParen =>
      obtain rfl := Option.some.inj h
      refine (Reached.operand (.call hs ht .nil)).of_eq ?_
      simp only [List.append_assoc]
    | openBracket =>
      obtain rfl := Option.some.inj h
      refine (Reached.operand (.index hs ht)).of_eq ?_
      simp only [List.append_assoc]
    | dot =>
      obtain rfl := Option.some.inj h
      refine (Reached.member hs ht).of_eq ?_
      simp only [List.append_assoc]
    | assign => exact hs.assignment ht h
    | question =>
      obtain rfl := Option.some.inj h
      exact hs.question ht
    | colon => exact hs.colon ht h
    | comma => exact hs.comma ht h
    | closeParen => exact hs.closeParen ht h
    | closeBracket => exact hs.closeBracket ht h
    | semicolon =>
      simp only [stepOperator?] at h
      split at h
      · rename_i t' hr
        obtain rfl := Option.some.inj h
        exact .done (hs.semicolon ht hr)
      · cases h
    | bang => cases h
    | _ =>
      obtain rfl := Option.some.inj h
      exact hs.sign ht rfl

end Operator

/-- Every token read is stood for. -/
theorem Reached.step {s s' : State} {w : List Lexeme} (h : Reached s w) {x : Lexeme}
    (hx : s.step? x = some s') : Reached s' (w ++ [x]) := by
  cases h with
  | operand hs => exact hs.stepOperand hx
  | operator hs ht => exact hs.stepOperator ht hx
  | member hs ht =>
    cases x with
    | name n =>
      obtain rfl := Option.some.inj hx
      refine (Reached.operator hs (ht.member n)).of_eq ?_
      simp only [List.append_assoc, List.cons_append, List.nil_append]
    | _ => cases hx
  | done => cases hx

/-- All tokens of a run are stood for. -/
theorem Reached.steps {s' : State} (v : List Lexeme) :
    ∀ {s : State} {w : List Lexeme}, Reached s w → s.steps v = some s' → Reached s' (w ++ v) := by
  induction v with
  | nil =>
    intro s w h hv
    obtain rfl := Option.some.inj hv
    rw [List.append_nil]
    exact h
  | cons x v ih =>
    intro s w h hv
    obtain ⟨s₁, hx, hv⟩ := Option.bind_eq_some_iff.mp hv
    have := ih (h.step hx) hv
    rwa [List.append_assoc] at this

/-- A text that may end here is a sentence. -/
theorem exists_sentence_of_finish {s : State} {w : List Lexeme} {t : Tree} (h : Reached s w)
    (hf : s.finish? = some t) : ∃ d : Sentence, d.word = w ∧ d.tree = t := by
  cases h with
  | operand | member => cases hf
  | operator hs ht =>
    simp only [State.finish?] at hf
    split at hf
    · rename_i t' hr
      obtain rfl := Option.some.inj hf
      obtain ⟨e, hw, het⟩ := hs.semicolon ht hr
      exact ⟨.plain e, hw, het⟩
    · cases hf
  | done ht =>
    obtain rfl := Option.some.inj hf
    obtain ⟨e, rfl, rfl⟩ := ht
    exact ⟨.closed e, rfl, rfl⟩

/-- What the parser accepts is a sentence with the tree it returns. -/
theorem exists_sentence_of_parseTokens {ts : List Token} {t : Tree}
    (h : parseTokens ⟨ts, none⟩ = .ok t) :
    ∃ d : Sentence, d.word = ts.map Token.lexeme ∧ d.tree = t := by
  obtain ⟨s, hs, hf⟩ := (parseTokens_eq_ok_iff ts t).mp h
  have hr : Reached s ([] ++ ts.map Token.lexeme) := Reached.steps _ (.operand .empty) hs
  exact exists_sentence_of_finish hr hf

end TokenFormula.Source
