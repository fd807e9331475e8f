import TokenFormula.Proofs.Grammar.Derivation

/-!
# The parser follows every derivation

Reading the tokens of a derivation brings the parser from the place where an
operand is due to the place after it. What has been read is then not always
finished: constructs that a later token could go on are still on the stack. The
invariant compares by finishing: at every level up to that of the rule, the
stack that has been reached finishes as the old stack does with the whole tree.

Results:
* `Derivation.steps_word`: the invariant for every rule.
* `Sentence.parseTokens_eq`: the parser returns the tree of every sentence.
-/

namespace TokenFormula.Source

/-! ## Runs on words -/

/-- The state after several words, if the grammar allows them. -/
def State.steps (s : State) : List Lexeme → Option State
  | [] => some s
  | w :: rest => (s.step? w).bind fun s => s.steps rest

theorem State.steps_append (u v : List Lexeme) :
    ∀ s : State, s.steps (u ++ v) = (s.steps u).bind fun s => s.steps v := by
  induction u with
  | nil => intro s; rfl
  | cons w u ih =>
    intro s
    simp only [List.cons_append, steps, Option.bind_assoc]
    congr 1
    funext s'
    exact ih s'

/-- Going on after a run. -/
theorem State.steps_trans {s s' : State} {u : List Lexeme} (h : s.steps u = some s')
    (v : List Lexeme) : s.steps (u ++ v) = s'.steps v := by
  rw [steps_append, h, Option.bind_some]

theorem State.steps_cons {s s' : State} {w : Lexeme} (h : s.step? w = some s') (v : List Lexeme) :
    s.steps (w :: v) = s'.steps v := by
  rw [steps, h, Option.bind_some]

/-- A run on tokens is a run on their words. -/
theorem State.run_eq_ok_iff (s' : State) (ts : List Token) :
    ∀ s : State, s.run ts = .ok s' ↔ s.steps (ts.map Token.lexeme) = some s' := by
  induction ts with
  | nil =>
    intro s
    simp [run, steps]
  | cons t ts ih =>
    intro s
    rw [run, List.map_cons, steps]
    cases hs : s.step? t.lexeme with
    | none => simp
    | some s₁ => rw [Option.bind_some]; exact ih s₁

/-! ## Finishing constructs -/

/-- Nothing on top of the stack is finished at this level. -/
def Open (level : Nat) : List Frame → Prop
  | .binary op _ :: _ => op.level < level
  | .unary _ :: _ => UnaryOp.level < level
  | .assign _ :: _ | .alternative .. :: _ => 0 < level
  | _ => True

theorem BinaryOp.level_le (op : BinaryOp) : op.level ≤ 8 := by
  cases op <;> decide

theorem reduce_of_open {level : Nat} {stack : List Frame} (h : Open level stack) (t : Tree) :
    reduce level stack t = (stack, t) := by
  match stack, h with
  | [], _ => rw [reduce] <;> simp
  | .binary op l :: stack, h => rw [reduce, if_neg (Nat.not_le.mpr h)]
  | .unary op :: stack, h => rw [reduce, if_neg (Nat.not_le.mpr h)]
  | .assign name :: stack, h => rw [reduce, if_neg (Nat.ne_of_gt h)]
  | .alternative c a :: stack, h => rw [reduce, if_neg (Nat.ne_of_gt h)]
  | .consequent c :: stack, _ => rw [reduce] <;> simp
  | .group :: stack, _ => rw [reduce] <;> simp
  | .array items :: stack, _ => rw [reduce] <;> simp
  | .call callee args :: stack, _ => rw [reduce] <;> simp
  | .index object :: stack, _ => rw [reduce] <;> simp

theorem Open.mono {level level' : Nat} (hl : level ≤ level') {stack : List Frame}
    (h : Open level stack) : Open level' stack := by
  match stack, h with
  | [], _ => trivial
  | .binary op l :: stack, h => exact Nat.lt_of_lt_of_le h hl
  | .unary op :: stack, h => exact Nat.lt_of_lt_of_le h hl
  | .assign name :: stack, h => exact Nat.lt_of_lt_of_le h hl
  | .alternative c a :: stack, h => exact Nat.lt_of_lt_of_le h hl
  | .consequent c :: stack, _ => trivial
  | .group :: stack, _ => trivial
  | .array items :: stack, _ => trivial
  | .call callee args :: stack, _ => trivial
  | .index object :: stack, _ => trivial

/-- No construct binds as tightly as the highest level. -/
theorem open_nine (stack : List Frame) : Open 9 stack := by
  match stack with
  | [] => trivial
  | .binary op l :: stack => exact Nat.lt_succ_of_le (BinaryOp.level_le op)
  | .unary op :: stack => exact (by decide : UnaryOp.level < 9)
  | .assign name :: stack => exact (by decide : 0 < 9)
  | .alternative c a :: stack => exact (by decide : 0 < 9)
  | .consequent c :: stack => trivial
  | .group :: stack => trivial
  | .array items :: stack => trivial
  | .call callee args :: stack => trivial
  | .index object :: stack => trivial

theorem open_of_startsExpression {stack : List Frame} (h : startsExpression stack = true) :
    Open 1 stack := by
  match stack, h with
  | [], _ => trivial
  | .assign name :: stack, _ => exact Nat.one_pos
  | .alternative c a :: stack, _ => exact Nat.one_pos
  | .consequent c :: stack, _ => trivial
  | .group :: stack, _ => trivial
  | .array items :: stack, _ => trivial
  | .call callee args :: stack, _ => trivial
  | .index object :: stack, _ => trivial

theorem reduce_binary {level : Nat} {op : BinaryOp} (h : level ≤ op.level) (l : Tree)
    (stack : List Frame) (t : Tree) :
    reduce level (.binary op l :: stack) t = reduce level stack (.binary op l t) := by
  rw [reduce, if_pos h]

theorem reduce_unary {level : Nat} (h : level ≤ UnaryOp.level) (op : UnaryOp)
    (stack : List Frame) (t : Tree) :
    reduce level (.unary op :: stack) t = reduce level stack (.unary op t) := by
  rw [reduce, if_pos h]

theorem reduce_assign (name : String) (stack : List Frame) (t : Tree) :
    reduce 0 (.assign name :: stack) t = reduce 0 stack (.assign name t) := by
  rw [reduce, if_pos rfl]

theorem reduce_alternative (c a : Tree) (stack : List Frame) (t : Tree) :
    reduce 0 (.alternative c a :: stack) t = reduce 0 stack (.choice c a t) := by
  rw [reduce, if_pos rfl]

/-! ## Places of rules -/

/-- The loosest level at which a rule finishes constructs before a sign. -/
def Rule.level : Rule → Nat
  | .expr | .assignment | .conditional => 0
  | .logicOr => 1
  | .logicAnd => 2
  | .equality => 3
  | .comparison => 4
  | .sum => 5
  | .product => 6
  | .unary | .power => 7
  | .primary | .atom => 9

/-- The stacks on which a rule can be read: an assignment only where an
    expression starts, and a rule with signs between operands only where its
    signs finish nothing outside it. -/
def Rule.Fits : Rule → List Frame → Prop
  | .expr, stack | .assignment, stack => startsExpression stack = true
  | .conditional, stack => Open 1 stack
  | .unary, _ | .power, _ | .primary, _ | .atom, _ => True
  | N, stack => Open N.level stack

theorem Passes.fits {N M : Rule} (h : Passes N M) {stack : List Frame} (hf : N.Fits stack) :
    M.Fits stack := by
  cases h with
  | assignment => exact hf
  | conditional => exact open_of_startsExpression hf
  | logicOr => exact hf
  | logicAnd | equality | comparison | sum | product => exact Open.mono (by decide) hf
  | unary | power | primary | atom => trivial

theorem Passes.level_le {N M : Rule} (h : Passes N M) : N.level ≤ M.level := by
  cases h <;> decide

section Joins

variable {N L R : Rule} {m : Mark} {op : BinaryOp}

theorem Joins.binary? (h : Joins N L m op R) : m.binary? = some op := by
  cases h <;> rfl

/-- A sign between operands finishes what its left operand leaves unfinished. -/
theorem Joins.step_eq (h : Joins N L m op R) (stack : List Frame) (t : Tree) :
    (State.operator stack t).step? (.mark m) =
      some (.operand (.binary op (reduce (leftLevel op) stack t).2 ::
        (reduce (leftLevel op) stack t).1)) := by
  cases h <;> rfl

theorem Joins.leftLevel_le (h : Joins N L m op R) : leftLevel op ≤ L.level := by
  cases h <;> decide

theorem Joins.level_le_op (h : Joins N L m op R) : N.level ≤ op.level := by
  cases h <;> decide

theorem Joins.level_le_right (h : Joins N L m op R) : N.level ≤ R.level := by
  cases h <;> decide

theorem Joins.fits_left (h : Joins N L m op R) {stack : List Frame} (hf : N.Fits stack) :
    L.Fits stack := by
  cases h <;> exact hf

theorem Joins.open_stack (h : Joins N L m op R) {stack : List Frame} (hf : N.Fits stack) :
    Open (leftLevel op) stack := by
  cases h with
  | caret | doubleStar => exact open_nine stack
  | _ => exact hf

theorem Joins.fits_right (h : Joins N L m op R) (l : Tree) (stack : List Frame) :
    R.Fits (.binary op l :: stack) := by
  cases h with
  | star | slash | percent | caret | doubleStar => trivial
  | _ =>
    simp only [Rule.Fits, Open]
    decide

end Joins

theorem Signs.step_eq {m : Mark} {op : UnaryOp} (h : Signs m op) (stack : List Frame) :
    (State.operand stack).step? (.mark m) = some (.operand (.unary op :: stack)) := by
  cases h <;> rfl

/-! ## Brackets with arguments -/

/-- The two constructs that hold arguments. -/
inductive Listing where
  | array
  | call (callee : Tree)

namespace Listing

/-- The unfinished construct with the arguments before the current one. -/
def frame (items : List Tree) : Listing → Frame
  | array => .array items
  | call callee => .call callee items

/-- The finished construct. -/
def tree (items : List Tree) : Listing → Tree
  | array => .array items
  | call callee => .call callee items

/-- The closing mark. -/
def closing : Listing → Mark
  | array => .closeBracket
  | call _ => .closeParen

theorem startsExpression_frame (k : Listing) (items : List Tree) (stack : List Frame) :
    startsExpression (k.frame items :: stack) = true := by
  cases k <;> rfl

theorem reduce_frame (k : Listing) (level : Nat) (items : List Tree) (stack : List Frame)
    (t : Tree) : reduce level (k.frame items :: stack) t = (k.frame items :: stack, t) := by
  cases k with
  | array => exact reduce_of_open (show Open level (.array items :: stack) from trivial) t
  | call callee =>
    exact reduce_of_open (show Open level (.call callee items :: stack) from trivial) t

theorem comma_step (k : Listing) {stack stack' : List Frame} {t u : Tree} {items : List Tree}
    (h : reduce 0 stack' t = (k.frame items :: stack, u)) :
    (State.operator stack' t).step? (.mark .comma) =
      some (.operand (k.frame (items ++ [u]) :: stack)) := by
  change comma? stack' t = _
  cases k <;> simp only [comma?, h, frame]

theorem closing_step (k : Listing) {stack stack' : List Frame} {t u : Tree} {items : List Tree}
    (h : reduce 0 stack' t = (k.frame items :: stack, u)) :
    (State.operator stack' t).step? (.mark k.closing) =
      some (.operator stack (k.tree (items ++ [u]))) := by
  cases k with
  | array =>
    change closeBracket? stack' t = _
    simp only [closeBracket?, h, frame, tree]
  | call callee =>
    change closeParen? stack' t = _
    simp only [closeParen?, h, frame, tree]

end Listing

/-! ## Reading derivations -/

/-- Reading the word brings the parser from `stack` to a place where finishing
    at any level up to `level` gives the same as finishing `stack` with `t`. -/
def Reads (level : Nat) (stack : List Frame) (word : List Lexeme) (t : Tree) : Prop :=
  ∃ stack' t', (State.operand stack).steps word = some (.operator stack' t') ∧
    ∀ k ≤ level, reduce k stack' t' = reduce k stack t

theorem Reads.of_step {level : Nat} {stack : List Frame} {w : Lexeme} {t : Tree}
    (h : (State.operand stack).step? w = some (.operator stack t)) : Reads level stack [w] t := by
  refine ⟨stack, t, ?_, fun k _ => rfl⟩
  rw [State.steps_cons h, State.steps]

theorem Reads.of_steps {level : Nat} {stack : List Frame} {word : List Lexeme} {t : Tree}
    (h : (State.operand stack).steps word = some (.operator stack t)) :
    Reads level stack word t :=
  ⟨stack, t, h, fun _ _ => rfl⟩

theorem Reads.mono {level level' : Nat} {stack : List Frame} {word : List Lexeme} {t : Tree}
    (h : Reads level' stack word t) (hl : level ≤ level') : Reads level stack word t := by
  obtain ⟨stack', t', hs, hr⟩ := h
  exact ⟨stack', t', hs, fun k hk => hr k (Nat.le_trans hk hl)⟩

/-- At the highest level nothing stays unfinished. -/
theorem Reads.steps_eq {stack : List Frame} {word : List Lexeme} {t : Tree}
    (h : Reads 9 stack word t) :
    (State.operand stack).steps word = some (.operator stack t) := by
  obtain ⟨stack', t', hs, hr⟩ := h
  have hr := hr 9 (Nat.le_refl _)
  rw [reduce_of_open (open_nine stack'), reduce_of_open (open_nine stack), Prod.mk.injEq] at hr
  rw [hs, hr.1, hr.2]

/-- A construct read on its own frame is finished with the stack below it. -/
theorem Reads.prepend {level level' : Nat} {stack : List Frame} {f : Frame} {u v : List Lexeme}
    {t t' : Tree} (hu : (State.operand stack).steps u = some (.operand (f :: stack)))
    (hv : Reads level' (f :: stack) v t) (hl : level ≤ level')
    (hf : ∀ k ≤ level, reduce k (f :: stack) t = reduce k stack t') :
    Reads level stack (u ++ v) t' := by
  obtain ⟨stack', t'', hs, hr⟩ := hv
  refine ⟨stack', t'', ?_, fun k hk => (hr k (Nat.le_trans hk hl)).trans (hf k hk)⟩
  rw [State.steps_trans hu, hs]

/-- An expression in front of a token that finishes it down to its frame. -/
theorem Reads.closed {level : Nat} {stack : List Frame} {word : List Lexeme} {t : Tree}
    (h : Reads level stack word t) {k : Nat} (hk : k ≤ level) (ho : Open k stack) :
    ∃ stack' t', (State.operand stack).steps word = some (.operator stack' t') ∧
      reduce k stack' t' = (stack, t) := by
  obtain ⟨stack', t', hs, hr⟩ := h
  exact ⟨stack', t', hs, by rw [hr k hk, reduce_of_open ho]⟩

theorem reads_assign {name : String} {word : List Lexeme} {t : Tree} {stack : List Frame}
    (hs : startsExpression stack = true) (h : Reads 0 (.assign name :: stack) word t) :
    Reads 0 stack (.name name :: .mark .assign :: word) (.assign name t) := by
  have hf : ∀ k ≤ 0, reduce k (.assign name :: stack) t = reduce k stack (.assign name t) := by
    intro k hk
    obtain rfl := Nat.le_zero.mp hk
    exact reduce_assign name stack t
  refine Reads.prepend (u := [.name name, .mark .assign]) ?_ h (Nat.le_refl _) hf
  show ((assign? stack (.name name)).bind fun s => s.steps []) = _
  rw [assign?, if_pos hs]
  rfl

theorem reads_choice {c a b : Tree} {wc wa wb : List Lexeme} {stack : List Frame}
    (ho : Open 1 stack) (hc : Reads 1 stack wc c) (ha : Reads 0 (.consequent c :: stack) wa a)
    (hb : Reads 0 (.alternative c a :: stack) wb b) :
    Reads 0 stack (wc ++ .mark .question :: (wa ++ .mark .colon :: wb)) (.choice c a b) := by
  obtain ⟨sc, tc, hsc, hrc⟩ := hc.closed (Nat.le_refl _) ho
  have hopen : Open 0 (.consequent c :: stack) := trivial
  obtain ⟨sa, ta, hsa, hra⟩ := ha.closed (Nat.le_refl _) hopen
  have hq : (State.operator sc tc).step? (.mark .question) =
      some (.operand (.consequent c :: stack)) := by
    show some (State.operand (.consequent (reduce 1 sc tc).2 :: (reduce 1 sc tc).1)) = _
    rw [hrc]
  have hcol : (State.operator sa ta).step? (.mark .colon) =
      some (.operand (.alternative c a :: stack)) := by
    show colon? sa ta = _
    simp only [colon?, hra]
  have hf : ∀ k ≤ 0, reduce k (.alternative c a :: stack) b = reduce k stack (.choice c a b) := by
    intro k hk
    obtain rfl := Nat.le_zero.mp hk
    exact reduce_alternative c a stack b
  have hu : (State.operand stack).steps (wc ++ .mark .question :: (wa ++ [.mark .colon])) =
      some (.operand (.alternative c a :: stack)) := by
    rw [State.steps_trans hsc, State.steps_cons hq, State.steps_trans hsa, State.steps_cons hcol]
    rfl
  have h := Reads.prepend hu hb (Nat.le_refl _) hf
  simpa only [List.append_assoc, List.cons_append, List.nil_append] using h

theorem Joins.reads {N L R : Rule} {m : Mark} {op : BinaryOp} (h : Joins N L m op R)
    {l r : Tree} {wl wr : List Lexeme} {stack : List Frame} (hf : N.Fits stack)
    (hl : Reads L.level stack wl l) (hr : Reads R.level (.binary op l :: stack) wr r) :
    Reads N.level stack (wl ++ .mark m :: wr) (.binary op l r) := by
  obtain ⟨sl, tl, hsl, hrl⟩ := hl.closed h.leftLevel_le (h.open_stack hf)
  have hstep : (State.operator sl tl).step? (.mark m) =
      some (.operand (.binary op l :: stack)) := by
    rw [h.step_eq, hrl]
  have hu : (State.operand stack).steps (wl ++ [.mark m]) =
      some (.operand (.binary op l :: stack)) := by
    rw [State.steps_trans hsl, State.steps_cons hstep]
    rfl
  have := Reads.prepend hu hr h.level_le_right
    (fun k hk => reduce_binary (Nat.le_trans hk h.level_le_op) l stack r)
  simpa only [List.append_assoc, List.cons_append, List.nil_append] using this

theorem Signs.reads {m : Mark} {op : UnaryOp} (h : Signs m op) {t : Tree} {word : List Lexeme}
    {stack : List Frame} (ht : Reads 7 (.unary op :: stack) word t) :
    Reads 7 stack (.mark m :: word) (.unary op t) := by
  refine Reads.prepend (u := [.mark m]) ?_ ht (Nat.le_refl _)
    (fun k hk => reduce_unary hk op stack t)
  rw [State.steps_cons (h.step_eq stack)]
  rfl

/-- An expression between a bracket on a finished operand or at the start of one
    and the closing bracket. -/
theorem reads_enclosed {stack : List Frame} {f : Frame} {u word : List Lexeme} {t t' : Tree}
    {m : Mark} (hu : (State.operand stack).steps u = some (.operand (f :: stack)))
    (ho : Open 0 (f :: stack)) (ht : Reads 0 (f :: stack) word t)
    (hm : ∀ stack' t'', reduce 0 stack' t'' = (f :: stack, t) →
      (State.operator stack' t'').step? (.mark m) = some (.operator stack t')) :
    (State.operand stack).steps (u ++ (word ++ [.mark m])) = some (.operator stack t') := by
  obtain ⟨s, t₁, hs, hr⟩ := ht.closed (Nat.le_refl _) ho
  rw [State.steps_trans hu, State.steps_trans hs, State.steps_cons (hm s t₁ hr)]
  rfl

mutual

/-- The parser reads every derivation where its rule fits. -/
theorem Derivation.reads : {N : Rule} → (d : Derivation N) → (stack : List Frame) →
    N.Fits stack → Reads N.level stack d.word d.tree
  | _, .pass h d, stack, hf => (d.reads stack (h.fits hf)).mono h.level_le
  | _, .assign name value, stack, hf => reads_assign hf (value.reads _ rfl)
  | _, .choice c a b, stack, hf =>
    reads_choice hf (c.reads _ hf) (a.reads _ rfl) (b.reads _ rfl)
  | _, .join h l r, stack, hf =>
    h.reads hf (l.reads _ (h.fits_left hf)) (r.reads _ (h.fits_right _ _))
  | _, .sign h d, stack, _ => h.reads (d.reads _ trivial)
  | _, .member d name, stack, _ => by
    refine Reads.of_steps ?_
    rw [Derivation.word, State.steps_trans (d.reads stack trivial).steps_eq]
    rfl
  | _, .index d e, stack, _ => by
    have hd := (d.reads stack trivial).steps_eq
    have hu : (State.operand stack).steps (d.word ++ [.mark .openBracket]) =
        some (.operand (.index d.tree :: stack)) := by
      rw [State.steps_trans hd]
      rfl
    have hm (stack' : List Frame) (t : Tree)
        (h : reduce 0 stack' t = (.index d.tree :: stack, e.tree)) :
        (State.operator stack' t).step? (.mark .closeBracket) =
          some (.operator stack (.index d.tree e.tree)) := by
      show closeBracket? stack' t = _
      simp only [closeBracket?, h]
    have h := reads_enclosed hu trivial (e.reads _ rfl) hm
    refine Reads.of_steps ?_
    simpa only [Derivation.word, Derivation.tree, List.append_assoc, List.cons_append,
      List.nil_append] using h
  | _, .call d, stack, _ => by
    refine Reads.of_steps ?_
    rw [Derivation.word, State.steps_trans (d.reads stack trivial).steps_eq]
    rfl
  | _, .callWith d args, stack, _ => by
    have hd := (d.reads stack trivial).steps_eq
    have hu : (State.operator stack d.tree).step? (.mark .openParen) =
        some (.operand (.call d.tree [] :: stack)) := rfl
    refine Reads.of_steps ?_
    rw [Derivation.word, State.steps_trans hd, State.steps_cons hu]
    exact args.steps_eq (.call d.tree) [] stack
  | _, .number _, _, _ => Reads.of_step rfl
  | _, .quoted _, _, _ => Reads.of_step rfl
  | _, .keyword _, _, _ => Reads.of_step rfl
  | _, .name _, _, _ => Reads.of_step rfl
  | _, .group e, stack, _ => by
    have hm (stack' : List Frame) (t : Tree)
        (h : reduce 0 stack' t = (.group :: stack, e.tree)) :
        (State.operator stack' t).step? (.mark .closeParen) =
          some (.operator stack (.group e.tree)) := by
      show closeParen? stack' t = _
      simp only [closeParen?, h]
    exact Reads.of_steps (reads_enclosed (u := [.mark .openParen]) rfl trivial (e.reads _ rfl) hm)
  | _, .array, stack, _ => Reads.of_steps rfl
  | _, .arrayOf items, stack, _ => by
    have hu : (State.operand stack).step? (.mark .openBracket) =
        some (.operand (.array [] :: stack)) := rfl
    refine Reads.of_steps ?_
    rw [Derivation.word, State.steps_cons hu]
    exact items.steps_eq .array [] stack

/-- The parser reads arguments, with the mark that closes them, into the
    construct that holds them. -/
theorem Arguments.steps_eq : (args : Arguments) → (k : Listing) → (items : List Tree) →
    (stack : List Frame) →
    (State.operand (k.frame items :: stack)).steps (args.word ++ [.mark k.closing]) =
      some (.operator stack (k.tree (items ++ args.trees)))
  | .last e, k, items, stack => by
    have he := e.reads (k.frame items :: stack) (k.startsExpression_frame items stack)
    obtain ⟨s, t, hs, hr⟩ := he
    have hr := (hr 0 (Nat.le_refl 0)).trans (k.reduce_frame 0 items stack e.tree)
    rw [Arguments.word, State.steps_trans hs, State.steps_cons (k.closing_step hr)]
    rfl
  | .more e rest, k, items, stack => by
    have he := e.reads (k.frame items :: stack) (k.startsExpression_frame items stack)
    obtain ⟨s, t, hs, hr⟩ := he
    have hr := (hr 0 (Nat.le_refl 0)).trans (k.reduce_frame 0 items stack e.tree)
    have ih := rest.steps_eq k (items ++ [e.tree]) stack
    rw [Arguments.word, List.append_assoc, State.steps_trans hs, List.cons_append,
      State.steps_cons (k.comma_step hr), ih, List.append_assoc]
    rfl

end

/-! ## Sentences -/

/-- The parser ends every sentence with its tree. -/
theorem Sentence.finishes (d : Sentence) :
    ∃ s, State.initial.steps d.word = some s ∧ s.finish? = some d.tree := by
  cases d with
  | plain e =>
    obtain ⟨stack, t, hs, hr⟩ := e.reads [] rfl
    have hr := (hr 0 (Nat.le_refl 0)).trans (reduce_of_open (show Open 0 [] from trivial) e.tree)
    refine ⟨_, hs, ?_⟩
    simp only [State.finish?, hr, Sentence.tree]
  | closed e =>
    obtain ⟨stack, t, hs, hr⟩ := e.reads [] rfl
    have hr := (hr 0 (Nat.le_refl 0)).trans (reduce_of_open (show Open 0 [] from trivial) e.tree)
    have hstep : (State.operator stack t).step? (.mark .semicolon) = some (.done e.tree) := by
      simp only [State.step?, stepOperator?, hr]
    refine ⟨.done e.tree, ?_, rfl⟩
    show (State.operand []).steps (e.word ++ [.mark .semicolon]) = _
    rw [State.steps_trans hs, State.steps_cons hstep]
    rfl

/-- The run on tokens that end with the text. -/
theorem parseTokens_eq_ok_iff (ts : List Token) (t : Tree) :
    parseTokens ⟨ts, none⟩ = .ok t ↔
      ∃ s, State.initial.steps (ts.map Token.lexeme) = some s ∧ s.finish? = some t := by
  unfold parseTokens
  cases hr : State.initial.run ts with
  | error e =>
    have hn : ∀ s, State.initial.steps (ts.map Token.lexeme) ≠ some s := by
      intro s hs
      rw [(State.run_eq_ok_iff s ts _).mpr hs] at hr
      cases hr
    simp [hn]
  | ok s =>
    rw [(State.run_eq_ok_iff s ts _).mp hr]
    cases hf : s.finish? <;> simp [hf]

/-- The parser returns the tree of every sentence. -/
theorem Sentence.parseTokens_eq (d : Sentence) {ts : List Token}
    (h : ts.map Token.lexeme = d.word) : parseTokens ⟨ts, none⟩ = .ok d.tree := by
  rw [parseTokens_eq_ok_iff, h]
  exact d.finishes

end TokenFormula.Source
