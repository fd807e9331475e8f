import TokenFormula.Proofs.Grammar.Sound

/-!
# The parser accepts exactly the grammar

The parser returns one tree for a token sequence, and it returns the tree of
every derivation, so all derivations of a sequence share their tree. A tree
together with its tokens has only one derivation: its root names the
alternative, and the lengths of the parts are lengths of subtrees.

Results:
* `Derivation.rank_le`: the root of a tree binds at least as tightly as the rule.
* `Derivation.eq_of_tree_word`: tree and tokens determine the derivation.
* `parseTokens_exact`: the parse succeeds exactly on the derivable sequences, the
  derivation is unique, and the tree is its tree.
-/

namespace TokenFormula.Source

/-! ## Ranks -/

/-- How tightly a rule binds. -/
def Rule.rank : Rule → Nat
  | .expr => 0
  | .assignment | .conditional => 1
  | .logicOr => 2
  | .logicAnd => 3
  | .equality => 4
  | .comparison => 5
  | .sum => 6
  | .product => 7
  | .unary => 8
  | .power => 9
  | .primary => 10
  | .atom => 11

/-- How tightly the construct at the root of a tree binds. -/
def Tree.rank : Tree → Nat
  | .assign .. | .choice .. => Rule.conditional.rank
  | .binary op .. => op.level + 1
  | .unary .. => Rule.unary.rank
  | .member .. | .index .. | .call .. => Rule.primary.rank
  | _ => Rule.atom.rank

theorem Passes.rank_lt {N M : Rule} (h : Passes N M) : N.rank < M.rank := by
  cases h <;> decide

theorem Joins.rank_eq {N L R : Rule} {m : Mark} {op : BinaryOp} (h : Joins N L m op R) :
    N.rank = op.level + 1 := by
  cases h <;> rfl

/-- The root of a tree binds at least as tightly as the rule. -/
theorem Derivation.rank_le : {N : Rule} → (d : Derivation N) → N.rank ≤ d.tree.rank
  | _, .pass h d => Nat.le_trans (Nat.le_of_lt h.rank_lt) d.rank_le
  | _, .join h _ _ => Nat.le_of_eq h.rank_eq
  | _, .assign .. | _, .choice .. | _, .sign .. | _, .member .. | _, .index .. | _, .call _
  | _, .callWith .. | _, .number _ | _, .quoted _ | _, .keyword _ | _, .name _ | _, .group _
  | _, .array | _, .arrayOf _ => Nat.le_refl _

/-- The tree of an alternative of one rule binds more tightly than the rule. -/
theorem Passes.false_of_rank_le {N M : Rule} (h : Passes N M) (d : Derivation M) {t : Tree}
    (ht : t = d.tree) (hr : t.rank ≤ N.rank) : False := by
  subst ht
  exact Nat.lt_irrefl _ (Nat.lt_of_lt_of_le (Nat.lt_of_lt_of_le h.rank_lt d.rank_le) hr)

/-! ## Tree and tokens determine the derivation -/

theorem Passes.right_unique {N M M' : Rule} (h : Passes N M) (h' : Passes N M')
    (d : Derivation M) (d' : Derivation M') (ht : d.tree = d'.tree) : M = M' := by
  -- Only `expr` has two such alternatives; assignments and choices differ.
  have apart (d : Derivation .assignment) (d' : Derivation .conditional) : d.tree ≠ d'.tree := by
    intro ht
    cases d with
    | pass h d => cases h
    | join h l r => cases h
    | assign name value =>
      cases d' with
      | pass h d' => exact h.false_of_rank_le d' ht (Nat.le_refl _)
      | join h l r => cases h
      | choice c a b => cases ht
  cases h <;> cases h' <;>
    first
    | rfl
    | exact absurd ht (apart d d')
    | exact absurd ht.symm (apart d' d)

theorem append_cons_inj {l l' r r' : List Lexeme} {x x' : Lexeme}
    (h : l ++ x :: r = l' ++ x' :: r') (hl : l.length = l'.length) :
    l = l' ∧ x = x' ∧ r = r' := by
  obtain ⟨hl, hr⟩ := List.append_inj h hl
  obtain ⟨hx, hr⟩ := List.cons.inj hr
  exact ⟨hl, hx, hr⟩

theorem length_eq_of_tree_eq {N N' : Rule} {d : Derivation N} {d' : Derivation N'}
    (h : d.tree = d'.tree) : d.word.length = d'.word.length := by
  rw [d.length_word, d'.length_word, h]

mutual

/-- Tree and tokens determine the derivation. -/
theorem Derivation.eq_of_tree_word : {N : Rule} → (d d' : Derivation N) →
    d.tree = d'.tree → d.word = d'.word → d = d'
  | _, .pass h d, d', ht, hw => by
    cases d' with
    | pass h' d' =>
      obtain rfl := h.right_unique h' d d' ht
      rw [d.eq_of_tree_word d' ht hw]
    | join h' l r => exact (h.false_of_rank_le d ht.symm (Nat.le_of_eq h'.rank_eq.symm)).elim
    | assign | number | quoted | keyword | name | group | array | arrayOf => cases h
    | _ => exact (h.false_of_rank_le d ht.symm (Nat.le_refl _)).elim
  | _, .assign name value, d', ht, hw => by
    cases d' with
    | pass h d' => cases h
    | join h l r => cases h
    | assign name' value' =>
      obtain ⟨rfl, hv⟩ := Tree.assign.inj ht
      rw [value.eq_of_tree_word value' hv (List.cons.inj (List.cons.inj hw).2).2]
  | _, .choice c a b, d', ht, hw => by
    cases d' with
    | pass h d' => exact (h.false_of_rank_le d' ht (Nat.le_refl _)).elim
    | join h l r => cases h
    | choice c' a' b' =>
      obtain ⟨hc, ha, hb⟩ := Tree.choice.inj ht
      obtain ⟨hwc, -, hw⟩ := append_cons_inj hw (length_eq_of_tree_eq hc)
      obtain ⟨hwa, -, hwb⟩ := append_cons_inj hw (length_eq_of_tree_eq ha)
      rw [c.eq_of_tree_word c' hc hwc, a.eq_of_tree_word a' ha hwa, b.eq_of_tree_word b' hb hwb]
  | _, .join h l r, d', ht, hw => by
    cases d' with
    | pass h' d' => exact (h'.false_of_rank_le d' ht (Nat.le_of_eq h.rank_eq.symm)).elim
    | join h' l' r' =>
      obtain ⟨rfl, hl, hr⟩ := Tree.binary.inj ht
      obtain rfl := h.left_eq.trans h'.left_eq.symm
      obtain rfl := h.right_eq.trans h'.right_eq.symm
      obtain ⟨hwl, hm, hwr⟩ := append_cons_inj hw (length_eq_of_tree_eq hl)
      obtain rfl := Lexeme.mark.inj hm
      rw [l.eq_of_tree_word l' hl hwl, r.eq_of_tree_word r' hr hwr]
    | _ => cases ht
  | _, .sign h d, d', ht, hw => by
    cases d' with
    | pass h' d' => exact (h'.false_of_rank_le d' ht (Nat.le_refl _)).elim
    | join h' l r => cases h'
    | sign h' d' =>
      obtain ⟨rfl, hd⟩ := Tree.unary.inj ht
      obtain ⟨hm, hwd⟩ := List.cons.inj hw
      obtain rfl := Lexeme.mark.inj hm
      rw [d.eq_of_tree_word d' hd hwd]
  | _, .member d name, d', ht, hw => by
    cases d' with
    | pass h d' => exact (h.false_of_rank_le d' ht (Nat.le_refl _)).elim
    | join h l r => cases h
    | member d' name' =>
      obtain ⟨hd, rfl⟩ := Tree.member.inj ht
      obtain ⟨hwd, -⟩ := append_cons_inj hw (length_eq_of_tree_eq hd)
      rw [d.eq_of_tree_word d' hd hwd]
    | _ => cases ht
  | _, .index d e, d', ht, hw => by
    cases d' with
    | pass h d' => exact (h.false_of_rank_le d' ht (Nat.le_refl _)).elim
    | join h l r => cases h
    | index d' e' =>
      obtain ⟨hd, he⟩ := Tree.index.inj ht
      obtain ⟨hwd, -, hw⟩ := append_cons_inj hw (length_eq_of_tree_eq hd)
      obtain ⟨hwe, -⟩ := append_cons_inj hw (length_eq_of_tree_eq he)
      rw [d.eq_of_tree_word d' hd hwd, e.eq_of_tree_word e' he hwe]
    | _ => cases ht
  | _, .call d, d', ht, hw => by
    cases d' with
    | pass h d' => exact (h.false_of_rank_le d' ht (Nat.le_refl _)).elim
    | join h l r => cases h
    | call d' =>
      obtain ⟨hd, -⟩ := Tree.call.inj ht
      obtain ⟨hwd, -⟩ := append_cons_inj hw (length_eq_of_tree_eq hd)
      rw [d.eq_of_tree_word d' hd hwd]
    | callWith d' args' => exact absurd (Tree.call.inj ht).2.symm args'.trees_ne_nil
    | _ => cases ht
  | _, .callWith d args, d', ht, hw => by
    cases d' with
    | pass h d' => exact (h.false_of_rank_le d' ht (Nat.le_refl _)).elim
    | join h l r => cases h
    | call d' => exact absurd (Tree.call.inj ht).2 args.trees_ne_nil
    | callWith d' args' =>
      obtain ⟨hd, hargs⟩ := Tree.call.inj ht
      obtain ⟨hwd, -, hw⟩ := append_cons_inj hw (length_eq_of_tree_eq hd)
      rw [d.eq_of_tree_word d' hd hwd,
        args.eq_of_trees_word args' hargs (List.append_cancel_right hw)]
    | _ => cases ht
  | _, .number s, d', ht, _ => by
    cases d' with
    | number s' => rw [Tree.number.inj ht]
    | pass h d' => cases h
    | join h l r => cases h
    | _ => cases ht
  | _, .quoted s, d', ht, _ => by
    cases d' with
    | quoted s' => rw [Tree.quoted.inj ht]
    | pass h d' => cases h
    | join h l r => cases h
    | _ => cases ht
  | _, .keyword k, d', ht, _ => by
    cases d' with
    | keyword k' => rw [Tree.keyword.inj ht]
    | pass h d' => cases h
    | join h l r => cases h
    | _ => cases ht
  | _, .name s, d', ht, _ => by
    cases d' with
    | name s' => rw [Tree.name.inj ht]
    | pass h d' => cases h
    | join h l r => cases h
    | _ => cases ht
  | _, .group e, d', ht, hw => by
    cases d' with
    | group e' =>
      have hwe := List.append_cancel_right (List.cons.inj hw).2
      rw [e.eq_of_tree_word e' (Tree.group.inj ht) hwe]
    | pass h d' => cases h
    | join h l r => cases h
    | _ => cases ht
  | _, .array, d', ht, _ => by
    cases d' with
    | array => rfl
    | arrayOf items' => exact absurd (Tree.array.inj ht).symm items'.trees_ne_nil
    | pass h d' => cases h
    | join h l r => cases h
    | _ => cases ht
  | _, .arrayOf items, d', ht, hw => by
    cases d' with
    | array => exact absurd (Tree.array.inj ht) items.trees_ne_nil
    | arrayOf items' =>
      have hwi := List.append_cancel_right (List.cons.inj hw).2
      rw [items.eq_of_trees_word items' (Tree.array.inj ht) hwi]
    | pass h d' => cases h
    | join h l r => cases h
    | _ => cases ht

/-- Trees and tokens determine the arguments. -/
theorem Arguments.eq_of_trees_word : (args args' : Arguments) →
    args.trees = args'.trees → args.word = args'.word → args = args'
  | .last e, args', ht, hw => by
    cases args' with
    | last e' => rw [e.eq_of_tree_word e' (List.cons.inj ht).1 hw]
    | more e' rest' => exact absurd (List.cons.inj ht).2.symm rest'.trees_ne_nil
  | .more e rest, args', ht, hw => by
    cases args' with
    | last e' => exact absurd (List.cons.inj ht).2 rest.trees_ne_nil
    | more e' rest' =>
      obtain ⟨he, hr⟩ := List.cons.inj ht
      obtain ⟨hwe, -, hwr⟩ := append_cons_inj hw (length_eq_of_tree_eq he)
      rw [e.eq_of_tree_word e' he hwe, rest.eq_of_trees_word rest' hr hwr]

end

/-- Tree and tokens determine the sentence: a semicolon makes it longer. -/
theorem Sentence.eq_of_tree_word (d d' : Sentence) (ht : d.tree = d'.tree)
    (hw : d.word = d'.word) : d = d' := by
  have apart (e e' : Derivation .expr) (ht : e.tree = e'.tree) :
      e.word ≠ e'.word ++ [.mark .semicolon] := by
    intro hw
    have hl := congrArg List.length hw
    rw [length_eq_of_tree_eq ht, List.length_append, List.length_singleton] at hl
    omega
  cases d with
  | plain e =>
    cases d' with
    | plain e' => rw [e.eq_of_tree_word e' ht hw]
    | closed e' => exact absurd hw (apart e e' ht)
  | closed e =>
    cases d' with
    | plain e' => exact absurd hw.symm (apart e' e ht.symm)
    | closed e' => rw [e.eq_of_tree_word e' ht (List.append_cancel_right hw)]

/-! ## The parser and the grammar -/

/-- A token sequence has at most one derivation. -/
theorem Sentence.word_injective {d d' : Sentence} (hw : d.word = d'.word) : d = d' := by
  obtain ⟨s, hs, hf⟩ := d.finishes
  obtain ⟨s', hs', hf'⟩ := d'.finishes
  rw [hw, hs'] at hs
  obtain rfl := Option.some.inj hs
  rw [hf'] at hf
  exact d.eq_of_tree_word d' (Option.some.inj hf).symm hw

/-- The parse of a token sequence succeeds exactly if the sequence is derivable;
    it has then exactly one derivation, and the tree is that derivation, also by
    rule names and leaves. -/
theorem parseTokens_exact (ts : List Token) :
    ((∃ t, parseTokens ⟨ts, none⟩ = .ok t) ↔ ∃ d : Sentence, d.word = ts.map Token.lexeme) ∧
    ∀ t, parseTokens ⟨ts, none⟩ = .ok t →
      ∃ d : Sentence, d.word = ts.map Token.lexeme ∧
        (∀ d' : Sentence, d'.word = ts.map Token.lexeme → d' = d) ∧
        t = d.tree ∧ t.outline = d.outline := by
  refine ⟨⟨?_, ?_⟩, ?_⟩
  · rintro ⟨t, ht⟩
    obtain ⟨d, hw, -⟩ := exists_sentence_of_parseTokens ht
    exact ⟨d, hw⟩
  · rintro ⟨d, hw⟩
    exact ⟨d.tree, d.parseTokens_eq hw.symm⟩
  · intro t ht
    obtain ⟨d, hw, rfl⟩ := exists_sentence_of_parseTokens ht
    refine ⟨d, hw, fun d' hw' => ?_, rfl, d.outline_tree⟩
    exact Sentence.word_injective (hw'.trans hw.symm)

end TokenFormula.Source
