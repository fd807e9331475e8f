import TokenFormula.Proofs.Grammar.Exact
import TokenFormula.Proofs.Source.Scan

/-!
# Trees of formula texts

The lexer resolves keywords where an operand is due, and the grammar has names
only there and after points. So the names in the tree of a text can be written
again at their places. Where a subtree may stand is said by the rules of the
grammar: it binds at least as tightly as its place demands.

Results:
* `IsDotted`: the names that a chain of members spells.
* `Tree.Proper`: names and subtrees that the grammar allows at their places.
* `proper_of_parse`: the tree of a formula text is proper.
-/

namespace TokenFormula.Source

/-- A name, or several names with points between them; the first is no keyword. -/
inductive IsDotted : String → Prop
  | name {s : String} (h : IsVariable s) : IsDotted s
  | member {s m : String} (h : IsDotted s) (hm : IsName m) : IsDotted (s ++ "." ++ m)

mutual

/-- The names of the tree can be written at their places, and the operands bind
    more tightly than an assignment or a choice; the base of a power binds as
    tightly as a call. -/
def Tree.Proper : Tree → Prop
  | .number _ | .quoted _ | .keyword _ | .array _ | .index _ _ | .choice _ _ _ => True
  | .name s => IsVariable s
  | .group body => body.Proper
  | .member object name => object.Proper ∧ IsName name
  | .call callee args => callee.Proper ∧ ProperList args
  | .unary _ operand => operand.Proper ∧ Rule.logicOr.rank ≤ operand.rank
  | .binary op l r => l.Proper ∧ r.Proper ∧ Rule.logicOr.rank ≤ l.rank ∧
    Rule.logicOr.rank ≤ r.rank ∧ (op = .pow → Rule.primary.rank ≤ l.rank)
  | .assign name value => IsVariable name ∧ value.Proper

/-- All trees of a list are proper. -/
def ProperList : List Tree → Prop
  | [] => True
  | t :: rest => t.Proper ∧ ProperList rest

end

theorem Tree.Proper.isDotted : {t : Tree} → t.Proper → ∀ {s}, t.dottedName? = some s → IsDotted s
  | .name _, ht, s, h => by
    obtain rfl := Option.some.inj h
    exact .name ht
  | .member object m, ht, s, h => by
    rw [Tree.dottedName?] at h
    obtain ⟨o, ho, rfl⟩ := Option.map_eq_some_iff.mp h
    exact .member (Tree.Proper.isDotted ht.1 ho) ht.2
  | .number _, _, _, h | .quoted _, _, _, h | .keyword _, _, _, h | .group _, _, _, h
  | .array _, _, _, h | .index .., _, _, h | .call .., _, _, h | .unary .., _, _, h
  | .binary .., _, _, h | .choice .., _, _, h | .assign .., _, _, h => by cases h

/-! ## Trees of derivations -/

theorem Joins.logicOr_le_left {N L R : Rule} {m : Mark} {op : BinaryOp} (h : Joins N L m op R) :
    Rule.logicOr.rank ≤ L.rank ∧ Rule.logicOr.rank ≤ R.rank ∧
      (op = .pow → Rule.primary.rank ≤ L.rank) := by
  cases h <;> decide

theorem Joins.next_eq {N L R : Rule} {m : Mark} {op : BinaryOp} (h : Joins N L m op R) :
    (Lexeme.mark m).next = .operand := by
  cases h <;> rfl

theorem Signs.next_eq {m : Mark} {op : UnaryOp} (h : Signs m op) :
    (Lexeme.mark m).next = .operand := by
  cases h <;> rfl

mutual

/-- Where the words of a derivation are found at their places, its tree is
    proper, and an operator is due after it. -/
theorem Derivation.proper : {N : Rule} → (d : Derivation N) → ∀ v,
    LexedFrom .operand (d.word ++ v) → d.tree.Proper ∧ LexedFrom .operator v
  | _, .pass _ d, v, h => d.proper v h
  | _, .assign name value, v, h => by
    obtain ⟨⟨cs, hw⟩, -, h⟩ := h
    obtain ⟨hv, h⟩ := value.proper v h
    exact ⟨⟨isVariable_of_lexemeAt? hw, hv⟩, h⟩
  | _, .choice c a b, v, h => by
    rw [Derivation.word, List.append_assoc, List.cons_append, List.append_assoc,
      List.cons_append] at h
    obtain ⟨-, -, h⟩ := c.proper _ h
    obtain ⟨-, -, h⟩ := a.proper _ h
    exact ⟨trivial, (b.proper v h).2⟩
  | _, .join (m := m) hj l r, v, h => by
    rw [Derivation.word, List.append_assoc, List.cons_append] at h
    obtain ⟨hl, -, h⟩ := l.proper _ h
    rw [hj.next_eq] at h
    obtain ⟨hr, h⟩ := r.proper v h
    obtain ⟨h1, h2, h3⟩ := hj.logicOr_le_left
    exact ⟨⟨hl, hr, Nat.le_trans h1 l.rank_le, Nat.le_trans h2 r.rank_le,
      fun ho => Nat.le_trans (h3 ho) l.rank_le⟩, h⟩
  | _, .sign hs d, v, h => by
    obtain ⟨-, h⟩ := h
    rw [hs.next_eq] at h
    obtain ⟨hd, h⟩ := d.proper v h
    exact ⟨⟨hd, Nat.le_trans (by decide) d.rank_le⟩, h⟩
  | _, .member d name, v, h => by
    rw [Derivation.word, List.append_assoc] at h
    obtain ⟨hd, -, ⟨cs, hw⟩, h⟩ := d.proper _ h
    exact ⟨⟨hd, isName_of_lexemeAt?_member hw⟩, h⟩
  | _, .index d e, v, h => by
    rw [Derivation.word, List.append_assoc, List.cons_append, List.append_assoc] at h
    obtain ⟨-, -, h⟩ := d.proper _ h
    exact ⟨trivial, (e.proper _ h).2.2⟩
  | _, .call d, v, h => by
    rw [Derivation.word, List.append_assoc] at h
    obtain ⟨hd, -, -, h⟩ := d.proper _ h
    exact ⟨⟨hd, trivial⟩, h⟩
  | _, .callWith d args, v, h => by
    rw [Derivation.word, List.append_assoc, List.cons_append, List.append_assoc] at h
    obtain ⟨hd, -, h⟩ := d.proper _ h
    obtain ⟨ha, -, h⟩ := args.proper _ h
    exact ⟨⟨hd, ha⟩, h⟩
  | _, .number s, v, h | _, .quoted s, v, h | _, .keyword k, v, h => ⟨trivial, h.2⟩
  | _, .name s, v, h => by
    obtain ⟨⟨cs, hw⟩, h⟩ := h
    exact ⟨isVariable_of_lexemeAt? hw, h⟩
  | _, .group e, v, h => by
    rw [Derivation.word, List.cons_append, List.append_assoc] at h
    obtain ⟨he, -, h⟩ := e.proper _ h.2
    exact ⟨he, h⟩
  | _, .array, v, h => ⟨trivial, h.2.2⟩
  | _, .arrayOf items, v, h => by
    rw [Derivation.word, List.cons_append, List.append_assoc] at h
    exact ⟨trivial, (items.proper _ h.2).2.2⟩

/-- The trees of arguments are proper. -/
theorem Arguments.proper : (args : Arguments) → ∀ v, LexedFrom .operand (args.word ++ v) →
    ProperList args.trees ∧ LexedFrom .operator v
  | .last e, v, h => by
    obtain ⟨he, h⟩ := e.proper v h
    exact ⟨⟨he, trivial⟩, h⟩
  | .more e rest, v, h => by
    rw [Arguments.word, List.append_assoc, List.cons_append] at h
    obtain ⟨he, -, h⟩ := e.proper _ h
    obtain ⟨hr, h⟩ := rest.proper v h
    exact ⟨⟨he, hr⟩, h⟩

end

theorem Sentence.proper (d : Sentence) (h : LexedFrom .operand d.word) : d.tree.Proper := by
  cases d with
  | plain e =>
    have h : LexedFrom .operand (e.word ++ []) := (List.append_nil e.word).symm ▸ h
    exact (e.proper [] h).1
  | closed e => exact (e.proper _ h).1

/-- The tree of a formula text is proper. -/
theorem proper_of_parse {source : String} {t : Tree} (h : parse source = .ok t) : t.Proper := by
  have hl := lexFrom_lexed (source.toList.length + 1) .operand 0 source.toList
  have hlexed : LexedFrom .operand ((lex source.toList).tokens.map Token.lexeme) := hl
  unfold parse at h
  cases hlex : lex source.toList with
  | mk tokens stop =>
    rw [hlex] at h hlexed
    cases stop with
    | none =>
      obtain ⟨d, hw, rfl⟩ := exists_sentence_of_parseTokens h
      rw [← hw] at hlexed
      exact d.proper hlexed
    | some offset =>
      unfold parseTokens at h
      dsimp only at h
      split at h <;> cases h

end TokenFormula.Source
