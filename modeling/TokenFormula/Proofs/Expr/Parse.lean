import TokenFormula.Expr.Parse
import TokenFormula.Proofs.Expr.Native
import TokenFormula.Proofs.Grammar.Proper
import TokenFormula.Proofs.Number.Limit
import TokenFormula.Proofs.Number.Text

/-!
# Trees of formula texts

The tree of a formula text has a tree at every place. Its operators and names are
those of the grammar, and its literals hold native values, numbers in normal form.
No operand is an assignment, and the base of a power is an operand in itself.

Results:
* `Parsed`: what holds at each node.
* `parsed_ofTree`, `parsed_parse`: the tree of a parse tree and of a formula text.
* `Complete`, `complete_parse`: nothing is missing, and the literals are native.
* `exists_of_notedErrors`: the tree of a text without errors.
-/

namespace TokenFormula.Expr

open Source (Tree IsVariable IsDotted)

/-! ## Nodes -/

/-- An assignment. -/
def isAssign : Expr → Bool
  | assign .. => true
  | _ => false

/-- An operand in itself: a literal, a variable, a call or parentheses. -/
def isPrimary : Expr → Bool
  | var .. | literal .. | call .. | group .. => true
  | _ => false

/-- A value that a formula text writes. A number is written again if it is finite. -/
def IsRead : Value → Prop
  | .null | .bool _ | .text _ => True
  | .num n => n.isNormal = true ∧ (n.isFinite = true → n.IsWritable)
  | _ => False

/-- The node is one that a formula text is read as, fallbacks included. -/
def Parsed : Expr → Prop
  | absent => False
  | binary op l r _ => ∃ o : BinaryOp, op = .text o.symbol ∧ l.isAssign = false ∧
    r.isAssign = false ∧ (o = .pow → l.isPrimary = true)
  | unary op e _ => ∃ o : UnaryOp, op = .text o.symbol ∧ e.isAssign = false
  | var name _ | assign name _ _ => ∃ s, name = .text s ∧ IsVariable s
  | literal v _ _ => ∃ w, v = some w ∧ IsRead w
  | call name _ _ => ∃ s, name = .text s ∧ IsDotted s
  | group .. => True

theorem parsed_withNote {note : Option Note} (e : Expr) :
    Parsed (e.withNote note) ↔ Parsed e := by
  cases e <;> exact .rfl

theorem children_withNote (e : Expr) (note : Option Note) :
    (e.withNote note).children = e.children := by
  cases e <;> rfl

theorem score_withNote (e : Expr) (note : Option Note) : (e.withNote note).score = e.score := by
  cases e <;> rfl

theorem parsed_text (s : String) (fallback : Bool) (note : Option Note) :
    (literal (some (.text s)) fallback note).Every Parsed :=
  ⟨_, rfl, trivial⟩

theorem isAbsent_of_parsed {e : Expr} (h : Parsed e) : e.isAbsent = false := by
  cases e with
  | absent => exact h.elim
  | _ => rfl

/-- Nothing is missing at the node, and its literal is native. -/
def Complete (e : Expr) : Prop :=
  e.isAbsent = false ∧ LiteralNative e

theorem Every.present {e : Expr} (h : e.Every Complete) : e.isAbsent = false :=
  h.root.1

theorem literalNative_withNote {note : Option Note} (e : Expr) :
    LiteralNative (e.withNote note) ↔ LiteralNative e := by
  cases e with
  | literal v fallback note' =>
    cases v with
    | none => exact .rfl
    | some v => cases v <;> exact .rfl
  | _ => exact .rfl

theorem complete_of_parsed {e : Expr} (h : Parsed e) : Complete e := by
  refine ⟨isAbsent_of_parsed h, ?_⟩
  cases e with
  | literal v fallback note =>
    obtain ⟨w, rfl, hw⟩ := h
    cases w with
    | num n => exact hw.1
    | null | bool | text => trivial
    | _ => exact hw.elim
  | _ => trivial

/-! ## Parse trees -/

theorem isWritable_of_readNumber {s : String} {n : Number} (h : Source.readNumber s = .ok n)
    (hf : n.isFinite = true) : n.IsWritable := by
  unfold Source.readNumber at h
  dsimp only at h
  split at h
  · split at h
    · rename_i x _
      rw [← Except.ok.inj h] at hf ⊢
      unfold Number.normalize at hf ⊢
      dsimp only at hf ⊢
      split
      · rename_i k hk
        rw [hk] at hf
        split
        · rename_i hlt
          exact Number.safeLimit_lt_textLimit hlt
        · rename_i hlt
          simp only [hlt] at hf
          exact hf
      · rename_i hk
        rw [hk] at hf
        exact hf
    · cases h
  · split at h
    · rename_i k hk
      rw [← Except.ok.inj h]
      exact Source.natAbs_lt_of_readInteger hk
    · cases h
    · cases h

theorem describe_shape {t : Tree} {e : Expr} (h : describe t = .ok e) : ∃ s, e = fallback s := by
  obtain ⟨s, -, h⟩ := bind_eq_ok h
  exact ⟨s, (Except.ok.inj h).symm⟩

theorem ofMember_shape {object : Tree} {name : String} {e : Expr}
    (h : ofMember object name = .ok e) :
    (∃ s, e = fallback s) ∨
      (object = .name mathName ∧ e = call (.text (mathName ++ "." ++ name)) [] none) := by
  unfold ofMember at h
  dsimp only at h
  split at h
  · split at h
    · rename_i hs
      exact .inr ⟨congrArg Tree.name hs, (Except.ok.inj h).symm⟩
    · exact .inl ⟨_, (Except.ok.inj h).symm⟩
  · split at h
    · exact .inl ⟨_, (Except.ok.inj h).symm⟩
    · exact .inl (describe_shape h)

/-- What binds more tightly than an assignment gives none, and what binds as
    tightly as a call gives an operand. -/
theorem ofTree_shape {t : Tree} {e : Expr} (h : ofTree t = .ok e) :
    (Source.Rule.logicOr.rank ≤ t.rank → e.isAssign = false) ∧
      (Source.Rule.primary.rank ≤ t.rank → e.isPrimary = true) := by
  cases t with
  | number s =>
    rw [ofTree] at h
    obtain ⟨n, -, h⟩ := bind_eq_ok h
    rw [← Except.ok.inj h]
    exact ⟨fun _ => rfl, fun _ => rfl⟩
  | quoted s | keyword k | name s =>
    rw [ofTree] at h
    rw [← Except.ok.inj h]
    exact ⟨fun _ => rfl, fun _ => rfl⟩
  | group body =>
    rw [ofTree] at h
    obtain ⟨b, -, h⟩ := bind_eq_ok h
    rw [← Except.ok.inj h]
    exact ⟨fun _ => rfl, fun _ => rfl⟩
  | array items | index object position | choice c a b =>
    rw [ofTree] at h
    obtain ⟨s, rfl⟩ := describe_shape h
    exact ⟨fun _ => rfl, fun _ => rfl⟩
  | member object name =>
    rw [ofTree] at h
    obtain ⟨s, rfl⟩ | ⟨-, rfl⟩ := ofMember_shape h <;> exact ⟨fun _ => rfl, fun _ => rfl⟩
  | call callee args =>
    rw [ofTree] at h
    obtain ⟨es, -, h⟩ := bind_eq_ok h
    rw [← Except.ok.inj h]
    exact ⟨fun _ => rfl, fun _ => rfl⟩
  | unary op operand =>
    rw [ofTree] at h
    obtain ⟨b, -, h⟩ := bind_eq_ok h
    rw [← Except.ok.inj h]
    refine ⟨fun _ => rfl, fun hr => absurd hr ?_⟩
    show ¬ Source.Rule.primary.rank ≤ Source.Rule.unary.rank
    decide
  | binary op left right =>
    rw [ofTree] at h
    obtain ⟨l, -, h⟩ := bind_eq_ok h
    obtain ⟨r, -, h⟩ := bind_eq_ok h
    rw [← Except.ok.inj h]
    refine ⟨fun _ => rfl, fun hr => absurd hr ?_⟩
    show ¬ Source.Rule.primary.rank ≤ op.level + 1
    cases op <;> decide
  | assign name value =>
    rw [ofTree] at h
    obtain ⟨b, -, h⟩ := bind_eq_ok h
    rw [← Except.ok.inj h]
    have hrank : (Tree.assign name value).rank = 1 := rfl
    rw [hrank]
    exact ⟨fun hr => absurd hr (by decide), fun hr => absurd hr (by decide)⟩

mutual

theorem parsed_ofTree : (t : Tree) → t.Proper → ∀ e, ofTree t = .ok e → e.Every Parsed
  | .number s, _, e, h => by
    rw [ofTree] at h
    obtain ⟨n, hn, h⟩ := bind_eq_ok h
    rw [← Except.ok.inj h]
    exact ⟨_, rfl, Source.isNormal_readNumber hn, isWritable_of_readNumber hn⟩
  | .quoted s, _, e, h => by
    rw [ofTree] at h
    rw [← Except.ok.inj h]
    exact parsed_text ..
  | .keyword k, _, e, h => by
    rw [ofTree] at h
    rw [← Except.ok.inj h]
    refine ⟨_, rfl, ?_⟩
    cases k <;> trivial
  | .name s, ht, e, h => by
    rw [ofTree] at h
    rw [← Except.ok.inj h]
    exact ⟨s, rfl, ht⟩
  | .group body, ht, e, h => by
    rw [ofTree] at h
    obtain ⟨b, hb, h⟩ := bind_eq_ok h
    rw [← Except.ok.inj h]
    exact ⟨trivial, parsed_ofTree body ht b hb⟩
  | .member object name, ht, e, h => by
    rw [ofTree] at h
    obtain ⟨s, rfl⟩ | ⟨rfl, rfl⟩ := ofMember_shape h
    · exact parsed_text ..
    · exact ⟨⟨_, rfl, .member (.name ht.1) ht.2⟩, trivial⟩
  | .call callee args, ht, e, h => by
    rw [ofTree] at h
    obtain ⟨es, hes, h⟩ := bind_eq_ok h
    rw [← Except.ok.inj h]
    refine ⟨⟨_, rfl, ?_⟩, parsed_ofTrees args ht.2 es hes⟩
    cases hd : callee.dottedName? with
    | none =>
      exact .name ⟨Source.isName_of_all rfl rfl rfl, rfl⟩
    | some s => exact ht.1.isDotted hd
  | .unary op operand, ht, e, h => by
    rw [ofTree] at h
    obtain ⟨b, hb, h⟩ := bind_eq_ok h
    rw [← Except.ok.inj h]
    exact ⟨⟨op, rfl, (ofTree_shape hb).1 ht.2⟩, parsed_ofTree operand ht.1 b hb⟩
  | .binary op left right, ht, e, h => by
    rw [ofTree] at h
    obtain ⟨l, hl, h⟩ := bind_eq_ok h
    obtain ⟨r, hr, h⟩ := bind_eq_ok h
    rw [← Except.ok.inj h]
    obtain ⟨htl, htr, hnl, hnr, hp⟩ := ht
    exact ⟨⟨op, rfl, (ofTree_shape hl).1 hnl, (ofTree_shape hr).1 hnr,
      fun ho => (ofTree_shape hl).2 (hp ho)⟩,
      parsed_ofTree left htl l hl, parsed_ofTree right htr r hr⟩
  | .assign name value, ht, e, h => by
    rw [ofTree] at h
    obtain ⟨b, hb, h⟩ := bind_eq_ok h
    rw [← Except.ok.inj h]
    exact ⟨⟨name, rfl, ht.1⟩, parsed_ofTree value ht.2 b hb⟩
  | .array items, _, e, h | .index object position, _, e, h | .choice c a b, _, e, h => by
    rw [ofTree] at h
    obtain ⟨s, rfl⟩ := describe_shape h
    exact parsed_text ..

theorem parsed_ofTrees : (ts : List Tree) → Source.ProperList ts → ∀ es,
    ofTrees ts = .ok es → EveryArgument Parsed es
  | [], _, es, h => by
    rw [ofTrees] at h
    rw [← Except.ok.inj h]
    trivial
  | t :: rest, ht, es, h => by
    rw [ofTrees] at h
    obtain ⟨e, he, h⟩ := bind_eq_ok h
    obtain ⟨es', hes, h⟩ := bind_eq_ok h
    rw [← Except.ok.inj h]
    exact ⟨parsed_ofTree t ht.1 e he, parsed_ofTrees rest ht.2 es' hes⟩

end

/-! ## Formula texts -/

/-- The tree of a formula text, also where the text is not read. -/
theorem parsed_parse (source : String) : (parse source).Every Parsed := by
  unfold parse
  split
  · exact parsed_text ..
  · split
    · exact parsed_text ..
    · rename_i t ht _ e he
      exact (every_withNote parsed_withNote).mpr
        (parsed_ofTree t (Source.proper_of_parse ht) e he)

theorem complete_parse (source : String) : (parse source).Every Complete :=
  every_mono (fun _ => complete_of_parsed) _ (parsed_parse source)

theorem literalNative_parse (source : String) : (parse source).Every LiteralNative :=
  every_mono (fun _ h => h.2) _ (complete_parse source)

/-- The tree of a text that is read is that of its parse tree, with a note. -/
theorem exists_of_notedErrors {source : String} (h : (parse source).notedErrors = []) :
    ∃ t e, Source.parse source = .ok t ∧ ofTree t = .ok e ∧ parse source = e.noted := by
  unfold parse at h ⊢
  split at h
  · cases h
  · rename_i t ht
    split at h
    · cases h
    · rename_i e he
      exact ⟨t, e, ht, he, rfl⟩

end TokenFormula.Expr
