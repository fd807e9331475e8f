import TokenFormula.Proofs.Expr.Printable

/-!
# Passes make trees smaller

Folding and dropping lower the score of a tree that they change, and the number of
its nodes. Joining keeps both and lowers the number of variables. So a round that
ends with an equal tree has not changed anything, not even a note.

Results:
* `Shrinks`: a tree is left as it is or becomes lighter.
* `foldConstants_shrinks`, `dropRedundant_shrinks`, `joinTerms_shrinks`: the passes.
* `Still`: no pass changes the tree; `still_of_same`: a round that ends with an
  equal tree started with one that is still.
* `Still.withNote`: the note at the root does not matter.
-/

namespace TokenFormula.Expr

/-! ## Weights -/

attribute [simp] score argumentScore

mutual

/-- The number of variables in a tree, with repetitions. -/
@[simp] def variableCount : Expr → Nat
  | absent | literal .. => 0
  | var .. => 1
  | binary _ l r _ => l.variableCount + r.variableCount
  | unary _ e _ | assign _ e _ | group e _ => e.variableCount
  | call _ args _ => argumentVariableCount args

/-- The number of variables in an argument list, with repetitions. -/
@[simp] def argumentVariableCount : List Expr → Nat
  | [] => 0
  | a :: rest => a.variableCount + argumentVariableCount rest

end

mutual

/-- The number of nodes of a tree. -/
@[simp] def nodeCount : Expr → Nat
  | absent => 0
  | var .. | literal .. => 1
  | binary _ l r _ => l.nodeCount + r.nodeCount + 1
  | unary _ e _ | assign _ e _ | group e _ => e.nodeCount + 1
  | call _ args _ => argumentNodeCount args + 1

/-- The number of nodes in an argument list. -/
@[simp] def argumentNodeCount : List Expr → Nat
  | [] => 0
  | a :: rest => a.nodeCount + argumentNodeCount rest

end

/-- The tree has a lower score and fewer nodes, or the same score, as many nodes and
    fewer variables. -/
def Lighter (e' e : Expr) : Prop :=
  e'.score < e.score ∧ e'.nodeCount < e.nodeCount ∨
    e'.score = e.score ∧ e'.nodeCount = e.nodeCount ∧ e'.variableCount < e.variableCount

/-- A tree is left as it is or becomes lighter. -/
def Shrinks (e' e : Expr) : Prop :=
  e' = e ∨ e'.Lighter e

/-- Arguments are left as they are or become lighter. -/
def ArgumentsShrink (args' args : List Expr) : Prop :=
  args' = args ∨
    argumentScore args' < argumentScore args ∧ argumentNodeCount args' < argumentNodeCount args ∨
    argumentScore args' = argumentScore args ∧ argumentNodeCount args' = argumentNodeCount args ∧
      argumentVariableCount args' < argumentVariableCount args

theorem weight_pos {e : Expr} (h : e.isAbsent = false) : 0 < e.score ∧ 0 < e.nodeCount := by
  cases e with
  | absent => cases h
  | literal | var => exact ⟨Nat.one_pos, Nat.one_pos⟩
  | binary | unary | call | assign | group =>
    unfold score nodeCount
    omega

theorem weight_of_number? {e : Expr} {n : Number} (h : e.number? = some n) :
    e.score = 1 ∧ e.nodeCount = 1 := by
  obtain ⟨note, rfl⟩ := number?_eq_some h
  exact ⟨rfl, rfl⟩

theorem weight_ungroup_le : (e : Expr) →
    e.ungroup.score ≤ e.score ∧ e.ungroup.nodeCount ≤ e.nodeCount
  | group body note => by
    have hle := weight_ungroup_le body
    rw [ungroup, score, nodeCount]
    omega
  | absent | binary .. | unary .. | var .. | literal .. | call .. | assign .. =>
    ⟨Nat.le_refl _, Nat.le_refl _⟩

/-! ## Parts -/

namespace Shrinks

variable {e e' l l' r r' : Expr} {args args' : List Expr} {op name : Value} {note : Option Note}

theorem refl (e : Expr) : Shrinks e e :=
  .inl rfl

theorem trans {e'' : Expr} (h : Shrinks e' e) (h' : Shrinks e'' e') : Shrinks e'' e := by
  obtain rfl | h := h
  · exact h'
  · obtain rfl | h' := h'
    · exact .inr h
    · right
      unfold Lighter at *
      omega

theorem of_lt (hs : e'.score < e.score) (hn : e'.nodeCount < e.nodeCount) : Shrinks e' e :=
  .inr (.inl ⟨hs, hn⟩)

theorem group (h : Shrinks e' e) : Shrinks (.group e' note) (.group e note) := by
  obtain rfl | h := h
  · exact refl _
  · right
    simp only [Lighter, score, nodeCount, variableCount] at *
    omega

theorem assign (h : Shrinks e' e) : Shrinks (.assign name e' note) (.assign name e note) := by
  obtain rfl | h := h
  · exact refl _
  · right
    simp only [Lighter, score, nodeCount, variableCount] at *
    omega

theorem unary (h : Shrinks e' e) : Shrinks (.unary op e' note) (.unary op e note) := by
  obtain rfl | h := h
  · exact refl _
  · right
    simp only [Lighter, score, nodeCount, variableCount] at *
    omega

theorem binary (hl : Shrinks l' l) (hr : Shrinks r' r) :
    Shrinks (.binary op l' r' note) (.binary op l r note) := by
  obtain rfl | hl := hl <;> obtain rfl | hr := hr
  · exact refl _
  all_goals
    right
    simp only [Lighter, score, nodeCount, variableCount] at *
    omega

theorem call (h : ArgumentsShrink args' args) :
    Shrinks (.call name args' note) (.call name args note) := by
  obtain rfl | h := h
  · exact refl _
  · right
    simp only [Lighter, score, nodeCount, variableCount]
    omega

theorem cons (h : Shrinks e' e) (hargs : ArgumentsShrink args' args) :
    ArgumentsShrink (e' :: args') (e :: args) := by
  obtain rfl | h := h <;> obtain rfl | hargs := hargs
  · exact .inl rfl
  all_goals
    right
    simp only [Lighter, argumentScore, argumentNodeCount, argumentVariableCount] at *
    omega

end Shrinks

/-! ## Folding -/

theorem foldedTo_shrinks {whole e : Expr} {r : Except Fault Value} (h : foldedTo whole r = .ok e)
    (hw : 1 < whole.score ∧ 1 < whole.nodeCount) : Shrinks e whole := by
  obtain rfl | ⟨n, -, -, rfl⟩ := foldedTo_eq_ok h
  · exact .refl _
  · exact .of_lt hw.1 hw.2

theorem foldBinary_shrinks {op : Value} {l r e : Expr} {note : Option Note}
    (h : foldBinary op l r note = .ok e) : Shrinks e (binary op l r note) := by
  unfold foldBinary at h
  split at h
  · rename_i a b ha hb
    split at h
    · exact .inl (Except.ok.inj h).symm
    · refine foldedTo_shrinks h ?_
      rw [score, nodeCount, (weight_of_number? ha).1, (weight_of_number? ha).2]
      omega
  · exact .inl (Except.ok.inj h).symm

theorem foldUnary_shrinks (op : Value) (e : Expr) (note : Option Note) :
    Shrinks (foldUnary op e note) (unary op e note) := by
  have hlt : ∀ {n}, e.number? = some n →
      1 < (unary op e note).score ∧ 1 < (unary op e note).nodeCount := fun hn => by
    rw [score, nodeCount, (weight_of_number? hn).1, (weight_of_number? hn).2]
    exact ⟨Nat.one_lt_two, Nat.one_lt_two⟩
  unfold foldUnary
  split
  · exact .of_lt (hlt ‹_›).1 (hlt ‹_›).2
  · exact .of_lt (hlt ‹_›).1 (hlt ‹_›).2
  · exact .refl _

/-- Only calls with arguments are folded. -/
theorem argumentNodeCount_pos {name : Value} {args : List Expr} {note : Option Note} {n : Number}
    (h : foldCall name args note = .ok (number n)) : 0 < argumentNodeCount args := by
  unfold foldCall at h
  split at h
  · split at h
    · rename_i hns
      simp only [numbers?, List.mapM_cons] at hns
      obtain ⟨m, hm, -⟩ := Option.bind_eq_some_iff.mp hns
      rw [argumentNodeCount, (weight_of_number? hm).2]
      omega
    · cases h
  · split at h <;> cases h

theorem foldCall_shrinks {name : Value} {args : List Expr} {note : Option Note} {e : Expr}
    (h : foldCall name args note = .ok e) : Shrinks e (call name args note) := by
  obtain rfl | ⟨n, rfl⟩ := foldCall_shape h
  · exact .refl _
  · refine .of_lt ?_ (Nat.succ_lt_succ (argumentNodeCount_pos h))
    show 1 < _
    rw [score, callSurcharge]
    omega

mutual

/-- Folding leaves a tree as it is or makes it lighter. -/
theorem foldConstants_shrinks : (e : Expr) → ∀ {e'}, e.foldConstants = .ok e' → Shrinks e' e
  | absent, e', h | var .., e', h | literal .., e', h => by
    rw [foldConstants] at h
    exact .inl (Except.ok.inj h).symm
  | group body note, e', h => by
    rw [foldConstants] at h
    obtain ⟨body', hb, h⟩ := bind_eq_ok h
    obtain rfl := Except.ok.inj h
    exact (foldConstants_shrinks body hb).group
  | assign name e note, e', h => by
    rw [foldConstants] at h
    obtain ⟨e₁, h₁, h⟩ := bind_eq_ok h
    obtain rfl := Except.ok.inj h
    exact (foldConstants_shrinks e h₁).assign
  | unary op e note, e', h => by
    rw [foldConstants] at h
    obtain ⟨e₁, h₁, h⟩ := bind_eq_ok h
    obtain rfl := Except.ok.inj h
    exact (foldConstants_shrinks e h₁).unary.trans (foldUnary_shrinks op e₁ note)
  | binary op l r note, e', h => by
    rw [foldConstants] at h
    obtain ⟨l₁, hl, h⟩ := bind_eq_ok h
    obtain ⟨r₁, hr, h⟩ := bind_eq_ok h
    exact ((foldConstants_shrinks l hl).binary (foldConstants_shrinks r hr)).trans
      (foldBinary_shrinks h)
  | call name args note, e', h => by
    rw [foldConstants] at h
    obtain ⟨args₁, h₁, h⟩ := bind_eq_ok h
    exact (Shrinks.call (foldArguments_shrinks args h₁)).trans (foldCall_shrinks h)

theorem foldArguments_shrinks : (args : List Expr) → ∀ {args'}, foldArguments args = .ok args' →
    ArgumentsShrink args' args
  | [], args', h => by
    rw [foldArguments] at h
    exact .inl (Except.ok.inj h).symm
  | a :: rest, args', h => by
    rw [foldArguments] at h
    obtain ⟨a₁, ha, h⟩ := bind_eq_ok h
    obtain ⟨rest₁, hr, h⟩ := bind_eq_ok h
    obtain rfl := Except.ok.inj h
    exact (foldConstants_shrinks a ha).cons (foldArguments_shrinks rest hr)

end

/-! ## Dropping -/

theorem dropBinary_shrinks (op : Value) (l r : Expr) (note : Option Note) :
    Shrinks (dropBinary op l r note) (binary op l r note) := by
  obtain h | ⟨hl, hr, h | h | h⟩ := dropBinary_cases op l r note
  · exact .inl h
  all_goals
    have hposl := weight_pos hl
    have hposr := weight_pos hr
    refine .of_lt ?_ ?_ <;> rw [h]
  all_goals
    simp only [score, nodeCount, number]
    omega

theorem dropUnary_shrinks (op : Value) (e : Expr) (note : Option Note) :
    Shrinks (dropUnary op e note) (unary op e note) := by
  obtain h | ⟨-, x, note', hu, -, h⟩ := dropUnary_cases op e note
  · exact .inl h
  · have hle := weight_ungroup_le e
    rw [hu, score, nodeCount] at hle
    rw [h]
    refine .of_lt ?_ ?_
    · rw [score]
      omega
    · rw [nodeCount]
      omega

theorem dropGroup_shrinks (body : Expr) (note : Option Note) :
    Shrinks (dropGroup body note) (group body note) := by
  obtain h | ⟨h, -⟩ := dropGroup_cases body note
  · exact .inl h
  · rw [h]
    refine .of_lt ?_ ?_
    · rw [score]
      omega
    · exact Nat.lt_succ_self _

mutual

/-- Dropping leaves a tree as it is or makes it lighter. -/
theorem dropRedundant_shrinks : (e : Expr) → Shrinks e.dropRedundant e
  | absent | var .. | literal .. => .refl _
  | group body note => (dropRedundant_shrinks body).group.trans (dropGroup_shrinks _ note)
  | assign _ e _ => (dropRedundant_shrinks e).assign
  | unary op e note => (dropRedundant_shrinks e).unary.trans (dropUnary_shrinks op _ note)
  | binary op l r note =>
    ((dropRedundant_shrinks l).binary (dropRedundant_shrinks r)).trans
      (dropBinary_shrinks op _ _ note)
  | call _ args _ => .call (dropRedundantIn_shrinks args)

theorem dropRedundantIn_shrinks : (args : List Expr) → ArgumentsShrink (dropRedundantIn args) args
  | [] => .inl rfl
  | a :: rest => (dropRedundant_shrinks a).cons (dropRedundantIn_shrinks rest)

end

/-! ## Joining -/

theorem joinBinary_shrinks (op : Value) (l r : Expr) (note : Option Note) :
    Shrinks (joinBinary op l r note) (binary op l r note) := by
  obtain h | ⟨x, y, nx, ny, -, rfl, rfl, -, h⟩ := joinBinary_cases op l r note
  · exact .inl h
  · rw [h]
    exact .inr (.inr ⟨rfl, rfl, Nat.one_lt_two⟩)

mutual

/-- Joining leaves a tree as it is or makes it lighter. -/
theorem joinTerms_shrinks : (e : Expr) → Shrinks e.joinTerms e
  | absent | var .. | literal .. => .refl _
  | group body _ => (joinTerms_shrinks body).group
  | assign _ e _ => (joinTerms_shrinks e).assign
  | unary _ e _ => (joinTerms_shrinks e).unary
  | binary op l r note =>
    ((joinTerms_shrinks l).binary (joinTerms_shrinks r)).trans (joinBinary_shrinks op _ _ note)
  | call _ args _ => .call (joinTermsIn_shrinks args)

theorem joinTermsIn_shrinks : (args : List Expr) → ArgumentsShrink (joinTermsIn args) args
  | [] => .inl rfl
  | a :: rest => (joinTerms_shrinks a).cons (joinTermsIn_shrinks rest)

end

/-! ## Equal trees -/

mutual

/-- Equal trees weigh the same. -/
theorem same_weight : (a : Expr) → ∀ {b}, a.same b = true →
    a.score = b.score ∧ a.variableCount = b.variableCount
  | absent, b, h => by
    cases b with
    | absent => exact ⟨rfl, rfl⟩
    | _ => simp [same] at h
  | var .., b, h => by
    cases b with
    | var => exact ⟨rfl, rfl⟩
    | _ => simp [same] at h
  | literal .., b, h => by
    cases b with
    | literal => exact ⟨rfl, rfl⟩
    | _ => simp [same] at h
  | group a _, b, h => by
    cases b with
    | group b _ =>
      rw [same] at h
      have hs := same_weight a h
      exact ⟨congrArg (1 + ·) hs.1, hs.2⟩
    | _ => simp [same] at h
  | assign _ a _, b, h => by
    cases b with
    | assign _ b _ =>
      rw [same, Bool.and_eq_true] at h
      have hs := same_weight a h.2
      exact ⟨congrArg (1 + ·) hs.1, hs.2⟩
    | _ => simp [same] at h
  | unary _ a _, b, h => by
    cases b with
    | unary _ b _ =>
      rw [same, Bool.and_eq_true] at h
      have hs := same_weight a h.2
      exact ⟨congrArg (1 + ·) hs.1, hs.2⟩
    | _ => simp [same] at h
  | binary _ l r _, b, h => by
    cases b with
    | binary _ l' r' _ =>
      rw [same, Bool.and_eq_true, Bool.and_eq_true] at h
      have hl := same_weight l h.1.2
      have hr := same_weight r h.2
      simp only [score, variableCount, hl, hr, and_self]
    | _ => simp [same] at h
  | call _ args _, b, h => by
    cases b with
    | call _ args' _ =>
      rw [same, Bool.and_eq_true] at h
      have hs := sameArguments_weight args h.2
      exact ⟨congrArg (1 + callSurcharge + ·) hs.1, hs.2⟩
    | _ => simp [same] at h

theorem sameArguments_weight : (args : List Expr) → ∀ {args'}, sameArguments args args' = true →
    argumentScore args = argumentScore args' ∧
      argumentVariableCount args = argumentVariableCount args'
  | [], args', h => by
    cases args' with
    | nil => exact ⟨rfl, rfl⟩
    | cons => simp [sameArguments] at h
  | a :: rest, args', h => by
    cases args' with
    | nil => simp [sameArguments] at h
    | cons a' rest' =>
      rw [sameArguments, Bool.and_eq_true] at h
      have ha := same_weight a h.1
      have hr := sameArguments_weight rest h.2
      simp only [argumentScore, argumentVariableCount, ha, hr, and_self]

end

theorem not_lighter_of_same {e e' : Expr} (h : e'.same e = true) : ¬ e'.Lighter e := by
  have hw := same_weight e' h
  unfold Lighter
  omega

/-! ## Passes -/

theorem apply_shrinks (p : Pass) {e e' : Expr} (h : p.apply e = .ok e') : Shrinks e' e := by
  cases p with
  | fold => exact foldConstants_shrinks e h
  | drop =>
    rw [← Except.ok.inj h]
    exact dropRedundant_shrinks e
  | join =>
    rw [← Except.ok.inj h]
    exact joinTerms_shrinks e

/-- No pass changes the tree. -/
def Still (e : Expr) : Prop :=
  ∀ p : Pass, p.apply e = .ok e

theorem Still.of_passes {e : Expr} (hf : e.foldConstants = .ok e) (hd : e.dropRedundant = e)
    (hj : e.joinTerms = e) : e.Still := by
  intro p
  cases p with
  | fold => exact hf
  | drop => exact congrArg Except.ok hd
  | join => exact congrArg Except.ok hj

theorem Still.passes {e : Expr} (h : e.Still) :
    e.foldConstants = .ok e ∧ e.dropRedundant = e ∧ e.joinTerms = e :=
  ⟨h .fold, Except.ok.inj (h .drop), Except.ok.inj (h .join)⟩

theorem Lighter.of_shrinks {e e' e'' : Expr} (h : e'.Lighter e) (h' : Shrinks e'' e') :
    e''.Lighter e := by
  obtain rfl | h' := h'
  · exact h
  · unfold Lighter at *
    omega

theorem round_shrinks {e e' : Expr} (h : e.round = .ok e') : Shrinks e' e := by
  obtain ⟨e₁, h₁, rfl⟩ := exists_of_round h
  exact (foldConstants_shrinks e h₁).trans
    ((dropRedundant_shrinks e₁).trans (joinTerms_shrinks e₁.dropRedundant))

/-- A round that does not make a tree lighter finds it still. -/
theorem still_of_round {e e' : Expr} (h : e.round = .ok e') (hw : ¬ e'.Lighter e) : e.Still := by
  obtain ⟨e₁, h₁, rfl⟩ := exists_of_round h
  have hf := foldConstants_shrinks e h₁
  have hd := dropRedundant_shrinks e₁
  have hj := joinTerms_shrinks e₁.dropRedundant
  obtain rfl | hf := hf
  · obtain hd | hd := hd
    · rw [hd] at hj hw
      obtain hj | hj := hj
      · exact .of_passes h₁ hd hj
      · exact absurd hj hw
    · exact absurd (hd.of_shrinks hj) hw
  · exact absurd (hf.of_shrinks (hd.trans hj)) hw

theorem Still.round {e : Expr} (h : e.Still) : e.round = .ok e := by
  obtain ⟨hf, hd, hj⟩ := h.passes
  rw [Expr.round, hf, ok_bind, hd, hj]
  rfl

/-! ## Notes -/

section Notes

variable (note : Option Note)

theorem foldedTo_withNote (whole : Expr) (r : Except Fault Value) :
    foldedTo (whole.withNote note) r = foldedTo whole r ∨
      foldedTo (whole.withNote note) r = (foldedTo whole r).map (withNote note) := by
  unfold foldedTo
  split
  · split
    · exact .inr rfl
    · exact .inl rfl
  · rename_i v
    cases v.isFinite with
    | error f => exact .inl rfl
    | ok finite =>
      simp only [ok_bind]
      split
      · exact .inl rfl
      · exact .inr rfl

theorem foldConstants_withNote (e : Expr) :
    (e.withNote note).foldConstants = e.foldConstants ∨
      (e.withNote note).foldConstants = e.foldConstants.map (withNote note) := by
  cases e with
  | absent | var | literal => exact .inr rfl
  | group e _ =>
    simp only [withNote, foldConstants]
    cases e.foldConstants <;> exact .inr rfl
  | assign name e _ =>
    simp only [withNote, foldConstants]
    cases e.foldConstants <;> exact .inr rfl
  | unary op e _ =>
    simp only [withNote, foldConstants]
    cases e.foldConstants with
    | error f => exact .inl rfl
    | ok e =>
      simp only [ok_bind]
      unfold foldUnary
      split
      · exact .inl rfl
      · exact .inl rfl
      · exact .inr rfl
  | binary op l r n =>
    simp only [withNote, foldConstants]
    cases l.foldConstants with
    | error f => exact .inl rfl
    | ok l =>
      cases r.foldConstants with
      | error f => exact .inl rfl
      | ok r =>
        simp only [ok_bind]
        unfold foldBinary
        split
        · split
          · exact .inr rfl
          · exact foldedTo_withNote note (binary _ l r n) _
        · exact .inr rfl
  | call name args n =>
    simp only [withNote, foldConstants]
    cases foldArguments args with
    | error f => exact .inl rfl
    | ok args =>
      simp only [ok_bind]
      unfold foldCall
      split
      · split
        · exact foldedTo_withNote note (call _ _ n) _
        · exact .inr rfl
      · split
        · exact .inl rfl
        · exact .inr rfl

theorem dropRedundant_withNote (e : Expr) :
    (e.withNote note).dropRedundant = e.dropRedundant ∨
      (e.withNote note).dropRedundant = e.dropRedundant.withNote note := by
  cases e with
  | absent | var | literal | assign | call => exact .inr rfl
  | group e _ =>
    simp only [withNote, dropRedundant]
    unfold dropGroup
    split
    · exact .inl rfl
    · exact .inl rfl
    · exact .inr rfl
  | unary op e _ =>
    simp only [withNote, dropRedundant]
    unfold dropUnary
    split
    · exact .inl rfl
    · exact .inr rfl
  | binary op l r n =>
    have hite : ∀ {c : Prop} [Decidable c] {kept whole whole' : Expr},
        whole' = whole ∨ whole' = whole.withNote note →
        (if c then kept else whole') = (if c then kept else whole) ∨
          (if c then kept else whole') = (if c then kept else whole).withNote note := by
      intro c _ kept whole whole' h
      by_cases hc : c
      · simp only [if_pos hc, true_or]
      · simpa only [if_neg hc] using h
    simp only [withNote, dropRedundant]
    unfold dropBinary
    dsimp only
    split
    · exact .inr rfl
    · split
      · exact hite (hite (.inr rfl))
      · exact hite (hite (.inr rfl))
      · exact hite (hite (.inr rfl))
      · exact .inr rfl

theorem joinTerms_withNote (e : Expr) :
    (e.withNote note).joinTerms = e.joinTerms ∨
      (e.withNote note).joinTerms = e.joinTerms.withNote note := by
  cases e with
  | binary op l r n =>
    simp only [withNote, joinTerms]
    unfold joinBinary
    dsimp only
    split
    · split
      · exact .inl rfl
      · exact .inr rfl
    · exact .inr rfl
  | _ => exact .inr rfl

theorem apply_withNote (p : Pass) (e : Expr) :
    p.apply (e.withNote note) = p.apply e ∨
      p.apply (e.withNote note) = (p.apply e).map (withNote note) := by
  cases p with
  | fold => exact foldConstants_withNote note e
  | drop => exact (dropRedundant_withNote note e).imp (congrArg Except.ok) (congrArg Except.ok)
  | join => exact (joinTerms_withNote note e).imp (congrArg Except.ok) (congrArg Except.ok)

theorem variableCount_withNote (e : Expr) : (e.withNote note).variableCount = e.variableCount := by
  cases e <;> rfl

theorem nodeCount_withNote (e : Expr) : (e.withNote note).nodeCount = e.nodeCount := by
  cases e <;> rfl

/-- The note at the root does not matter. -/
theorem Still.withNote {e : Expr} (h : e.Still) : (e.withNote note).Still := by
  intro p
  obtain hp | hp := apply_withNote note p e
  · rw [h p] at hp
    -- The pass gives `e`, which is no lighter than the tree with the note.
    obtain heq | hlt := apply_shrinks p hp
    · rw [hp, ← heq]
    · rw [Lighter, score_withNote, variableCount_withNote] at hlt
      omega
  · rw [hp, h p]
    rfl

end Notes

end TokenFormula.Expr
