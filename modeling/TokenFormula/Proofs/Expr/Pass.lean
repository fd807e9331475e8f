import Mathlib.Data.List.Forall2
import TokenFormula.Expr.Optimize
import TokenFormula.Proofs.Expr.Fold

/-!
# What the passes keep

A pass rewrites the children of a node and then applies a rule to the node. A
property of every node of a tree is kept if it does not depend on the children
beyond what the rewriting keeps of them, and holds of the nodes that the rules
make.

Results:
* `dropRedundant_isAbsent`, `joinTerms_isAbsent`: a missing tree stays missing,
  and no other tree becomes missing.
* `KeptBy`: a property of nodes that does not notice a rewriting of children.
* `every_foldConstants`, `every_dropRedundant`, `every_joinTerms`: the passes.
* `rounds_induct`: what holds from the first tree of the rounds to the last.
* `KeptByRules`, `every_optimize`: the rounds of the optimizer.
-/

namespace TokenFormula.Expr

/-! ## Missing trees -/

theorem negated?_eq_some {e x : Expr} (h : e.negated? = some x) :
    ∃ note, e.ungroup = unary (.text "-") x note ∧ x.isAbsent = false := by
  unfold negated? at h
  split at h
  · rename_i operand note hu
    split at h
    · cases h
    · rename_i ha
      obtain rfl := Option.some.inj h
      exact ⟨note, hu, Bool.eq_false_iff.mpr ha⟩
  · cases h

/-- What dropping leaves of a binary operation: an operand, the number one or the
    operation. -/
theorem dropBinary_cases (op : Value) (l r : Expr) (note : Option Note) :
    dropBinary op l r note = binary op l r note ∨
      (l.isAbsent = false ∧ r.isAbsent = false ∧
        (dropBinary op l r note = l ∨ dropBinary op l r note = r ∨
          dropBinary op l r note = number (.int 1))) := by
  unfold dropBinary
  dsimp only
  split
  · exact .inl rfl
  · rename_i h
    rw [Bool.not_eq_true, Bool.or_eq_false_iff] at h
    split
    · unfold dropZero
      split
      · exact .inr ⟨h.1, h.2, .inl rfl⟩
      · split
        · exact .inr ⟨h.1, h.2, .inr (.inl rfl)⟩
        · exact .inl rfl
    · unfold dropOne
      split
      · exact .inr ⟨h.1, h.2, .inl rfl⟩
      · split
        · exact .inr ⟨h.1, h.2, .inr (.inl rfl)⟩
        · exact .inl rfl
    · unfold dropExponent
      split
      · exact .inr ⟨h.1, h.2, .inl rfl⟩
      · split
        · exact .inr ⟨h.1, h.2, .inr (.inr rfl)⟩
        · exact .inl rfl
    · exact .inl rfl

/-- What dropping leaves of a unary operation. -/
theorem dropUnary_cases (op : Value) (e : Expr) (note : Option Note) :
    dropUnary op e note = unary op e note ∨
      (op = .text "-" ∧ ∃ x note', e.ungroup = unary (.text "-") x note' ∧
        x.isAbsent = false ∧ dropUnary op e note = x) := by
  unfold dropUnary
  split
  · rename_i x hx
    obtain ⟨note', hu, ha⟩ := negated?_eq_some hx
    exact .inr ⟨rfl, x, note', hu, ha, rfl⟩
  · exact .inl rfl

/-- What dropping leaves of parentheses. -/
theorem dropGroup_cases (body : Expr) (note : Option Note) :
    dropGroup body note = group body note ∨
      (dropGroup body note = body ∧ body.isAbsent = false) := by
  unfold dropGroup
  split
  · exact .inr ⟨rfl, rfl⟩
  · exact .inr ⟨rfl, rfl⟩
  · exact .inl rfl

/-- What joining leaves of a binary operation. -/
theorem joinBinary_cases (op : Value) (l r : Expr) (note : Option Note) :
    joinBinary op l r note = binary op l r note ∨
      ∃ x y nx ny, op = .text "+" ∧ l = var x nx ∧ r = var y ny ∧ x.identical y = true ∧
        joinBinary op l r note = binary (.text "*") (number (.int 2)) (var y ny) none := by
  unfold joinBinary
  dsimp only
  split
  · split
    · rename_i hxy
      rw [Bool.and_eq_true] at hxy
      exact .inr ⟨_, _, _, _, rfl, rfl, rfl, hxy.2, rfl⟩
    · exact .inl rfl
  · exact .inl rfl

theorem dropBinary_isAbsent (op : Value) (l r : Expr) (note : Option Note) :
    (dropBinary op l r note).isAbsent = false := by
  obtain h | ⟨hl, hr, h | h | h⟩ := dropBinary_cases op l r note
  · rw [h]
    rfl
  · rw [h]
    exact hl
  · rw [h]
    exact hr
  · rw [h]
    rfl

theorem dropUnary_isAbsent (op : Value) (e : Expr) (note : Option Note) :
    (dropUnary op e note).isAbsent = false := by
  obtain h | ⟨-, x, note', -, hx, h⟩ := dropUnary_cases op e note
  · rw [h]
    rfl
  · rw [h]
    exact hx

theorem dropRedundant_isAbsent (e : Expr) : e.dropRedundant.isAbsent = e.isAbsent := by
  cases e with
  | absent | literal | var | call | assign => rfl
  | group body note =>
    rw [dropRedundant]
    obtain h | ⟨h, hb⟩ := dropGroup_cases body.dropRedundant note
    · rw [h]
      rfl
    · rw [h, hb]
      rfl
  | unary op e note => exact dropUnary_isAbsent _ _ _
  | binary op l r note => exact dropBinary_isAbsent _ _ _ _

theorem joinTerms_isAbsent (e : Expr) : e.joinTerms.isAbsent = e.isAbsent := by
  cases e with
  | binary op l r note =>
    rw [joinTerms]
    obtain h | ⟨x, y, nx, ny, -, -, -, -, h⟩ :=
      joinBinary_cases op l.joinTerms r.joinTerms note <;>
    · rw [h]
      rfl
  | _ => rfl

/-! ## Properties of nodes -/

/-- The property of a node stays when each child is replaced by one that it is
    related to. -/
structure KeptBy (R : Expr → Expr → Prop) (p : Expr → Prop) : Prop where
  binary : ∀ {op l l' r r' note}, p (.binary op l r note) → R l l' → R r r' →
    p (.binary op l' r' note)
  unary : ∀ {op e e' note}, p (.unary op e note) → R e e' → p (.unary op e' note)
  call : ∀ {name args args' note}, p (.call name args note) → List.Forall₂ R args args' →
    p (.call name args' note)
  assign : ∀ {name e e' note}, p (.assign name e note) → R e e' → p (.assign name e' note)
  group : ∀ {e e' note}, p (.group e note) → R e e' → p (.group e' note)

theorem every_number {p : Expr → Prop} {n : Number} (h : p (number n)) : (number n).Every p := h

theorem every_ungroup {p : Expr → Prop} : (e : Expr) → e.Every p → e.ungroup.Every p
  | .group body _, h => every_ungroup body h.2
  | .absent, h | .binary .., h | .unary .., h | .var .., h | .literal .., h | .call .., h
  | .assign .., h => h

section Fold

/-- A property of nodes that the rules of folding keep: it holds of the finite
    numbers and truth values that they give. -/
structure KeptByFolding (p : Expr → Prop) : Prop where
  children : KeptBy (fun e e' => e.foldConstants = .ok e') p
  finite : ∀ {n}, (Value.num n).isFinite = .ok true → p (number n.normalize)
  negated : ∀ {n note}, p (literal (some (.num n)) false note) → p (number n.negate.normalize)
  truth : ∀ b, p (literal (some (.bool b)) false none)

variable {p : Expr → Prop}

theorem every_foldedTo {whole e : Expr} {r : Except Fault Value} (hp : KeptByFolding p)
    (hw : whole.Every p) (h : foldedTo whole r = .ok e) : e.Every p := by
  obtain rfl | ⟨n, -, hf, rfl⟩ := foldedTo_eq_ok h
  · exact hw
  · exact every_number (hp.finite hf)

theorem every_foldBinary {op : Value} {l r e : Expr} {note : Option Note} (hp : KeptByFolding p)
    (hw : (binary op l r note).Every p) (h : foldBinary op l r note = .ok e) : e.Every p := by
  unfold foldBinary at h
  split at h
  · split at h
    · rw [← Except.ok.inj h]
      exact hw
    · exact every_foldedTo hp hw h
  · rw [← Except.ok.inj h]
    exact hw

theorem every_foldUnary {op : Value} {e : Expr} {note : Option Note} (hp : KeptByFolding p)
    (hw : (unary op e note).Every p) : (foldUnary op e note).Every p := by
  unfold foldUnary
  split
  · rename_i n hn
    obtain ⟨note', rfl⟩ := number?_eq_some hn
    exact every_number (hp.negated hw.2)
  · exact hp.truth _
  · exact hw

theorem every_foldCall {name : Value} {args : List Expr} {note : Option Note} {e : Expr}
    (hp : KeptByFolding p) (hw : (call name args note).Every p)
    (h : foldCall name args note = .ok e) : e.Every p := by
  unfold foldCall at h
  split at h
  · split at h
    · exact every_foldedTo hp hw h
    · rw [← Except.ok.inj h]
      exact hw
  · split at h
    · cases h
    · rw [← Except.ok.inj h]
      exact hw

mutual

/-- Folding keeps a property of nodes. -/
theorem every_foldConstants (hp : KeptByFolding p) : (e : Expr) → e.Every p → ∀ e',
    e.foldConstants = .ok e' → e'.Every p
  | .absent, he, e', h | .literal .., he, e', h | .var .., he, e', h => by
    rw [foldConstants] at h
    rw [← Except.ok.inj h]
    exact he
  | .group body note, he, e', h => by
    rw [foldConstants] at h
    obtain ⟨body', hb, h⟩ := bind_eq_ok h
    rw [← Except.ok.inj h]
    have hb' := every_foldConstants hp body he.2 body' hb
    exact ⟨hp.children.group he.1 hb, hb'⟩
  | .unary op e note, he, e', h => by
    rw [foldConstants] at h
    obtain ⟨e₁, h₁, h⟩ := bind_eq_ok h
    rw [← Except.ok.inj h]
    have he₁ := every_foldConstants hp e he.2 e₁ h₁
    exact every_foldUnary hp ⟨hp.children.unary he.1 h₁, he₁⟩
  | .binary op l r note, he, e', h => by
    rw [foldConstants] at h
    obtain ⟨l₁, hl, h⟩ := bind_eq_ok h
    obtain ⟨r₁, hr, h⟩ := bind_eq_ok h
    have hl₁ := every_foldConstants hp l he.2.1 l₁ hl
    have hr₁ := every_foldConstants hp r he.2.2 r₁ hr
    exact every_foldBinary hp ⟨hp.children.binary he.1 hl hr, hl₁, hr₁⟩ h
  | .assign name e note, he, e', h => by
    rw [foldConstants] at h
    obtain ⟨e₁, h₁, h⟩ := bind_eq_ok h
    rw [← Except.ok.inj h]
    have he₁ := every_foldConstants hp e he.2 e₁ h₁
    exact ⟨hp.children.assign he.1 h₁, he₁⟩
  | .call name args note, he, e', h => by
    rw [foldConstants] at h
    obtain ⟨args₁, h₁, h⟩ := bind_eq_ok h
    obtain ⟨ha, hargs⟩ := every_foldArguments hp args he.2 args₁ h₁
    exact every_foldCall hp ⟨hp.children.call he.1 hargs, ha⟩ h

theorem every_foldArguments (hp : KeptByFolding p) : (args : List Expr) → EveryArgument p args →
    ∀ args', foldArguments args = .ok args' →
      EveryArgument p args' ∧ List.Forall₂ (fun e e' => e.foldConstants = .ok e') args args'
  | [], _, args', h => by
    rw [foldArguments] at h
    rw [← Except.ok.inj h]
    exact ⟨trivial, .nil⟩
  | a :: rest, he, args', h => by
    rw [foldArguments] at h
    obtain ⟨a₁, ha, h⟩ := bind_eq_ok h
    obtain ⟨rest₁, hr, h⟩ := bind_eq_ok h
    rw [← Except.ok.inj h]
    obtain ⟨hr₁, hrest⟩ := every_foldArguments hp rest he.2 rest₁ hr
    exact ⟨⟨every_foldConstants hp a he.1 a₁ ha, hr₁⟩, .cons ha hrest⟩

end

end Fold

section Drop

variable {p : Expr → Prop}

mutual

/-- Dropping keeps a property of nodes that holds of the number one. -/
theorem every_dropRedundant (hp : KeptBy (fun e e' => e' = e.dropRedundant) p)
    (h1 : p (number (.int 1))) : (e : Expr) → e.Every p → e.dropRedundant.Every p
  | .absent, he | .literal .., he | .var .., he => he
  | .group body note, he => by
    have hb := every_dropRedundant hp h1 body he.2
    rw [dropRedundant]
    obtain h | ⟨h, -⟩ := dropGroup_cases body.dropRedundant note
    · rw [h]
      exact ⟨hp.group he.1 rfl, hb⟩
    · rw [h]
      exact hb
  | .unary op e note, he => by
    have he' := every_dropRedundant hp h1 e he.2
    rw [dropRedundant]
    obtain h | ⟨-, x, note', hu, -, h⟩ := dropUnary_cases op e.dropRedundant note
    · rw [h]
      exact ⟨hp.unary he.1 rfl, he'⟩
    · rw [h]
      have hx := every_ungroup _ he'
      rw [hu] at hx
      exact hx.2
  | .binary op l r note, he => by
    have hl := every_dropRedundant hp h1 l he.2.1
    have hr := every_dropRedundant hp h1 r he.2.2
    rw [dropRedundant]
    obtain h | ⟨-, -, h | h | h⟩ := dropBinary_cases op l.dropRedundant r.dropRedundant note
    · rw [h]
      exact ⟨hp.binary he.1 rfl rfl, hl, hr⟩
    · rw [h]
      exact hl
    · rw [h]
      exact hr
    · rw [h]
      exact every_number h1
  | .assign name e note, he =>
    ⟨hp.assign he.1 rfl, every_dropRedundant hp h1 e he.2⟩
  | .call name args note, he => by
    obtain ⟨ha, hargs⟩ := every_dropRedundantIn hp h1 args he.2
    exact ⟨hp.call he.1 hargs, ha⟩

theorem every_dropRedundantIn (hp : KeptBy (fun e e' => e' = e.dropRedundant) p)
    (h1 : p (number (.int 1))) : (args : List Expr) → EveryArgument p args →
      EveryArgument p (dropRedundantIn args) ∧
        List.Forall₂ (fun e e' => e' = e.dropRedundant) args (dropRedundantIn args)
  | [], _ => ⟨trivial, .nil⟩
  | a :: rest, he => by
    obtain ⟨hr, hrest⟩ := every_dropRedundantIn hp h1 rest he.2
    exact ⟨⟨every_dropRedundant hp h1 a he.1, hr⟩, .cons rfl hrest⟩

end

end Drop

section Join

variable {p : Expr → Prop}

mutual

/-- Joining keeps a property of nodes that holds of the products which it makes. -/
theorem every_joinTerms (hp : KeptBy (fun e e' => e' = e.joinTerms) p)
    (h2 : p (number (.int 2)))
    (hm : ∀ {x y nx ny note}, p (binary (.text "+") (var x nx) (var y ny) note) →
      p (binary (.text "*") (number (.int 2)) (var y ny) none)) :
    (e : Expr) → e.Every p → e.joinTerms.Every p
  | .absent, he | .literal .., he | .var .., he => he
  | .group body note, he => ⟨hp.group he.1 rfl, every_joinTerms hp h2 hm body he.2⟩
  | .unary op e note, he => ⟨hp.unary he.1 rfl, every_joinTerms hp h2 hm e he.2⟩
  | .binary op l r note, he => by
    have hl := every_joinTerms hp h2 hm l he.2.1
    have hr := every_joinTerms hp h2 hm r he.2.2
    have hw : p (binary op l.joinTerms r.joinTerms note) := hp.binary he.1 rfl rfl
    rw [joinTerms]
    obtain h | ⟨x, y, nx, ny, rfl, hx, hy, -, h⟩ :=
      joinBinary_cases op l.joinTerms r.joinTerms note
    · rw [h]
      exact ⟨hw, hl, hr⟩
    · rw [hx, hy] at hw
      rw [h]
      refine ⟨hm hw, every_number h2, ?_⟩
      rw [← hy]
      exact hr
  | .assign name e note, he => ⟨hp.assign he.1 rfl, every_joinTerms hp h2 hm e he.2⟩
  | .call name args note, he => by
    obtain ⟨ha, hargs⟩ := every_joinTermsIn hp h2 hm args he.2
    exact ⟨hp.call he.1 hargs, ha⟩

theorem every_joinTermsIn (hp : KeptBy (fun e e' => e' = e.joinTerms) p)
    (h2 : p (number (.int 2)))
    (hm : ∀ {x y nx ny note}, p (binary (.text "+") (var x nx) (var y ny) note) →
      p (binary (.text "*") (number (.int 2)) (var y ny) none)) :
    (args : List Expr) → EveryArgument p args →
      EveryArgument p (joinTermsIn args) ∧
        List.Forall₂ (fun e e' => e' = e.joinTerms) args (joinTermsIn args)
  | [], _ => ⟨trivial, .nil⟩
  | a :: rest, he => by
    obtain ⟨hr, hrest⟩ := every_joinTermsIn hp h2 hm rest he.2
    exact ⟨⟨every_joinTerms hp h2 hm a he.1, hr⟩, .cons rfl hrest⟩

end

end Join

section Rounds

variable {p : Expr → Prop}

theorem exists_of_round {e e' : Expr} (h : e.round = .ok e') :
    ∃ f, e.foldConstants = .ok f ∧ f.dropRedundant.joinTerms = e' := by
  obtain ⟨f, hf, h⟩ := bind_eq_ok h
  exact ⟨f, hf, Except.ok.inj h⟩

/-- The first of several rounds ends them with the tree it starts from, if what it makes is
    the same. Otherwise the others go on from there. -/
theorem rounds_succ_cases {n : Nat} {e r : Expr} (h : rounds (n + 1) e = .ok r) :
    ∃ e', e.round = .ok e' ∧
      (e'.same e = true ∧ r = e ∨ e'.same e = false ∧ rounds n e' = .ok r) := by
  obtain ⟨e', hround, h⟩ := bind_eq_ok h
  refine ⟨e', hround, ?_⟩
  split at h
  · rename_i hsame
    exact .inl ⟨hsame, (Except.ok.inj h).symm⟩
  · rename_i hsame
    exact .inr ⟨Bool.eq_false_iff.mpr hsame, h⟩

/-- A relation that a round can be put in front of holds from the first tree of the rounds to
    the last. -/
theorem rounds_induct {R : Expr → Expr → Prop} (refl : ∀ e, R e e)
    (step : ∀ {e e' r}, e.round = .ok e' → R e' r → R e r) (n : Nat) :
    ∀ {e r : Expr}, rounds n e = .ok r → R e r := by
  induction n with
  | zero =>
    intro e r h
    rw [← Except.ok.inj h]
    exact refl e
  | succ n ih =>
    intro e r h
    obtain ⟨e', hround, ⟨-, rfl⟩ | ⟨-, h⟩⟩ := rounds_succ_cases h
    · exact refl r
    · exact step hround (ih h)

/-- What a round keeps, all rounds keep. -/
theorem every_rounds (hround : ∀ {e e' : Expr}, e.Every p → e.round = .ok e' → e'.Every p)
    (n : Nat) {e r : Expr} (he : e.Every p) (h : rounds n e = .ok r) : r.Every p :=
  rounds_induct (R := fun e r => e.Every p → r.Every p) (fun _ he => he)
    (fun h' ih he => ih (hround he h')) n h he

/-- A property of nodes that rounds keep, and that does not look at notes, the optimizer
    keeps. -/
theorem every_optimize (hround : ∀ {e e' : Expr}, e.Every p → e.round = .ok e' → e'.Every p)
    (hnote : ∀ {note : Option Note} (e : Expr), p (e.withNote note) ↔ p e) {e : Expr}
    (maxRounds : Int) (he : e.Every p) : (e.optimize maxRounds).Every p := by
  unfold optimize
  split
  · rename_i r hr
    obtain ⟨e', he', hr⟩ := bind_eq_ok hr
    rw [← Except.ok.inj hr]
    exact (every_withNote hnote).mpr (every_rounds hround _ ((every_withNote hnote).mpr he) he')
  · exact he

/-- A property of nodes that the rules of all passes keep. -/
structure KeptByRules (p : Expr → Prop) : Prop where
  folding : KeptByFolding p
  dropping : KeptBy (fun e e' => e' = e.dropRedundant) p
  joining : KeptBy (fun e e' => e' = e.joinTerms) p
  one : p (number (.int 1))
  two : p (number (.int 2))
  product : ∀ {x y nx ny note}, p (binary (.text "+") (var x nx) (var y ny) note) →
    p (binary (.text "*") (number (.int 2)) (var y ny) none)

theorem KeptByRules.every_round (hp : KeptByRules p) {e e' : Expr} (he : e.Every p)
    (h : e.round = .ok e') : e'.Every p := by
  obtain ⟨e₁, hfold, rfl⟩ := exists_of_round h
  have hfolded := every_foldConstants hp.folding e he e₁ hfold
  have hdropped := every_dropRedundant hp.dropping hp.one e₁ hfolded
  exact every_joinTerms hp.joining hp.two hp.product _ hdropped

end Rounds

end TokenFormula.Expr
