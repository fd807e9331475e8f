import TokenFormula.Expr.Parse
import TokenFormula.Proofs.Expr.Shrink

/-!
# How many rounds settle a tree

A round has two halves: folding, then dropping and joining. A half may give the
other one something to do, but only one level further up: after each half one
more level of the tree, counted from its leaves, is done. So the rounds settle a
tree whose height is below twice their number, and then optimizing once more
changes nothing. A higher tree may be cut off before it is settled, and then
optimizing once more goes on.

Results:
* `folds`, `reduces`: a half rewrites the root.
* `work`: a bound on the halves that have something to do; `fold_work`,
  `reduce_work`: each half lowers it.
* `work_le_height`: it is at most one above the height.
* `Settles`, `optimize_idempotent`: for which trees optimizing twice is
  optimizing once.
* `not_optimize_idempotent`: ten rounds do not settle every tree.
-/

namespace TokenFormula.Expr

/-! ## Redexes -/

/-- The halves of a round. -/
inductive Half where
  | fold | reduce
deriving DecidableEq, Repr

/-- The half that comes next. -/
def Half.next : Half → Half
  | fold => reduce
  | reduce => fold

/-- A binary operation is dropped. -/
def dropsBinary (op : Value) (l r : Expr) : Bool :=
  !l.isAbsent && !r.isAbsent &&
    match op with
    | .text "+" => r.isInteger 0 && !l.isTextLiteral || l.isInteger 0 && !r.isTextLiteral
    | .text "*" => r.isInteger 1 || l.isInteger 1
    | .text "^" => r.isInteger 1 || r.isInteger 0
    | _ => false

/-- A binary operation is a sum of a variable with itself. -/
def joinsBinary (op : Value) (l r : Expr) : Bool :=
  match op, l, r with
  | .text "+", var x _, var y _ => x.isTruthy && x.identical y
  | _, _, _ => false

/-- The tree is a literal or a variable. -/
def isAtom : Expr → Bool
  | literal .. | var .. => true
  | _ => false

/-- A negation is dropped with the one inside it. -/
def dropsUnary (op : Value) (e : Expr) : Bool :=
  match op with
  | .text "-" => e.negated?.isSome
  | _ => false

/-- The result of a rule of folding is not the tree itself. -/
def isFolded : Except Fault Expr → Bool
  | .ok (literal ..) | .error _ => true
  | _ => false

/-- Folding rewrites the root. -/
def folds : Expr → Bool
  | binary op l r note => isFolded (foldBinary op l r note)
  | unary op e note => isFolded (.ok (foldUnary op e note))
  | call name args note => isFolded (foldCall name args note)
  | _ => false

/-- Dropping or joining rewrites the root. -/
def reduces : Expr → Bool
  | binary op l r _ => dropsBinary op l r || joinsBinary op l r
  | unary op e _ => dropsUnary op e
  | group body _ => body.isAtom
  | _ => false

/-- A half rewrites the root. -/
def redex : Half → Expr → Bool
  | .fold => folds
  | .reduce => reduces

section Redex

variable {op name : Value} {l r e : Expr} {args : List Expr} {note : Option Note}

theorem foldBinary_redex (h : foldBinary op l r note = .ok e) :
    e = binary op l r note ∧ folds (binary op l r note) = false ∨ ∃ n, e = number n := by
  obtain rfl | h' := foldBinary_shape h
  · exact .inl ⟨rfl, congrArg isFolded h⟩
  · exact .inr h'

theorem foldUnary_redex (op : Value) (e : Expr) (note : Option Note) :
    foldUnary op e note = unary op e note ∧ folds (unary op e note) = false ∨
      ∃ v, foldUnary op e note = literal v false none := by
  have hshape : foldUnary op e note = unary op e note ∨
      ∃ v, foldUnary op e note = literal v false none := by
    unfold foldUnary
    split
    · exact .inr ⟨_, rfl⟩
    · exact .inr ⟨_, rfl⟩
    · exact .inl rfl
  obtain h | h := hshape
  · exact .inl ⟨h, congrArg (fun t => isFolded (.ok t)) h⟩
  · exact .inr h

theorem foldCall_redex (h : foldCall name args note = .ok e) :
    e = call name args note ∧ folds (call name args note) = false ∨ ∃ n, e = number n := by
  obtain rfl | h' := foldCall_shape h
  · exact .inl ⟨rfl, congrArg isFolded h⟩
  · exact .inr h'

theorem dropZero_redex (whole l r : Expr) :
    dropZero whole l r = whole ∧
        (r.isInteger 0 && !l.isTextLiteral || l.isInteger 0 && !r.isTextLiteral) = false ∨
      (r.isInteger 0 && !l.isTextLiteral || l.isInteger 0 && !r.isTextLiteral) = true ∧
        (dropZero whole l r = l ∨ dropZero whole l r = r) := by
  unfold dropZero
  cases r.isInteger 0 && !l.isTextLiteral with
  | true => exact .inr ⟨rfl, .inl rfl⟩
  | false =>
    cases l.isInteger 0 && !r.isTextLiteral with
    | true => exact .inr ⟨rfl, .inr rfl⟩
    | false => exact .inl ⟨rfl, rfl⟩

theorem dropOne_redex (whole l r : Expr) :
    dropOne whole l r = whole ∧ (r.isInteger 1 || l.isInteger 1) = false ∨
      (r.isInteger 1 || l.isInteger 1) = true ∧
        (dropOne whole l r = l ∨ dropOne whole l r = r) := by
  unfold dropOne
  cases r.isInteger 1 with
  | true => exact .inr ⟨rfl, .inl rfl⟩
  | false =>
    cases l.isInteger 1 with
    | true => exact .inr ⟨rfl, .inr rfl⟩
    | false => exact .inl ⟨rfl, rfl⟩

theorem dropExponent_redex (whole l r : Expr) :
    dropExponent whole l r = whole ∧ (r.isInteger 1 || r.isInteger 0) = false ∨
      (r.isInteger 1 || r.isInteger 0) = true ∧
        (dropExponent whole l r = l ∨ dropExponent whole l r = number (.int 1)) := by
  unfold dropExponent
  cases r.isInteger 1 with
  | true => exact .inr ⟨rfl, .inl rfl⟩
  | false =>
    cases r.isInteger 0 with
    | true => exact .inr ⟨rfl, .inr rfl⟩
    | false => exact .inl ⟨rfl, rfl⟩

theorem dropBinary_redex (op : Value) (l r : Expr) (note : Option Note) :
    dropBinary op l r note = binary op l r note ∧ dropsBinary op l r = false ∨
      dropsBinary op l r = true ∧ (dropBinary op l r note = l ∨ dropBinary op l r note = r ∨
        dropBinary op l r note = number (.int 1)) := by
  unfold dropBinary dropsBinary
  rw [← Bool.not_or]
  cases l.isAbsent || r.isAbsent with
  | true => exact .inl ⟨rfl, rfl⟩
  | false =>
    simp only [Bool.false_eq_true, if_false, Bool.not_false, Bool.true_and]
    split
    · obtain h | ⟨h, h' | h'⟩ := dropZero_redex (binary (.text "+") l r note) l r
      · exact .inl h
      · exact .inr ⟨h, .inl h'⟩
      · exact .inr ⟨h, .inr (.inl h')⟩
    · obtain h | ⟨h, h' | h'⟩ := dropOne_redex (binary (.text "*") l r note) l r
      · exact .inl h
      · exact .inr ⟨h, .inl h'⟩
      · exact .inr ⟨h, .inr (.inl h')⟩
    · obtain h | ⟨h, h' | h'⟩ := dropExponent_redex (binary (.text "^") l r note) l r
      · exact .inl h
      · exact .inr ⟨h, .inl h'⟩
      · exact .inr ⟨h, .inr (.inr h')⟩
    · exact .inl ⟨rfl, by simp only⟩

theorem dropUnary_redex (op : Value) (e : Expr) (note : Option Note) :
    dropUnary op e note = unary op e note ∧ dropsUnary op e = false ∨
      dropsUnary op e = true ∧ ∃ x, e.negated? = some x ∧ dropUnary op e note = x := by
  unfold dropUnary dropsUnary
  split
  · rename_i x hx
    rw [hx]
    exact .inr ⟨rfl, x, rfl, rfl⟩
  · rename_i hno
    refine .inl ⟨rfl, ?_⟩
    split
    · rw [Option.isSome_eq_false_iff, Option.isNone_iff_eq_none, Option.eq_none_iff_forall_ne_some]
      exact fun x hx => hno x rfl hx
    · rfl

theorem dropGroup_redex (body : Expr) (note : Option Note) :
    dropGroup body note = group body note ∧ body.isAtom = false ∨
      body.isAtom = true ∧ dropGroup body note = body := by
  cases body with
  | literal | var => exact .inr ⟨rfl, rfl⟩
  | _ => exact .inl ⟨rfl, rfl⟩

theorem joinBinary_redex (op : Value) (l r : Expr) (note : Option Note) :
    joinBinary op l r note = binary op l r note ∧ joinsBinary op l r = false ∨
      joinsBinary op l r = true ∧
        ∃ y n, joinBinary op l r note = binary (.text "*") (number (.int 2)) (var y n) none := by
  unfold joinBinary joinsBinary
  dsimp only
  split
  · split
    · rename_i hxy
      exact .inr ⟨hxy, _, _, rfl⟩
    · rename_i hxy
      exact .inl ⟨rfl, Bool.eq_false_iff.mpr hxy⟩
  · exact .inl ⟨rfl, by simp only⟩

/-! ### No redex -/

theorem foldBinary_of_not_folds (h : folds (binary op l r note) = false) :
    foldBinary op l r note = .ok (binary op l r note) := by
  cases hf : foldBinary op l r note with
  | error f => cases (congrArg isFolded hf).symm.trans h
  | ok e =>
    obtain ⟨rfl, -⟩ | ⟨n, rfl⟩ := foldBinary_redex hf
    · rfl
    · cases (congrArg isFolded hf).symm.trans h

theorem foldUnary_of_not_folds (h : folds (unary op e note) = false) :
    foldUnary op e note = unary op e note := by
  obtain ⟨hf, -⟩ | ⟨v, hf⟩ := foldUnary_redex op e note
  · exact hf
  · cases (congrArg (fun t => isFolded (.ok t)) hf).symm.trans h

theorem foldCall_of_not_folds (h : folds (call name args note) = false) :
    foldCall name args note = .ok (call name args note) := by
  cases hf : foldCall name args note with
  | error f => cases (congrArg isFolded hf).symm.trans h
  | ok e =>
    obtain ⟨rfl, -⟩ | ⟨n, rfl⟩ := foldCall_redex hf
    · rfl
    · cases (congrArg isFolded hf).symm.trans h

theorem dropBinary_of_not_drops (h : dropsBinary op l r = false) :
    dropBinary op l r note = binary op l r note := by
  obtain ⟨hd, -⟩ | ⟨hd, -⟩ := dropBinary_redex op l r note
  · exact hd
  · cases hd.symm.trans h

theorem dropUnary_of_not_drops (h : dropsUnary op e = false) :
    dropUnary op e note = unary op e note := by
  obtain ⟨hd, -⟩ | ⟨hd, -⟩ := dropUnary_redex op e note
  · exact hd
  · cases hd.symm.trans h

theorem dropGroup_of_not_atom (h : e.isAtom = false) : dropGroup e note = group e note := by
  obtain ⟨hd, -⟩ | ⟨hd, -⟩ := dropGroup_redex e note
  · exact hd
  · cases hd.symm.trans h

theorem joinBinary_of_not_joins (h : joinsBinary op l r = false) :
    joinBinary op l r note = binary op l r note := by
  obtain ⟨hj, -⟩ | ⟨hj, -⟩ := joinBinary_redex op l r note
  · exact hj
  · cases hj.symm.trans h

end Redex

/-! ## Joining keeps what dropping looks at -/

/-- Joining a binary operation gives one. -/
theorem joinTerms_binary (op : Value) (l r : Expr) (note : Option Note) :
    ∃ op' l' r' note', (binary op l r note).joinTerms = binary op' l' r' note' := by
  rw [joinTerms]
  obtain h | ⟨_, _, _, _, -, -, -, -, h⟩ := joinBinary_cases op l.joinTerms r.joinTerms note <;>
  exact ⟨_, _, _, _, h⟩

theorem joinTerms_number? (e : Expr) : e.joinTerms.number? = e.number? := by
  cases e with
  | binary op l r note =>
    obtain ⟨_, _, _, _, h⟩ := joinTerms_binary op l r note
    rw [h]
    rfl
  | _ => rfl

theorem joinTerms_isTextLiteral (e : Expr) : e.joinTerms.isTextLiteral = e.isTextLiteral := by
  cases e with
  | binary op l r note =>
    obtain ⟨_, _, _, _, h⟩ := joinTerms_binary op l r note
    rw [h]
    rfl
  | _ => rfl

theorem joinTerms_isAtom (e : Expr) : e.joinTerms.isAtom = e.isAtom := by
  cases e with
  | binary op l r note =>
    obtain ⟨_, _, _, _, h⟩ := joinTerms_binary op l r note
    rw [h]
    rfl
  | _ => rfl

theorem dropsBinary_joinTerms (op : Value) (l r : Expr) :
    dropsBinary op l.joinTerms r.joinTerms = dropsBinary op l r := by
  simp only [dropsBinary, isInteger, joinTerms_isAbsent, joinTerms_number?,
    joinTerms_isTextLiteral]

theorem ungroup_joinTerms : (e : Expr) → e.joinTerms.ungroup = e.ungroup.joinTerms
  | group body note => by
    rw [joinTerms, ungroup, ungroup]
    exact ungroup_joinTerms body
  | binary op l r note => by
    obtain ⟨_, _, _, _, h⟩ := joinTerms_binary op l r note
    show _ = (binary op l r note).joinTerms
    rw [h]
    rfl
  | absent | unary .. | var .. | literal .. | call .. | assign .. => rfl

theorem negated?_joinTerms (e : Expr) : e.joinTerms.negated? = e.negated?.map joinTerms := by
  unfold negated?
  rw [ungroup_joinTerms]
  cases e.ungroup with
  | binary op l r note =>
    obtain ⟨_, _, _, _, h⟩ := joinTerms_binary op l r note
    rw [h]
    rfl
  | unary op e note =>
    rw [joinTerms]
    split
    · rename_i heq
      cases heq
      simp only [joinTerms_isAbsent]
      split <;> rfl
    · rename_i hno
      split
      · rename_i heq
        cases heq
        exact (hno _ _ rfl).elim
      · rfl
  | _ => rfl

theorem dropsUnary_joinTerms (op : Value) (e : Expr) :
    dropsUnary op e.joinTerms = dropsUnary op e := by
  unfold dropsUnary
  rw [negated?_joinTerms, Option.isSome_map]

/-! ## Work -/

/-- The halves that a root without work below it needs, before a half: one if it
    can be rewritten now, two if it has to wait for the next half. -/
def own (h : Half) (e : Expr) : Nat :=
  if redex h e then 1 else if redex h.next e then 2 else 0

/-- The halves that a tree needs, from those that its children need and those
    that its root needs after them. -/
def above (below root : Nat) : Nat :=
  if below = 0 then root else below + 1

mutual

/-- A bound on the halves, this one first, that have something to do in a tree. -/
def work (h : Half) : Expr → Nat
  | absent | var .. | literal .. => 0
  | binary op l r note => above (max (l.work h) (r.work h)) (own h (binary op l r note))
  | unary op e note => above (e.work h) (own h (unary op e note))
  | call name args note => above (argumentWork h args) (own h (call name args note))
  | assign name e note => above (e.work h) (own h (assign name e note))
  | group e note => above (e.work h) (own h (group e note))

/-- The most work in an argument. -/
def argumentWork (h : Half) : List Expr → Nat
  | [] => 0
  | a :: rest => max (a.work h) (argumentWork h rest)

end

section Work

variable {h : Half} {below below' root : Nat} {e e' : Expr}

theorem le_above : below ≤ above below root := by
  unfold above
  split <;> omega

theorem above_eq_zero (h0 : above below root = 0) : below = 0 ∧ root = 0 := by
  unfold above at h0
  split at h0
  · exact ⟨‹_›, h0⟩
  · omega

theorem own_eq_zero_iff : own h e = 0 ↔ folds e = false ∧ reduces e = false := by
  cases h <;> cases hf : folds e <;> cases hr : reduces e <;>
    simp [own, redex, Half.next, hf, hr]

/-- A half that lowers the work below a root and leaves no redex of its own there
    lowers the work of the tree. -/
theorem above_le (hbelow : below' ≤ below - 1) (hdone : redex h e' = false)
    (hsame : below = 0 → e' = e) : above below' (own h.next e') ≤ above below (own h e) - 1 := by
  have hnext : h.next.next = h := by cases h <;> rfl
  have hown' : own h.next e' = if redex h.next e' then 1 else 0 := by
    rw [own, hnext, hdone]
    rfl
  unfold above
  by_cases hb : below = 0
  · obtain rfl := hsame hb
    have hown : own h e' = if redex h.next e' then 2 else 0 := by
      rw [own, hdone]
      rfl
    rw [if_pos (by omega), if_pos hb, hown', hown]
    split <;> omega
  · rw [if_neg hb, hown']
    split
    · split <;> omega
    · omega

end Work

mutual

/-- A tree without work is still. -/
theorem still_of_work (h : Half) : (e : Expr) → e.work h = 0 → e.Still
  | absent, _ | var .., _ | literal .., _ => fun p => by cases p <;> rfl
  | group body note, hw => by
    obtain ⟨hb, hown⟩ := above_eq_zero hw
    obtain ⟨-, hatom⟩ := own_eq_zero_iff.mp hown
    have hbody := (still_of_work h body hb).passes
    refine .of_passes ?_ ?_ ?_
    · rw [foldConstants, hbody.1]
      rfl
    · rw [dropRedundant, hbody.2.1]
      exact dropGroup_of_not_atom hatom
    · rw [joinTerms, hbody.2.2]
  | assign name e note, hw => by
    obtain ⟨he, -⟩ := above_eq_zero hw
    have he := (still_of_work h e he).passes
    refine .of_passes ?_ ?_ ?_
    · rw [foldConstants, he.1]
      rfl
    · rw [dropRedundant, he.2.1]
    · rw [joinTerms, he.2.2]
  | unary op e note, hw => by
    obtain ⟨he, hown⟩ := above_eq_zero hw
    obtain ⟨hfolds, hdrops⟩ := own_eq_zero_iff.mp hown
    have he := (still_of_work h e he).passes
    refine .of_passes ?_ ?_ ?_
    · rw [foldConstants, he.1, ok_bind, foldUnary_of_not_folds hfolds]
      rfl
    · rw [dropRedundant, he.2.1]
      exact dropUnary_of_not_drops hdrops
    · rw [joinTerms, he.2.2]
  | binary op l r note, hw => by
    obtain ⟨hlr, hown⟩ := above_eq_zero hw
    obtain ⟨hfolds, hreduces⟩ := own_eq_zero_iff.mp hown
    obtain ⟨hdrops, hjoins⟩ := Bool.or_eq_false_iff.mp hreduces
    have hl := (still_of_work h l (by omega)).passes
    have hr := (still_of_work h r (by omega)).passes
    refine .of_passes ?_ ?_ ?_
    · rw [foldConstants, hl.1, hr.1]
      exact foldBinary_of_not_folds hfolds
    · rw [dropRedundant, hl.2.1, hr.2.1]
      exact dropBinary_of_not_drops hdrops
    · rw [joinTerms, hl.2.2, hr.2.2]
      exact joinBinary_of_not_joins hjoins
  | call name args note, hw => by
    obtain ⟨hargs, hown⟩ := above_eq_zero hw
    obtain ⟨hfolds, -⟩ := own_eq_zero_iff.mp hown
    have hargs := still_of_argumentWork h args hargs
    refine .of_passes ?_ ?_ ?_
    · rw [foldConstants, hargs.1]
      exact foldCall_of_not_folds hfolds
    · rw [dropRedundant, hargs.2.1]
    · rw [joinTerms, hargs.2.2]

theorem still_of_argumentWork (h : Half) : (args : List Expr) → argumentWork h args = 0 →
    foldArguments args = .ok args ∧ dropRedundantIn args = args ∧ joinTermsIn args = args
  | [], _ => ⟨rfl, rfl, rfl⟩
  | a :: rest, hw => by
    rw [argumentWork] at hw
    have ha := (still_of_work h a (by omega)).passes
    have hr := still_of_argumentWork h rest (by omega)
    refine ⟨?_, ?_, ?_⟩
    · rw [foldArguments, ha.1, hr.1]
      rfl
    · rw [dropRedundantIn, ha.2.1, hr.2.1]
    · rw [joinTermsIn, ha.2.2, hr.2.2]

end

/-! ## Folding -/

section FoldWork

variable {h : Half}

theorem work_ungroup_le : (e : Expr) → e.ungroup.work h ≤ e.work h
  | group body _ => Nat.le_trans (work_ungroup_le body) le_above
  | absent | binary .. | unary .. | var .. | literal .. | call .. | assign .. => Nat.le_refl _

mutual

/-- Folding does one half of the work. -/
theorem fold_work : (e : Expr) → ∀ {e'}, e.foldConstants = .ok e' →
    e'.work .reduce ≤ e.work .fold - 1
  | absent, e', hf | var .., e', hf | literal .., e', hf => by
    rw [foldConstants] at hf
    obtain rfl := Except.ok.inj hf
    exact Nat.zero_le _
  | group body note, e', hf => by
    rw [foldConstants] at hf
    obtain ⟨body', hb, hf⟩ := bind_eq_ok hf
    obtain rfl := Except.ok.inj hf
    exact above_le (h := .fold) (fold_work body hb) rfl fun hw => by
      rw [(still_of_work .fold body hw).passes.1] at hb
      rw [Except.ok.inj hb]
  | assign name e note, e', hf => by
    rw [foldConstants] at hf
    obtain ⟨e₁, he, hf⟩ := bind_eq_ok hf
    obtain rfl := Except.ok.inj hf
    exact above_le (h := .fold) (fold_work e he) rfl fun hw => by
      rw [(still_of_work .fold e hw).passes.1] at he
      rw [Except.ok.inj he]
  | unary op e note, e', hf => by
    rw [foldConstants] at hf
    obtain ⟨e₁, he, hf⟩ := bind_eq_ok hf
    obtain rfl := Except.ok.inj hf
    obtain ⟨h₁, hdone⟩ | ⟨v, h₁⟩ := foldUnary_redex op e₁ note
    · rw [h₁]
      exact above_le (h := .fold) (fold_work e he) hdone fun hw => by
        rw [(still_of_work .fold e hw).passes.1] at he
        rw [Except.ok.inj he]
    · rw [h₁]
      exact Nat.zero_le _
  | binary op l r note, e', hf => by
    rw [foldConstants] at hf
    obtain ⟨l₁, hl, hf⟩ := bind_eq_ok hf
    obtain ⟨r₁, hr, hf⟩ := bind_eq_ok hf
    obtain ⟨rfl, hdone⟩ | ⟨n, rfl⟩ := foldBinary_redex hf
    · have hwl := fold_work l hl
      have hwr := fold_work r hr
      exact above_le (h := .fold) (by omega) hdone fun hw => by
        rw [(still_of_work .fold l (by omega)).passes.1] at hl
        rw [(still_of_work .fold r (by omega)).passes.1] at hr
        rw [Except.ok.inj hl, Except.ok.inj hr]
    · exact Nat.zero_le _
  | call name args note, e', hf => by
    rw [foldConstants] at hf
    obtain ⟨args₁, hargs, hf⟩ := bind_eq_ok hf
    obtain ⟨rfl, hdone⟩ | ⟨n, rfl⟩ := foldCall_redex hf
    · exact above_le (h := .fold) (fold_argumentWork args hargs) hdone fun hw => by
        rw [(still_of_argumentWork .fold args hw).1] at hargs
        rw [Except.ok.inj hargs]
    · exact Nat.zero_le _

theorem fold_argumentWork : (args : List Expr) → ∀ {args'}, foldArguments args = .ok args' →
    argumentWork .reduce args' ≤ argumentWork .fold args - 1
  | [], args', hf => by
    rw [foldArguments] at hf
    obtain rfl := Except.ok.inj hf
    exact Nat.zero_le _
  | a :: rest, args', hf => by
    rw [foldArguments] at hf
    obtain ⟨a₁, ha, hf⟩ := bind_eq_ok hf
    obtain ⟨rest₁, hr, hf⟩ := bind_eq_ok hf
    obtain rfl := Except.ok.inj hf
    have hwa := fold_work a ha
    have hwr := fold_argumentWork rest hr
    rw [argumentWork, argumentWork]
    omega

end

end FoldWork

/-! ## Dropping and joining -/

theorem work_of_negated? {h : Half} {e x : Expr} (hx : e.negated? = some x) :
    x.work h ≤ e.work h := by
  obtain ⟨note, hu, -⟩ := negated?_eq_some hx
  have hle := work_ungroup_le (h := h) e
  rw [hu, work] at hle
  exact Nat.le_trans le_above hle

/-- The product of a joined sum has no work. -/
theorem work_product (h : Half) (y : Value) (n : Option Note) :
    (binary (.text "*") (number (.int 2)) (var y n) none).work h = 0 := by
  have htwo : isInteger 1 (number (.int 2)) = false := by decide
  have hreduces : reduces (binary (.text "*") (number (.int 2)) (var y n) none) = false := by
    show ((false || isInteger 1 (number (.int 2))) || false) = false
    rw [htwo]
    rfl
  exact own_eq_zero_iff.mpr ⟨rfl, hreduces⟩

mutual

/-- Dropping and joining do one half of the work. -/
theorem reduce_work : (e : Expr) → e.dropRedundant.joinTerms.work .fold ≤ e.work .reduce - 1
  | absent | var .. | literal .. => Nat.zero_le _
  | group body note => by
    have hw := reduce_work body
    rw [dropRedundant]
    obtain ⟨hd, hatom⟩ | ⟨-, hd⟩ := dropGroup_redex body.dropRedundant note
    · rw [hd, joinTerms]
      rw [← joinTerms_isAtom] at hatom
      exact above_le (h := .reduce) hw hatom fun hw => by
        obtain ⟨-, hd, hj⟩ := (still_of_work .reduce body hw).passes
        rw [hd, hj]
    · rw [hd]
      exact Nat.le_trans hw (Nat.sub_le_sub_right le_above 1)
  | assign name e note => by
    rw [dropRedundant, joinTerms]
    exact above_le (h := .reduce) (reduce_work e) rfl fun hw => by
      obtain ⟨-, hd, hj⟩ := (still_of_work .reduce e hw).passes
      rw [hd, hj]
  | unary op e note => by
    have hw := reduce_work e
    rw [dropRedundant]
    obtain ⟨hd, hdrops⟩ | ⟨-, x, hx, hd⟩ := dropUnary_redex op e.dropRedundant note
    · rw [hd, joinTerms]
      rw [← dropsUnary_joinTerms] at hdrops
      exact above_le (h := .reduce) hw hdrops fun hw => by
        obtain ⟨-, hd, hj⟩ := (still_of_work .reduce e hw).passes
        rw [hd, hj]
    · have hx' : e.dropRedundant.joinTerms.negated? = some x.joinTerms := by
        rw [negated?_joinTerms, hx]
        rfl
      rw [hd]
      exact Nat.le_trans (work_of_negated? hx')
        (Nat.le_trans hw (Nat.sub_le_sub_right le_above 1))
  | binary op l r note => by
    have hwl := reduce_work l
    have hwr := reduce_work r
    have hle : max (l.work .reduce) (r.work .reduce) ≤ (binary op l r note).work .reduce :=
      le_above
    rw [dropRedundant]
    obtain ⟨hd, hdrops⟩ | ⟨-, hd | hd | hd⟩ :=
      dropBinary_redex op l.dropRedundant r.dropRedundant note
    · rw [hd, joinTerms]
      rw [← dropsBinary_joinTerms] at hdrops
      obtain ⟨hj, hjoins⟩ | ⟨-, y, n, hj⟩ := joinBinary_redex op l.dropRedundant.joinTerms
        r.dropRedundant.joinTerms note
      · rw [hj]
        refine above_le (h := .reduce) (by omega) (Bool.or_eq_false_iff.mpr ⟨hdrops, hjoins⟩)
          fun hw => ?_
        obtain ⟨-, hdl, hjl⟩ := (still_of_work .reduce l (by omega)).passes
        obtain ⟨-, hdr, hjr⟩ := (still_of_work .reduce r (by omega)).passes
        rw [hdl, hjl, hdr, hjr]
      · rw [hj, work_product]
        exact Nat.zero_le _
    · rw [hd]
      omega
    · rw [hd]
      omega
    · rw [hd]
      exact Nat.zero_le _
  | call name args note => by
    rw [dropRedundant, joinTerms]
    exact above_le (h := .reduce) (reduce_argumentWork args) rfl fun hw => by
      obtain ⟨-, hd, hj⟩ := still_of_argumentWork .reduce args hw
      rw [hd, hj]

theorem reduce_argumentWork : (args : List Expr) →
    argumentWork .fold (joinTermsIn (dropRedundantIn args)) ≤ argumentWork .reduce args - 1
  | [] => Nat.zero_le _
  | a :: rest => by
    have ha := reduce_work a
    have hr := reduce_argumentWork rest
    rw [dropRedundantIn, joinTermsIn, argumentWork, argumentWork]
    omega

end

/-! ## Heights -/

mutual

/-- The number of edges from the root down to the lowest leaf. -/
def height : Expr → Nat
  | absent | var .. | literal .. => 0
  | binary _ l r _ => max l.height r.height + 1
  | unary _ e _ | assign _ e _ | group e _ => e.height + 1
  | call _ args _ => argumentHeight args + 1

/-- The greatest height of an argument. -/
def argumentHeight : List Expr → Nat
  | [] => 0
  | a :: rest => max a.height (argumentHeight rest)

end

theorem above_own_le {h : Half} {below k : Nat} {e : Expr} (hk : below ≤ k + 1) :
    above below (own h e) ≤ k + 1 + 1 := by
  unfold above own
  split
  · split
    · omega
    · split <;> omega
  · omega

mutual

/-- Each level of a tree takes at most one half. -/
theorem work_le_height (h : Half) : (e : Expr) → e.work h ≤ e.height + 1
  | absent | var .. | literal .. => Nat.zero_le _
  | group e _ | assign _ e _ | unary _ e _ => above_own_le (work_le_height h e)
  | binary _ l r _ => by
    have hl := work_le_height h l
    have hr := work_le_height h r
    exact above_own_le (by omega)
  | call _ args _ => above_own_le (argumentWork_le_height h args)

theorem argumentWork_le_height (h : Half) : (args : List Expr) →
    argumentWork h args ≤ argumentHeight args + 1
  | [] => Nat.zero_le _
  | a :: rest => by
    have ha := work_le_height h a
    have hr := argumentWork_le_height h rest
    rw [argumentWork, argumentHeight]
    omega

end

theorem height_withNote (note : Option Note) (e : Expr) :
    (e.withNote note).height = e.height := by
  cases e <;> rfl

/-! ## Rounds -/

/-- A round does two halves of the work. -/
theorem round_work {e e' : Expr} (h : e.round = .ok e') : e'.work .fold ≤ e.work .fold - 2 := by
  obtain ⟨e₁, hf, rfl⟩ := exists_of_round h
  have h₁ := fold_work e hf
  have h₂ := reduce_work e₁
  omega

/-- Enough rounds leave a tree that no pass changes. -/
theorem rounds_still (n : Nat) : ∀ {e r : Expr}, rounds n e = .ok r → e.work .fold ≤ 2 * n →
    r.Still := by
  induction n with
  | zero =>
    intro e r h hw
    obtain rfl := Except.ok.inj h
    exact still_of_work .fold e (by omega)
  | succ n ih =>
    intro e r h hw
    obtain ⟨e', hround, ⟨hsame, rfl⟩ | ⟨-, h⟩⟩ := rounds_succ_cases h
    · exact still_of_round hround (not_lighter_of_same hsame)
    · have hw' := round_work hround
      exact ih h (by omega)

theorem rounds_shrinks (n : Nat) {e r : Expr} (h : rounds n e = .ok r) : Shrinks r e :=
  rounds_induct (R := fun e r => Shrinks r e) (fun _ => .inl rfl)
    (fun hround ih => (round_shrinks hround).trans ih) n h

theorem Still.rounds {e : Expr} (h : e.Still) (n : Nat) : rounds n e = .ok e := by
  induction n with
  | zero => rfl
  | succ n ih =>
    rw [Expr.rounds, h.round, ok_bind]
    split
    · rfl
    · exact ih

theorem withNote_withNote (note note' : Option Note) (e : Expr) :
    (e.withNote note).withNote note' = e.withNote note' := by
  cases e <;> rfl

theorem withNote_note? (e : Expr) : e.withNote e.note? = e := by
  cases e <;> rfl

theorem renote_withNote (note note' : Option Note) (e : Expr) :
    (e.withNote note').renote note = e.renote note := by
  unfold renote tier
  rw [withNote_withNote, score_withNote]

/-- The tier is computed from the tree, so it stays. -/
theorem renote_renote (note : Option Note) (e : Expr) :
    e.renote (e.renote note).note? = e.renote note := by
  cases e <;> cases note <;> rfl

/-- Rounds make a tree lighter that a pass can change. -/
theorem rounds_lighter (n : Nat) {e r : Expr} (he : ¬ e.Still) (h : rounds (n + 1) e = .ok r) :
    r.Lighter e := by
  obtain ⟨e', hround, hrest⟩ := rounds_succ_cases h
  have hlighter : e'.Lighter e := by
    by_contra hno
    exact he (still_of_round hround hno)
  obtain ⟨hsame, -⟩ | ⟨-, h⟩ := hrest
  · exact absurd hlighter (not_lighter_of_same hsame)
  · exact hlighter.of_shrinks (rounds_shrinks n h)

/-- The rounds end with a tree that no pass changes. Otherwise a pass fails, in
    these rounds or in those of a second call, which then returns its tree. -/
def Settles (maxRounds : Int) (e : Expr) : Prop :=
  ∀ r, rounds (max 1 maxRounds).toNat (e.withNote none) = .ok r →
    r.Still ∨ ∃ f, rounds (max 1 maxRounds).toNat (r.withNote none) = .error f

section Optimize

variable {e r : Expr} {maxRounds : Int}

theorem optimize_of_rounds (h : rounds (max 1 maxRounds).toNat (e.withNote none) = .ok r) :
    e.optimize maxRounds = r.renote e.note? := by
  rw [optimize, optimize?, h]
  rfl

theorem optimize_of_error {f : Fault}
    (h : rounds (max 1 maxRounds).toNat (e.withNote none) = .error f) :
    e.optimize maxRounds = e := by
  rw [optimize, optimize?, h]
  rfl

/-- What the rounds settle stays under a second call. -/
theorem optimize_optimize (h : e.Settles maxRounds) :
    (e.optimize maxRounds).optimize maxRounds = e.optimize maxRounds := by
  cases hr : rounds (max 1 maxRounds).toNat (e.withNote none) with
  | error f => rw [optimize_of_error hr, optimize_of_error hr]
  | ok r =>
    rw [optimize_of_rounds hr]
    obtain hstill | ⟨f, hf⟩ := h r hr
    · have hagain : rounds (max 1 maxRounds).toNat ((r.renote e.note?).withNote none) =
          .ok (r.withNote none) := by
        rw [renote, withNote_withNote]
        exact (hstill.withNote none).rounds _
      rw [optimize_of_rounds hagain, renote_withNote, renote_renote]
    · refine optimize_of_error (f := f) ?_
      rw [renote, withNote_withNote]
      exact hf

/-- What the rounds do not settle becomes lighter under a second call. -/
theorem not_same_of_not_settles (h : ¬ e.Settles maxRounds) :
    ((e.optimize maxRounds).optimize maxRounds).same (e.optimize maxRounds) = false := by
  obtain ⟨r, hno⟩ := not_forall.mp h
  obtain ⟨hr, hno⟩ := Classical.not_imp.mp hno
  obtain ⟨hstill, hok⟩ := not_or.mp hno
  cases hr' : rounds (max 1 maxRounds).toNat (r.withNote none) with
  | error f => exact absurd ⟨f, hr'⟩ hok
  | ok r' =>
    have hagain : rounds (max 1 maxRounds).toNat ((r.renote e.note?).withNote none) =
        .ok r' := by
      rw [renote, withNote_withNote]
      exact hr'
    obtain ⟨n, hn⟩ : ∃ n, (max 1 maxRounds).toNat = n + 1 :=
      Nat.exists_eq_add_one.mpr (by omega)
    rw [hn] at hr'
    have hnot : ¬ (r.withNote none).Still := fun hs => by
      have hs' := hs.withNote r.note?
      rw [withNote_withNote, withNote_note?] at hs'
      exact hstill hs'
    have hlighter := rounds_lighter n hnot hr'
    rw [optimize_of_rounds hr, optimize_of_rounds hagain, Bool.eq_false_iff]
    intro hsame
    refine not_lighter_of_same hsame ?_
    unfold Lighter at hlighter ⊢
    simp only [renote, score_withNote, nodeCount_withNote, variableCount_withNote] at hlighter ⊢
    exact hlighter

end Optimize

/-- Optimizing twice is optimizing once for the trees that the rounds settle, and
    for no other. The rounds settle every tree whose height is below twice their
    number. -/
theorem optimize_idempotent (maxRounds : Int) (e : Expr) :
    (e.Settles maxRounds → (e.optimize maxRounds).optimize maxRounds = e.optimize maxRounds) ∧
      (¬ e.Settles maxRounds →
        ((e.optimize maxRounds).optimize maxRounds).same (e.optimize maxRounds) = false) ∧
      (e.height < 2 * max 1 maxRounds → e.Settles maxRounds) := by
  refine ⟨optimize_optimize, not_same_of_not_settles, fun h r hr => .inl ?_⟩
  have hw := work_le_height .fold (e.withNote none)
  rw [height_withNote] at hw
  exact rounds_still _ hr (by omega)

/-- Ones that are added up, each sum in parentheses. -/
def nestedSum : Nat → Expr
  | 0 => number (.int 1)
  | n + 1 => binary (.text "+") (group (nestedSum n) none) (number (.int 1)) none

/-- Nine sums settle in ten rounds. -/
theorem optimize_idempotent_nestedSum :
    (nestedSum 9).height = 18 ∧ (nestedSum 9).Settles 10 ∧
      ((nestedSum 9).optimize 10).optimize 10 = (nestedSum 9).optimize 10 := by
  obtain ⟨hstays, -, hlow⟩ := optimize_idempotent 10 (nestedSum 9)
  have hsettles := hlow (by decide)
  exact ⟨rfl, hsettles, hstays hsettles⟩

/-- One sum more takes eleven rounds: the first call leaves `10 + 1`, the second
    one `11`. -/
theorem not_optimize_idempotent :
    (parse "((((((((((1)+1)+1)+1)+1)+1)+1)+1)+1)+1)+1").withNote none = nestedSum 10 ∧
      (nestedSum 10).optimize 10 = binary (.text "+") (number (.int 10)) (number (.int 1)) none ∧
      ((nestedSum 10).optimize 10).optimize 10 = number (.int 11) ∧
      (((nestedSum 10).optimize 10).optimize 10).same ((nestedSum 10).optimize 10) = false := by
  have h₁ : (nestedSum 10).optimize 10 =
      binary (.text "+") (number (.int 10)) (number (.int 1)) none := rfl
  have h₂ : (binary (.text "+") (number (.int 10)) (number (.int 1)) none).optimize 10 =
      number (.int 11) := rfl
  rw [h₁, h₂]
  exact ⟨rfl, rfl, rfl, rfl⟩

end TokenFormula.Expr
