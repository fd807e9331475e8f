import TokenFormula.Proofs.Expr.Optimize

/-!
# Integer arithmetic

Sums, differences, products and signs of integers are integers, whatever is
assigned on the way. So where all that can be read is an integer, an operation that
is dropped or joined meets an integer or an error. A rewriting then keeps the error
too, and with it what was assigned before.

Results:
* `Integral`: the trees.
* `Integral.evaluate`: they give integers, and leave integers to be read.
* `Agrees`: a tree that gives what another one gives; `Integral.foldConstants`,
  `Integral.dropRedundant`, `Integral.joinTerms`: what the passes make does.
* `evaluate_optimize_of_integral`: so does the optimized tree.
-/

namespace TokenFormula

open Outcome

/-- The value is an integer. -/
def Value.IsInteger (v : Value) : Prop :=
  ∃ k : Int, v = .num (.int k)

namespace Scope

variable {s : Scope}

/-- All that can be read are integers. -/
def Integers (s : Scope) : Prop :=
  ∀ key v, s.get? key = some v → v.IsInteger

theorem integers_of_values (h : ∀ p ∈ s.values, p.2.IsInteger) : s.Integers :=
  fun _ _ hv => h _ (Entries.mem_of_get? hv)

theorem Integers.set (h : s.Integers) (key : String) {v : Value} (hv : v.IsInteger) :
    (s.set key v).Integers := by
  intro other w hw
  obtain hold | hnew := get?_set_or s key other v
  · exact h other w (hold ▸ hw)
  · rw [hnew] at hw
    exact Option.some.inj hw ▸ hv

end Scope

namespace Expr

/-! ## Operators -/

/-- The sign of an operation on integers. -/
inductive IntegerOperator : Value → BinaryOp → (Int → Int → Int) → Prop
  | add : IntegerOperator (.text "+") .add (· + ·)
  | sub : IntegerOperator (.text "-") .sub (· - ·)
  | mul : IntegerOperator (.text "*") .mul (· * ·)

/-- The sign in front of an integer. -/
inductive IntegerSign : Value → (Int → Int) → Prop
  | pos : IntegerSign (.text "+") id
  | neg : IntegerSign (.text "-") (- ·)

section Operators

variable {op : Value} {o : BinaryOp} {f : Int → Int → Int} {g : Int → Int}

theorem IntegerOperator.operatorOf_eq (h : IntegerOperator op o f) : operatorOf op = .ok o := by
  cases h <;> rfl

theorem IntegerOperator.isTruthy (h : IntegerOperator op o f) : op.isTruthy = true := by
  cases h <;> rfl

theorem IntegerOperator.decides_eq (h : IntegerOperator op o f) (a : Value) :
    o.decides a = false := by
  cases h <;> rfl

theorem IntegerOperator.combine_eq (h : IntegerOperator op o f) (m n : Int) :
    o.combine (.num (.int m)) (.num (.int n)) = .ok (.num (.int (f m n))) := by
  cases h <;> rfl

theorem IntegerOperator.foldOperator_eq (h : IntegerOperator op o f) (m n : Int) :
    foldOperator op (.int m) (.int n) = .ok (.num (.int (f m n))) := by
  cases h <;> rfl

theorem IntegerSign.isTruthy (h : IntegerSign op g) : op.isTruthy = true := by
  cases h <;> rfl

theorem IntegerSign.unaryValue_eq (h : IntegerSign op g) (k : Int) :
    unaryValue op (.num (.int k)) = .ok (.num (.int (g k))) := by
  cases h <;> rfl

end Operators

/-! ## Trees -/

/-- Integers and variables; their sums, differences, products and signs; parentheses
    and assignments. -/
inductive Integral : Expr → Prop
  | literal (k : Int) (note : Option Note) : Integral (literal (some (.num (.int k))) false note)
  | var (key : String) (note : Option Note) : Integral (var (.text key) note)
  | binary {op : Value} {o : BinaryOp} {f : Int → Int → Int} {l r : Expr} {note : Option Note}
      (ho : IntegerOperator op o f) (hl : Integral l) (hr : Integral r) :
      Integral (binary op l r note)
  | unary {op : Value} {g : Int → Int} {e : Expr} {note : Option Note} (ho : IntegerSign op g)
      (he : Integral e) : Integral (unary op e note)
  | group {e : Expr} {note : Option Note} (he : Integral e) : Integral (group e note)
  | assign {name : Value} {e : Expr} {note : Option Note} (he : Integral e) :
      Integral (assign name e note)

section Trees

variable {e l r : Expr} {op : Value} {o : BinaryOp} {f : Int → Int → Int} {g : Int → Int}
  {note : Option Note} {s : Scope}

theorem Integral.isAbsent (h : e.Integral) : e.isAbsent = false := by
  cases h <;> rfl

theorem Integral.every_literalNative (h : e.Integral) : e.Every LiteralNative := by
  induction h with
  | literal => exact rfl
  | var => trivial
  | binary _ _ _ hl hr => exact ⟨trivial, hl, hr⟩
  | unary _ _ he | group _ he | assign _ he => exact ⟨trivial, he⟩

theorem Integral.ungroup (h : e.Integral) : e.ungroup.Integral := by
  induction h with
  | group _ he => exact he
  | literal k note => exact .literal k note
  | var key note => exact .var key note
  | binary ho hl hr => exact .binary ho hl hr
  | unary ho he => exact .unary ho he
  | assign he => exact .assign he

theorem Integral.withNote (h : e.Integral) (note : Option Note) : (e.withNote note).Integral := by
  cases h with
  | literal k => exact .literal k note
  | var key => exact .var key note
  | binary ho hl hr => exact .binary ho hl hr
  | unary ho he => exact .unary ho he
  | group he => exact .group he
  | assign he => exact .assign he

/-- A number that stands in such a tree is an integer. -/
theorem Integral.eq_of_number? (h : e.Integral) {n : Number} (hn : e.number? = some n) :
    ∃ k, n = .int k := by
  obtain ⟨note, rfl⟩ := number?_eq_some hn
  cases h
  exact ⟨_, rfl⟩

theorem evaluate_integer_binary (ho : IntegerOperator op o f) (hl : l.isAbsent = false)
    (hr : r.isAbsent = false) : (binary op l r note).evaluate s =
      andThen (l.evaluate s) fun a s => andThen (r.evaluate s) fun b s => (o.combine a b, s) := by
  rw [evaluate_binary note s (by rw [hl, hr, ho.isTruthy]; rfl) ho.operatorOf_eq]
  simp only [ho.decides_eq, Bool.false_eq_true, if_false]

theorem evaluate_integer_unary (ho : IntegerSign op g) (he : e.isAbsent = false) :
    (unary op e note).evaluate s = andThen (e.evaluate s) fun a s => (unaryValue op a, s) :=
  evaluate_unary note s (by rw [he, ho.isTruthy]; rfl)

/-- Such a tree gives an integer or fails, and leaves integers to be read. -/
theorem Integral.evaluate (h : e.Integral) (hs : s.Integers) :
    Meets Value.IsInteger Scope.Integers (e.evaluate s) := by
  induction h generalizing s with
  | literal k note =>
    rw [evaluate_number_literal]
    exact .ok ⟨k, rfl⟩ hs
  | var key note =>
    rw [evaluate_var]
    refine .of_result (fun v hv => ?_) hs
    unfold variableValue at hv
    split at hv
    · cases hv
    · dsimp only at hv
      split at hv
      · rename_i w hw
        exact Except.ok.inj hv ▸ hs key w hw
      · cases hv
  | binary ho hl hr ihl ihr =>
    rw [evaluate_integer_binary ho hl.isAbsent hr.isAbsent]
    refine (ihl hs).andThen fun a s₁ _ ⟨m, ha⟩ hs₁ => ?_
    refine (ihr hs₁).andThen fun b s₂ _ ⟨n, hb⟩ hs₂ => ?_
    rw [ha, hb, ho.combine_eq]
    exact .ok ⟨_, rfl⟩ hs₂
  | unary ho he ih =>
    rw [evaluate_integer_unary ho he.isAbsent]
    refine (ih hs).andThen fun a s₁ _ ⟨k, ha⟩ hs₁ => ?_
    rw [ha, ho.unaryValue_eq]
    exact .ok ⟨_, rfl⟩ hs₁
  | group he ih =>
    rw [evaluate_group]
    exact ih hs
  | @assign name e note he ih =>
    cases hn : name.isTruthy with
    | false =>
      rw [evaluate_assign_unnamed e note s hn]
      exact .error hs
    | true =>
      rw [evaluate_assign e note s hn]
      refine (ih hs).andThen fun a s₁ _ ha hs₁ => ?_
      split
      · rename_i s₂ hb
        refine .ok ha ?_
        unfold bind at hb
        split at hb
        · obtain rfl := Except.ok.inj hb
          exact hs₁.set _ ha
        · split at hb
          · obtain rfl := Except.ok.inj hb
            exact hs₁
          · cases hb
      · exact .error hs₁

theorem Integral.givesNormal (h : e.Integral) (hs : s.Integers) : e.GivesNormal s := by
  intro v s' hv
  obtain ⟨k, rfl⟩ := (h.evaluate hs).2 v (congrArg Prod.fst hv)
  rfl

end Trees

/-! ## Trees that agree -/

/-- A tree of integer arithmetic that gives what another one gives, and leaves the same
    scope, where all that can be read are integers. -/
structure Agrees (e e' : Expr) : Prop where
  integral : e'.Integral
  evaluate_eq : ∀ s, s.Integers → e'.evaluate s = e.evaluate s

section Agreement

variable {e e' l l' r r' : Expr} {op : Value} {o : BinaryOp} {f : Int → Int → Int}
  {g : Int → Int} {note : Option Note}

theorem Integral.agrees (h : e.Integral) : Agrees e e :=
  ⟨h, fun _ _ => rfl⟩

theorem Agrees.trans {e'' : Expr} (h : Agrees e e') (h' : Agrees e' e'') : Agrees e e'' :=
  ⟨h'.integral, fun s hs => (h'.evaluate_eq s hs).trans (h.evaluate_eq s hs)⟩

theorem Agrees.withNote (h : Agrees e e') (note : Option Note) : Agrees e (e'.withNote note) :=
  ⟨h.integral.withNote note, fun s hs => (evaluate_withNote e' note s).trans (h.evaluate_eq s hs)⟩

theorem Agrees.group (h : Agrees e e') : Agrees (group e note) (group e' note) :=
  ⟨.group h.integral, fun s hs => by rw [evaluate_group, evaluate_group, h.evaluate_eq s hs]⟩

theorem Agrees.assign {name : Value} (h : Agrees e e') :
    Agrees (assign name e note) (assign name e' note) :=
  ⟨.assign h.integral, fun s hs => (follows_assign (.of_eq (h.evaluate_eq s hs))).eq⟩

theorem Agrees.unary (ho : IntegerSign op g) (h : Agrees e e') (he : e.Integral) :
    Agrees (unary op e note) (unary op e' note) := by
  have ha : e'.isAbsent = e.isAbsent := h.integral.isAbsent.trans he.isAbsent.symm
  exact ⟨.unary ho h.integral, fun s hs => (follows_unary ha (.of_eq (h.evaluate_eq s hs))).eq⟩

/-- The second operands agree in the scope that the first operand leaves, as it leaves
    integers. -/
theorem Agrees.binary (ho : IntegerOperator op o f) (hl : Agrees l l') (hr : Agrees r r')
    (hli : l.Integral) (hri : r.Integral) : Agrees (binary op l r note) (binary op l' r' note) := by
  have hla : l'.isAbsent = l.isAbsent := hl.integral.isAbsent.trans hli.isAbsent.symm
  have hra : r'.isAbsent = r.isAbsent := hr.integral.isAbsent.trans hri.isAbsent.symm
  refine ⟨.binary ho hl.integral hr.integral, fun s hs => ?_⟩
  refine (follows_binary hla hra (.of_eq (hl.evaluate_eq s hs)) fun _ a s₁ _ ha _ => ?_).eq
  have hs₁ := (hli.evaluate hs).1
  rw [ha] at hs₁
  exact .of_eq (hr.evaluate_eq s₁ hs₁)

/-! ## Rules -/

/-- What two integers are folded to is an integer. -/
theorem agrees_foldBinary (ho : IntegerOperator op o f) (hl : l.Integral) (hr : r.Integral)
    (h : foldBinary op l r note = .ok e) : Agrees (binary op l r note) e := by
  refine ⟨?_, fun s _ => foldBinary_evaluate h s⟩
  unfold foldBinary at h
  split at h
  · rename_i m n hm hn
    split at h
    · exact Except.ok.inj h ▸ .binary ho hl hr
    · obtain ⟨a, rfl⟩ := hl.eq_of_number? hm
      obtain ⟨b, rfl⟩ := hr.eq_of_number? hn
      rw [ho.foldOperator_eq] at h
      obtain rfl | ⟨n, hn, -, rfl⟩ := foldedTo_eq_ok h
      · exact .binary ho hl hr
      · cases hn
        exact .literal _ none
  · exact Except.ok.inj h ▸ .binary ho hl hr

theorem agrees_foldUnary (ho : IntegerSign op g) (he : e.Integral) :
    Agrees (unary op e note) (foldUnary op e note) := by
  refine ⟨?_, fun s _ => foldUnary_evaluate op e note s⟩
  cases ho with
  | pos => exact .unary .pos he
  | neg =>
    unfold foldUnary
    cases hn : e.number? with
    | none => exact .unary .neg he
    | some n =>
      obtain ⟨k, rfl⟩ := he.eq_of_number? hn
      exact .literal (-k) none

theorem agrees_dropGroup (he : e.Integral) : Agrees (group e note) (dropGroup e note) := by
  refine ⟨?_, fun s _ => evaluate_dropGroup e note s⟩
  obtain h | ⟨h, -⟩ := dropGroup_cases e note <;> rw [h]
  · exact .group he
  · exact he

theorem agrees_dropUnary (ho : IntegerSign op g) (he : e.Integral) :
    Agrees (unary op e note) (dropUnary op e note) := by
  have hinner : ∀ x, e.negated? = some x → x.Integral := by
    intro x hx
    obtain ⟨note', hu, -⟩ := negated?_eq_some hx
    have hungroup := he.ungroup
    rw [hu] at hungroup
    cases hungroup
    assumption
  constructor
  · unfold dropUnary
    split
    · exact hinner _ ‹_›
    · exact .unary ho he
  · intro s hs
    have hsafe : DropsSafely (unary op e note) s := by
      cases ho with
      | pos => trivial
      | neg => exact fun x hx => (hinner x hx).givesNormal hs
    exact (follows_dropUnary hsafe).eq

theorem agrees_dropBinary (ho : IntegerOperator op o f) (hl : l.Integral) (hr : r.Integral) :
    Agrees (binary op l r note) (dropBinary op l r note) := by
  constructor
  · obtain h | ⟨-, -, h | h | h⟩ := dropBinary_cases op l r note <;> rw [h]
    · exact .binary ho hl hr
    · exact hl
    · exact hr
    · exact .literal 1 none
  · intro s hs
    have hln := hl.every_literalNative
    have hrn := hr.every_literalNative
    unfold dropBinary
    rw [hl.isAbsent, hr.isAbsent]
    cases ho with
    | add =>
      exact (follows_dropZero hln hrn hl.isAbsent hr.isAbsent
        ⟨fun _ _ => hl.givesNormal hs, fun _ _ => hr.givesNormal hs⟩).eq
    | sub => rfl
    | mul =>
      exact (follows_dropOne hln hrn hl.isAbsent hr.isAbsent
        ⟨fun _ => hl.givesNormal hs, fun _ => hr.givesNormal hs⟩).eq

/-- A sum of a variable with itself is twice its value, or fails as the variable does. -/
theorem agrees_joinBinary (ho : IntegerOperator op o f) (hl : l.Integral) (hr : r.Integral) :
    Agrees (binary op l r note) (joinBinary op l r note) := by
  obtain h | ⟨x, y, nx, ny, rfl, rfl, rfl, hxy, h⟩ := joinBinary_cases op l r note <;> rw [h]
  · exact (Integral.binary ho hl hr).agrees
  · refine ⟨.binary .mul (.literal 2 none) hr, fun s hs => ?_⟩
    have hx := hl.evaluate hs
    cases hl with | var key => cases hr with | var key' =>
    rw [Value.identical, beq_iff_eq] at hxy
    subst hxy
    rw [evaluate_var] at hx
    rw [evaluate_integer_binary .mul rfl rfl, evaluate_integer_binary .add rfl rfl, evaluate_number]
    simp only [evaluate_var, andThen_ok]
    cases hv : variableValue s (.text key) with
    | error err => rfl
    | ok v =>
      obtain ⟨k, rfl⟩ := hx.2 v hv
      simp only [hv, andThen_ok, IntegerOperator.combine_eq .mul, IntegerOperator.combine_eq .add,
        Int.two_mul]

/-! ## Passes -/

/-- What folding makes of integer arithmetic agrees with it. -/
theorem Integral.foldConstants (h : e.Integral) : ∀ e', e.foldConstants = .ok e' → Agrees e e' := by
  induction h with
  | literal k note =>
    intro e' h
    rw [Expr.foldConstants] at h
    exact Except.ok.inj h ▸ (Integral.literal k note).agrees
  | var key note =>
    intro e' h
    rw [Expr.foldConstants] at h
    exact Except.ok.inj h ▸ (Integral.var key note).agrees
  | binary ho hl hr ihl ihr =>
    intro e' h
    rw [Expr.foldConstants] at h
    obtain ⟨l₁, h₁, h⟩ := bind_eq_ok h
    obtain ⟨r₁, h₂, h⟩ := bind_eq_ok h
    have hl₁ := ihl l₁ h₁
    have hr₁ := ihr r₁ h₂
    exact (hl₁.binary ho hr₁ hl hr).trans (agrees_foldBinary ho hl₁.integral hr₁.integral h)
  | unary ho he ih =>
    intro e' h
    rw [Expr.foldConstants] at h
    obtain ⟨e₁, h₁, h⟩ := bind_eq_ok h
    obtain rfl := Except.ok.inj h
    have he₁ := ih e₁ h₁
    exact (he₁.unary ho he).trans (agrees_foldUnary ho he₁.integral)
  | group he ih =>
    intro e' h
    rw [Expr.foldConstants] at h
    obtain ⟨e₁, h₁, h⟩ := bind_eq_ok h
    obtain rfl := Except.ok.inj h
    exact (ih e₁ h₁).group
  | assign he ih =>
    intro e' h
    rw [Expr.foldConstants] at h
    obtain ⟨e₁, h₁, h⟩ := bind_eq_ok h
    obtain rfl := Except.ok.inj h
    exact (ih e₁ h₁).assign

/-- So does what dropping makes of it. -/
theorem Integral.dropRedundant (h : e.Integral) : Agrees e e.dropRedundant := by
  induction h with
  | literal k note => exact (Integral.literal k note).agrees
  | var key note => exact (Integral.var key note).agrees
  | binary ho hl hr ihl ihr =>
    exact (ihl.binary ho ihr hl hr).trans (agrees_dropBinary ho ihl.integral ihr.integral)
  | unary ho he ih => exact (ih.unary ho he).trans (agrees_dropUnary ho ih.integral)
  | group he ih => exact ih.group.trans (agrees_dropGroup ih.integral)
  | assign he ih => exact ih.assign

/-- So does what joining makes of it. -/
theorem Integral.joinTerms (h : e.Integral) : Agrees e e.joinTerms := by
  induction h with
  | literal k note => exact (Integral.literal k note).agrees
  | var key note => exact (Integral.var key note).agrees
  | binary ho hl hr ihl ihr =>
    exact (ihl.binary ho ihr hl hr).trans (agrees_joinBinary ho ihl.integral ihr.integral)
  | unary ho he ih => exact ih.unary ho he
  | group he ih => exact ih.group
  | assign he ih => exact ih.assign

/-- So does what a round makes of it. -/
theorem Integral.round (he : e.Integral) (h : e.round = .ok e') : Agrees e e' := by
  obtain ⟨e₁, h₁, rfl⟩ := exists_of_round h
  have hfold := he.foldConstants e₁ h₁
  have hdrop := hfold.integral.dropRedundant
  have hjoin := hdrop.integral.joinTerms
  exact (hfold.trans hdrop).trans hjoin

theorem Integral.rounds (n : Nat) {r : Expr} (he : e.Integral) (h : rounds n e = .ok r) :
    Agrees e r := by
  refine rounds_induct (R := fun e r => e.Integral → Agrees e r) (fun _ he => he.agrees) ?_ n h he
  intro e e' r hround ih he
  have hagrees := he.round hround
  exact hagrees.trans (ih hagrees.integral)

end Agreement

/-- Where all that can be read are integers, the optimized tree of integer arithmetic
    gives the integer or the error of the tree, and leaves the same scope. -/
theorem evaluate_optimize_of_integral {e : Expr} (he : e.Integral) {s : Scope} (hs : s.Integers)
    (maxRounds : Int) : (e.optimize maxRounds).evaluate s = e.evaluate s := by
  unfold optimize
  split
  · rename_i r hr
    obtain ⟨e', hrounds, hr⟩ := bind_eq_ok hr
    rw [← Except.ok.inj hr, renote, evaluate_withNote]
    exact ((Integral.rounds _ (he.withNote none) hrounds).evaluate_eq s hs).trans
      (evaluate_withNote e none s)
  · rfl

/-- The tree of `(a = width + width) - -(-width) + missing * 1`. -/
def tangled : Expr :=
  let width := var (.text "width") none
  let negated := unary (.text "-") (group (unary (.text "-") width none) none) none
  binary (.text "+")
    (binary (.text "-")
      (group (assign (.text "a") (binary (.text "+") width width none) none) none) negated none)
    (binary (.text "*") (var (.text "missing") none) (number (.int 1)) none) none

/-- The tree of `(a = 2 * width) - width + missing`. -/
def untangled : Expr :=
  let width := var (.text "width") none
  binary (.text "+")
    (binary (.text "-")
      (group (assign (.text "a") (binary (.text "*") (number (.int 2)) width none) none) none)
      width none)
    (var (.text "missing") none) none

/-- A scope with a width of three, which is also read and written as `a`. -/
def widthScope : Scope :=
  (Scope.ofPairs [("width", .num (.int 3))]).addAlias "a" "width"

/-- The optimized tree still doubles the width, and fails with the same error. -/
theorem evaluate_optimize_of_integral_tangled :
    tangled.Integral ∧ widthScope.Integers ∧ tangled.optimize 8 = untangled ∧
      (tangled.optimize 8).evaluate widthScope = tangled.evaluate widthScope ∧
      tangled.evaluate widthScope =
        (.error (.undefined "missing"), widthScope.set "width" (.num (.int 6))) := by
  have hwidth := Integral.var "width" none
  have htangled : tangled.Integral :=
    .binary .add
      (.binary .sub (.group (.assign (.binary .add hwidth hwidth)))
        (.unary .neg (.group (.unary .neg hwidth))))
      (.binary .mul (.var "missing" none) (.literal 1 none))
  have hintegers : widthScope.Integers := Scope.integers_of_values fun p hp =>
    List.mem_singleton.mp hp ▸ ⟨3, rfl⟩
  exact ⟨htangled, hintegers, rfl, evaluate_optimize_of_integral htangled hintegers 8, rfl⟩

end Expr
end TokenFormula
