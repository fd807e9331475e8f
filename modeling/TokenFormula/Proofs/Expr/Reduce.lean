import TokenFormula.Proofs.Expr.Native
import TokenFormula.Proofs.Expr.Pass
import TokenFormula.Proofs.Number.Normal

/-!
# Redundant operations and evaluation

A rule drops an operation because one operand is neutral, as if the other were
a number. The evaluator also takes truth values, texts and doubles that are not
in normal form as operands; on these the operation does something. A pass keeps
the result of a tree where, at every operation that it drops, the operand that
stays gives a number in normal form.

Results:
* `combine_add_zero`, `combine_mul_one`, …: which operands an operation with a
  neutral one gives back.
* `Along`: a condition on every node that an evaluation reaches.
* `dropRedundant_follows`, `joinTerms_follows`: the passes where their condition
  holds along the evaluation.
-/

namespace TokenFormula

open Outcome

/-! ## Operands that are given back -/

/-- The value is a number in normal form. -/
def Value.IsNormal : Value → Prop
  | .num n => n.isNormal = true
  | _ => False

theorem isNormal_of_numeric {symbol : String} {f : Number → Number → Except Fault Number}
    {a b c : Value} (h : (numeric symbol f a b).map Value.normalize = .ok c) : c.IsNormal := by
  obtain ⟨d, hd, rfl⟩ := map_eq_ok h
  obtain ⟨m, -, hd⟩ := bind_eq_ok hd
  obtain ⟨n, -, hd⟩ := bind_eq_ok hd
  split at hd
  · rw [← Except.ok.inj hd]
    exact Number.isNormal_normalize _
  · cases hd

/-- An operation that gives a number in normal form back. -/
theorem map_numeric_eq {symbol : String} {f : Number → Number → Except Fault Number}
    {m n r : Number} (h : f m n = .ok r) (hr : r.isNormal = true) :
    (numeric symbol f (.num m) (.num n)).map Value.normalize = .ok (.num r) := by
  rw [Expr.numeric_num h]
  exact congrArg (fun k => Except.ok (Value.num k)) ((Number.normalize_eq_self_iff r).mpr hr)

theorem append_ne_self {s t : String} (h : t ≠ "") : s ++ t ≠ s ∧ t ++ s ≠ s := by
  have hl : t.length ≠ 0 := fun h0 => h (String.length_eq_zero_iff.mp h0)
  constructor
  · intro he
    have := congrArg String.length he
    rw [String.length_append] at this
    omega
  · intro he
    have := congrArg String.length he
    rw [String.length_append] at this
    omega

theorem operandText_zero : operandText (.num (.int 0)) = .ok "0" := by
  have h : (0 : Int).natAbs < Number.textLimit := by
    rw [Int.natAbs_zero, Number.textLimit]
    generalize 4300 = digits
    exact Nat.pow_pos (Nat.zero_lt_succ 9)
  show (if (0 : Int).natAbs < Number.textLimit then Except.ok (toString (0 : Int))
    else .error (.tooManyDigits none)).mapError (EvalError.arithmetic "+") = _
  rw [if_pos h]
  rfl

theorem operandText_text (s : String) : operandText (.text s) = .ok s := by
  unfold operandText
  rw [Value.format]
  rfl

theorem plus_eq_text {a b : Value} {s t : String} (h : (a.isText || b.isText) = true)
    (hs : operandText a = .ok s) (ht : operandText b = .ok t) :
    plus a b = .ok (.text (s ++ t)) := by
  unfold plus
  rw [if_pos h, hs, ht]
  rfl

namespace BinaryOp

theorem combine_add_of_not_text {a b : Value} (ha : a.isText = false) (hb : b.isText = false) :
    add.combine a b = (numeric "+" Number.add a b).map Value.normalize := by
  show (plus a b).map Value.normalize = _
  unfold plus
  rw [ha, hb]
  rfl

/-- A zero is appended to a text. -/
theorem combine_text_zero (s : String) :
    add.combine (.text s) (.num (.int 0)) = .ok (.text (s ++ "0")) := by
  show (plus (.text s) (.num (.int 0))).map Value.normalize = _
  rw [plus_eq_text rfl (operandText_text s) operandText_zero]
  rfl

/-- Adding zero gives back the numbers in normal form, and nothing else. -/
theorem combine_add_zero (a : Value) :
    add.combine a (.num (.int 0)) = .ok a ↔ a.IsNormal := by
  constructor
  · intro h
    cases a with
    | text s =>
      rw [combine_text_zero] at h
      exact absurd (Value.text.inj (Except.ok.inj h)) (append_ne_self (by decide)).1
    | _ =>
      rw [combine_add_of_not_text rfl rfl] at h
      exact isNormal_of_numeric h
  · intro h
    cases a with
    | num n => exact map_numeric_eq (Number.add_zero h) h
    | _ => exact h.elim

theorem combine_zero_add (b : Value) :
    add.combine (.num (.int 0)) b = .ok b ↔ b.IsNormal := by
  constructor
  · intro h
    cases b with
    | text s =>
      have hs : plus (.num (.int 0)) (.text s) = .ok (.text ("0" ++ s)) :=
        plus_eq_text rfl operandText_zero (operandText_text s)
      change (plus (.num (.int 0)) (.text s)).map Value.normalize = _ at h
      rw [hs] at h
      exact absurd (Value.text.inj (Except.ok.inj h)) (append_ne_self (by decide)).2
    | _ =>
      rw [combine_add_of_not_text rfl rfl] at h
      exact isNormal_of_numeric h
  · intro h
    cases b with
    | num n => exact map_numeric_eq (Number.zero_add h) h
    | _ => exact h.elim

/-- So does multiplying by one. -/
theorem combine_mul_one (a : Value) :
    mul.combine a (.num (.int 1)) = .ok a ↔ a.IsNormal := by
  refine ⟨isNormal_of_numeric, fun h => ?_⟩
  cases a with
  | num n => exact map_numeric_eq (Number.mul_one n) h
  | _ => exact h.elim

theorem combine_one_mul (b : Value) :
    mul.combine (.num (.int 1)) b = .ok b ↔ b.IsNormal := by
  refine ⟨isNormal_of_numeric, fun h => ?_⟩
  cases b with
  | num n => exact map_numeric_eq (Number.one_mul n) h
  | _ => exact h.elim

/-- Adding a value to itself is doubling it, unless it is a text. -/
theorem combine_two_mul {a c : Value} (h : a.isText = false) (hc : add.combine a a = .ok c) :
    mul.combine (.num (.int 2)) a = .ok c := by
  rw [combine_add_of_not_text h h] at hc
  rw [← hc]
  show (numeric "*" Number.mul (.num (.int 2)) a).map Value.normalize = _
  cases ha : a.number? with
  | none =>
    obtain ⟨d, hd, -⟩ := map_eq_ok hc
    unfold numeric operandNumber at hd
    rw [ha] at hd
    cases hd
  | some n =>
    rw [Expr.numeric_eq rfl ha, Expr.numeric_eq ha ha, Number.two_mul]
    cases hr : n.add n with
    | ok r => rfl
    | error e =>
      rw [Expr.numeric_eq ha ha, hr] at hc
      cases hc

end BinaryOp

/-- Turning the sign twice gives back the numbers in normal form. -/
theorem applyUnary_neg_neg {n : Number} (h : n.isNormal = true) :
    applyUnary .neg (.num n) >>= applyUnary .neg = .ok (.num n) :=
  congrArg (fun k => Except.ok (Value.num k)) (Number.normalize_negate_negate h)

namespace Expr

/-! ## Conditions -/

mutual

/-- The condition holds at every node that the evaluation reaches, in the scope
    that it has there. -/
def Along (check : Expr → Scope → Prop) : Expr → Scope → Prop
  | binary op l r note, s =>
    check (binary op l r note) s ∧ l.Along check s ∧
      ∀ o a s₁, operatorOf op = .ok o → l.evaluate s = (.ok a, s₁) → o.decides a = false →
        r.Along check s₁
  | unary op e note, s => check (unary op e note) s ∧ e.Along check s
  | call name args note, s => check (call name args note) s ∧ AlongArguments check args s
  | assign name e note, s => check (assign name e note) s ∧ e.Along check s
  | group e note, s => check (group e note) s ∧ e.Along check s
  | e, s => check e s

/-- The condition along the evaluation of arguments. -/
def AlongArguments (check : Expr → Scope → Prop) : List Expr → Scope → Prop
  | [], _ => True
  | a :: rest, s =>
    a.Along check s ∧ ∀ v s₁, a.evaluate s = (.ok v, s₁) → AlongArguments check rest s₁

end

/-- The tree gives a number in normal form, if it gives anything. -/
def GivesNormal (e : Expr) (s : Scope) : Prop :=
  ∀ v s', e.evaluate s = (.ok v, s') → v.IsNormal

/-- Where the operation at the root is dropped, it gives the operand that stays:
    a sum with zero, a product with one and a double negation do on numbers in
    normal form. A power with exponent one has to give the base, a power with
    exponent zero one, after a base that leaves the scope as it is. -/
def DropsSafely : Expr → Scope → Prop
  | binary (.text "+") l r _, s =>
    (r.isInteger 0 = true → l.isTextLiteral = false → l.GivesNormal s) ∧
    (l.isInteger 0 = true → r.isTextLiteral = false → r.GivesNormal s)
  | binary (.text "*") l r _, s =>
    (r.isInteger 1 = true → l.GivesNormal s) ∧ (l.isInteger 1 = true → r.GivesNormal s)
  | binary (.text "^") l r _, s =>
    (r.isInteger 1 = true → ∀ a s' c, l.evaluate s = (.ok a, s') →
      BinaryOp.pow.combine a (.num (.int 1)) = .ok c → c = a) ∧
    (r.isInteger 0 = true → ∀ a s' c, l.evaluate s = (.ok a, s') →
      BinaryOp.pow.combine a (.num (.int 0)) = .ok c → s' = s ∧ c = .num (.int 1))
  | unary (.text "-") e _, s => ∀ x, e.negated? = some x → x.GivesNormal s
  | _, _ => True

/-- The condition of the pass that drops operations, on a node whose children
    have been rewritten. -/
def DropCondition : Expr → Scope → Prop
  | binary op l r note, s => DropsSafely (binary op l.dropRedundant r.dropRedundant note) s
  | unary op e note, s => DropsSafely (unary op e.dropRedundant note) s
  | _, _ => True

/-- Where a sum of a variable with itself is joined, the variable is no text. -/
def JoinsSafely : Expr → Scope → Prop
  | binary (.text "+") (var x _) (var y _) _, s =>
    x.identical y = true → ∀ v, variableValue s x = .ok v → v.isText = false
  | _, _ => True

/-! ## Rules -/

theorem isInteger_eq {k : Int} {e : Expr} (he : e.Every LiteralNative)
    (hk : k.natAbs < Number.safeLimit.natAbs) (h : e.isInteger k = true) :
    ∃ note, e = literal (some (.num (.int k))) false note := by
  unfold isInteger at h
  split at h
  · rename_i n hn
    obtain ⟨note, rfl⟩ := number?_eq_some hn
    have hn : n.isNormal = true := he
    obtain rfl := Number.eq_int_of_equal hn hk h
    exact ⟨note, rfl⟩
  · cases h

section Operand

variable {op : Value} {o : BinaryOp} {note note' : Option Note} {n : Number} {s : Scope}

/-- An operation with a number as its second operand. -/
theorem evaluate_binary_number_right {l : Expr} (ho : operatorOf op = .ok o)
    (ht : op.isTruthy = true) (hd : ∀ a, o.decides a = false) (hl : l.isAbsent = false) :
    (binary op l (literal (some (.num n)) false note') note).evaluate s =
      andThen (l.evaluate s) fun a s => (o.combine a (.num n), s) := by
  rw [evaluate_binary note s (by rw [hl, ht]; rfl) ho]
  congr 1
  funext a s₁
  rw [hd a, evaluate_number_literal]
  rfl

/-- An operation with a number as its first operand. -/
theorem evaluate_binary_number_left {r : Expr} (ho : operatorOf op = .ok o)
    (ht : op.isTruthy = true) (hd : ∀ a, o.decides a = false) (hr : r.isAbsent = false) :
    (binary op (literal (some (.num n)) false note') r note).evaluate s =
      andThen (r.evaluate s) fun b s => (o.combine (.num n) b, s) := by
  rw [evaluate_binary note s (by rw [hr, ht]; rfl) ho, evaluate_number_literal, andThen_ok,
    hd (.num n)]
  rfl

end Operand

/-- An operation after another one. -/
theorem andThen_andThen (r : Outcome Value) (f g : Value → Except EvalError Value) :
    andThen (andThen r fun a s => (f a, s)) (fun a s => (g a, s)) =
      andThen r fun a s => (f a >>= g, s) := by
  match r with
  | (.ok a, s) =>
    rw [andThen_ok, andThen_ok]
    cases f a <;> rfl
  | (.error e, s) => rfl

/-- An operation after a tree whose value it gives back. -/
theorem follows_andThen_self {lax : Prop} {r : Outcome Value}
    {f : Value → Except EvalError Value} (h : ∀ a s, r = (.ok a, s) → f a = .ok a) :
    Follows lax (andThen r fun a s => (f a, s)) r := by
  match r, h with
  | (.ok a, s), h =>
    rw [andThen_ok, h a s rfl]
    exact .refl _
  | (.error e, s), _ => exact .refl _

theorem follows_dropZero {lax : Prop} {l r : Expr} {note : Option Note} {s : Scope}
    (hl : l.Every LiteralNative) (hr : r.Every LiteralNative)
    (hla : l.isAbsent = false) (hra : r.isAbsent = false)
    (h : DropsSafely (binary (.text "+") l r note) s) :
    Follows lax ((binary (.text "+") l r note).evaluate s)
      ((dropZero (binary (.text "+") l r note) l r).evaluate s) := by
  unfold dropZero
  split
  · rename_i hz
    rw [Bool.and_eq_true, Bool.not_eq_true'] at hz
    have hn := h.1 hz.1 hz.2
    obtain ⟨note', rfl⟩ := isInteger_eq hr (by decide) hz.1
    rw [evaluate_binary_number_right rfl rfl (fun _ => rfl) hla]
    exact follows_andThen_self fun a s₁ ha => (BinaryOp.combine_add_zero a).mpr (hn a s₁ ha)
  · split
    · rename_i hz
      rw [Bool.and_eq_true, Bool.not_eq_true'] at hz
      have hn := h.2 hz.1 hz.2
      obtain ⟨note', rfl⟩ := isInteger_eq hl (by decide) hz.1
      rw [evaluate_binary_number_left rfl rfl (fun _ => rfl) hra]
      exact follows_andThen_self fun b s₁ hb => (BinaryOp.combine_zero_add b).mpr (hn b s₁ hb)
    · exact .refl _

theorem follows_dropOne {lax : Prop} {l r : Expr} {note : Option Note} {s : Scope}
    (hl : l.Every LiteralNative) (hr : r.Every LiteralNative)
    (hla : l.isAbsent = false) (hra : r.isAbsent = false)
    (h : DropsSafely (binary (.text "*") l r note) s) :
    Follows lax ((binary (.text "*") l r note).evaluate s)
      ((dropOne (binary (.text "*") l r note) l r).evaluate s) := by
  unfold dropOne
  split
  · rename_i hz
    have hn := h.1 hz
    obtain ⟨note', rfl⟩ := isInteger_eq hr (by decide) hz
    rw [evaluate_binary_number_right rfl rfl (fun _ => rfl) hla]
    exact follows_andThen_self fun a s₁ ha => (BinaryOp.combine_mul_one a).mpr (hn a s₁ ha)
  · split
    · rename_i hz
      have hn := h.2 hz
      obtain ⟨note', rfl⟩ := isInteger_eq hl (by decide) hz
      rw [evaluate_binary_number_left rfl rfl (fun _ => rfl) hra]
      exact follows_andThen_self fun b s₁ hb => (BinaryOp.combine_one_mul b).mpr (hn b s₁ hb)
    · exact .refl _

theorem follows_dropExponent {l r : Expr} {note : Option Note} {s : Scope}
    (hr : r.Every LiteralNative) (hla : l.isAbsent = false)
    (h : DropsSafely (binary (.text "^") l r note) s) :
    Follows True ((binary (.text "^") l r note).evaluate s)
      ((dropExponent (binary (.text "^") l r note) l r).evaluate s) := by
  refine Follows.of_ok fun v S hv => ?_
  unfold dropExponent
  split
  · rename_i hz
    have hp := h.1 hz
    obtain ⟨note', rfl⟩ := isInteger_eq hr (by decide) hz
    rw [evaluate_binary_number_right rfl rfl (fun _ => rfl) hla] at hv
    obtain ⟨a, s₁, ha, hv⟩ := andThen_eq_ok hv
    obtain ⟨hc, rfl⟩ := Prod.mk.inj hv
    rw [hp a s₁ v ha hc]
    exact ha
  · split
    · rename_i hz
      have hp := h.2 hz
      obtain ⟨note', rfl⟩ := isInteger_eq hr (by decide) hz
      rw [evaluate_binary_number_right rfl rfl (fun _ => rfl) hla] at hv
      obtain ⟨a, s₁, ha, hv⟩ := andThen_eq_ok hv
      obtain ⟨hc, rfl⟩ := Prod.mk.inj hv
      obtain ⟨rfl, rfl⟩ := hp a s₁ v ha hc
      exact evaluate_number _ _
    · exact hv

theorem follows_dropBinary {op : Value} {l r : Expr} {note : Option Note} {s : Scope}
    (hl : l.Every LiteralNative) (hr : r.Every LiteralNative)
    (h : DropsSafely (binary op l r note) s) :
    Follows True ((binary op l r note).evaluate s) ((dropBinary op l r note).evaluate s) := by
  unfold dropBinary
  dsimp only
  split
  · exact .refl _
  · rename_i ha
    rw [Bool.not_eq_true, Bool.or_eq_false_iff] at ha
    split
    · exact follows_dropZero hl hr ha.1 ha.2 h
    · exact follows_dropOne hl hr ha.1 ha.2 h
    · exact follows_dropExponent hr ha.1 h
    · exact .refl _

theorem evaluate_ungroup (s : Scope) : (e : Expr) → e.ungroup.evaluate s = e.evaluate s
  | group body note => by
    rw [ungroup, evaluate_group]
    exact evaluate_ungroup s body
  | absent | binary .. | unary .. | var .. | literal .. | call .. | assign .. => rfl

theorem negated?_isAbsent {e x : Expr} (h : e.negated? = some x) : e.isAbsent = false := by
  cases e with
  | absent => cases h
  | _ => rfl

theorem evaluate_neg {e : Expr} (note : Option Note) (s : Scope) (h : e.isAbsent = false) :
    (unary (.text "-") e note).evaluate s =
      andThen (e.evaluate s) fun v s => (applyUnary .neg v, s) := by
  rw [evaluate_unary note s (by rw [h]; rfl)]
  rfl

theorem follows_dropUnary {lax : Prop} {op : Value} {e : Expr} {note : Option Note} {s : Scope}
    (h : DropsSafely (unary op e note) s) :
    Follows lax ((unary op e note).evaluate s) ((dropUnary op e note).evaluate s) := by
  unfold dropUnary
  split
  · rename_i x hx
    have hn := h x hx
    obtain ⟨note', hu, hxa⟩ := negated?_eq_some hx
    rw [evaluate_neg note s (negated?_isAbsent hx), ← evaluate_ungroup, hu,
      evaluate_neg note' s hxa, andThen_andThen]
    refine follows_andThen_self fun a s₁ ha => ?_
    have hna := hn a s₁ ha
    cases a with
    | num n => exact applyUnary_neg_neg hna
    | _ => exact hna.elim
  · exact .refl _

theorem evaluate_dropGroup (body : Expr) (note : Option Note) (s : Scope) :
    (dropGroup body note).evaluate s = (group body note).evaluate s := by
  unfold dropGroup
  split
  · rw [evaluate_group]
  · rw [evaluate_group]
  · rfl

/-- Names that are identical and can be read are the same text. -/
theorem variableValue_unique {s : Scope} {x y a b : Value} (hxy : x.identical y = true)
    (hx : variableValue s x = .ok a) (hy : variableValue s y = .ok b) : a = b := by
  have text_of_ok {x a : Value} (h : variableValue s x = .ok a) : ∃ key, x = .text key := by
    unfold variableValue at h
    split at h
    · cases h
    · split at h
      · exact ⟨_, rfl⟩
      · obtain ⟨shown, -, h⟩ := bind_eq_ok h
        cases h
  obtain ⟨k, rfl⟩ := text_of_ok hx
  obtain ⟨k', rfl⟩ := text_of_ok hy
  rw [Value.identical, beq_iff_eq] at hxy
  subst hxy
  exact Except.ok.inj (hx.symm.trans hy)

theorem follows_joinBinary {op : Value} {l r : Expr} {note : Option Note} {s : Scope}
    (h : JoinsSafely (binary op l r note) s) :
    Follows True ((binary op l r note).evaluate s) ((joinBinary op l r note).evaluate s) := by
  unfold joinBinary
  dsimp only
  split
  · rename_i x nx y ny
    split
    · rename_i hxy
      rw [Bool.and_eq_true] at hxy
      refine Follows.of_ok fun v S hv => ?_
      rw [evaluate_binary note s rfl rfl, evaluate_var] at hv
      obtain ⟨a, s₁, ha, hv⟩ := andThen_eq_ok hv
      obtain ⟨hx, rfl⟩ := Prod.mk.inj ha
      change andThen ((var y ny).evaluate s) _ = _ at hv
      rw [evaluate_var] at hv
      obtain ⟨b, s₂, hb, hv⟩ := andThen_eq_ok hv
      obtain ⟨hy, rfl⟩ := Prod.mk.inj hb
      obtain ⟨hc, rfl⟩ := Prod.mk.inj hv
      have ht := h hxy.2 a hx
      obtain rfl := variableValue_unique hxy.2 hx hy
      rw [number, evaluate_binary_number_left rfl rfl (fun _ => rfl) rfl, evaluate_var, hy,
        andThen_ok, BinaryOp.combine_two_mul ht hc]
    · exact .refl _
  · exact .refl _

/-! ## Literals -/

theorem keptBy_literalNative (R : Expr → Expr → Prop) : KeptBy R LiteralNative where
  binary _ _ _ := trivial
  unary _ _ := trivial
  call _ _ := trivial
  assign _ _ := trivial
  group _ _ := trivial

theorem keptByFolding_literalNative : KeptByFolding LiteralNative where
  children := keptBy_literalNative _
  finite _ := Number.isNormal_normalize _
  negated _ := Number.isNormal_normalize _
  truth _ := trivial

theorem dropRedundant_literalNative {e : Expr} (h : e.Every LiteralNative) :
    e.dropRedundant.Every LiteralNative :=
  every_dropRedundant (keptBy_literalNative _) rfl e h

theorem joinTerms_literalNative {e : Expr} (h : e.Every LiteralNative) :
    e.joinTerms.Every LiteralNative :=
  every_joinTerms (keptBy_literalNative _) rfl (fun _ => trivial) e h

theorem keptByRules_literalNative : KeptByRules LiteralNative where
  folding := keptByFolding_literalNative
  dropping := keptBy_literalNative _
  joining := keptBy_literalNative _
  one := rfl
  two := rfl
  product _ := trivial

/-! ## Passes -/

mutual

/-- Dropping keeps the results of a tree, where its condition holds along the
    evaluation. -/
theorem dropRedundant_follows : (e : Expr) → e.Every LiteralNative → ∀ s,
    e.Along DropCondition s → Follows True (e.evaluate s) (e.dropRedundant.evaluate s)
  | absent, _, s, _ | literal .., _, s, _ | var .., _, s, _ => .refl _
  | group body note, he, s, hc => by
    rw [dropRedundant, evaluate_dropGroup]
    exact follows_group (dropRedundant_follows body he.2 s hc.2)
  | unary op e note, he, s, hc =>
    (follows_unary (dropRedundant_isAbsent e) (dropRedundant_follows e he.2 s hc.2)).trans
      (follows_dropUnary hc.1)
  | binary op l r note, he, s, hc => by
    have hl := dropRedundant_follows l he.2.1 s hc.2.1
    have hr (o : BinaryOp) (a : Value) (s₁ : Scope) (ho : operatorOf op = .ok o)
        (ha : l.evaluate s = (.ok a, s₁)) (hd : o.decides a = false) :
        Follows True (r.evaluate s₁) (r.dropRedundant.evaluate s₁) :=
      dropRedundant_follows r he.2.2 s₁ (hc.2.2 o a s₁ ho ha hd)
    exact (follows_binary (dropRedundant_isAbsent l) (dropRedundant_isAbsent r) hl hr).trans
      (follows_dropBinary (dropRedundant_literalNative he.2.1)
        (dropRedundant_literalNative he.2.2) hc.1)
  | assign name e note, he, s, hc =>
    follows_assign (dropRedundant_follows e he.2 s hc.2)
  | call name args note, he, s, hc =>
    follows_call (dropRedundantIn_follows args he.2 s hc.2)

theorem dropRedundantIn_follows : (args : List Expr) → EveryArgument LiteralNative args → ∀ s,
    AlongArguments DropCondition args s →
      Follows True (evaluateArguments args s) (evaluateArguments (dropRedundantIn args) s)
  | [], _, _, _ => .refl _
  | a :: rest, he, s, hc =>
    follows_cons (dropRedundant_follows a he.1 s hc.1) fun v s₁ hv =>
      dropRedundantIn_follows rest he.2 s₁ (hc.2 v s₁ hv)

end

theorem eq_var_of_joinTerms {e : Expr} {x : Value} {note : Option Note}
    (h : e.joinTerms = var x note) : e = var x note := by
  cases e with
  | binary op l r note' =>
    rw [joinTerms] at h
    obtain hj | ⟨_, _, _, _, -, -, -, -, hj⟩ :=
      joinBinary_cases op l.joinTerms r.joinTerms note' <;>
    · rw [hj] at h
      cases h
  | var => exact h
  | _ => cases h

/-- The condition of a join does not notice that the operands have been joined. -/
theorem JoinsSafely.joined {op : Value} {l r : Expr} {note : Option Note} {s : Scope}
    (h : JoinsSafely (binary op l r note) s) :
    JoinsSafely (binary op l.joinTerms r.joinTerms note) s := by
  unfold JoinsSafely
  split
  · rename_i x nx y ny note' he
    injection he with ho hl hr hn
    rw [ho, eq_var_of_joinTerms hl, eq_var_of_joinTerms hr] at h
    exact h
  · trivial

mutual

/-- Joining keeps the results of a tree, where its condition holds along the
    evaluation. -/
theorem joinTerms_follows : (e : Expr) → ∀ s, e.Along JoinsSafely s →
    Follows True (e.evaluate s) (e.joinTerms.evaluate s)
  | absent, s, _ | literal .., s, _ | var .., s, _ => .refl _
  | group body note, s, hc => follows_group (joinTerms_follows body s hc.2)
  | unary op e note, s, hc => follows_unary (joinTerms_isAbsent e) (joinTerms_follows e s hc.2)
  | binary op l r note, s, hc => by
    have hl := joinTerms_follows l s hc.2.1
    have hr (o : BinaryOp) (a : Value) (s₁ : Scope) (ho : operatorOf op = .ok o)
        (ha : l.evaluate s = (.ok a, s₁)) (hd : o.decides a = false) :
        Follows True (r.evaluate s₁) (r.joinTerms.evaluate s₁) :=
      joinTerms_follows r s₁ (hc.2.2 o a s₁ ho ha hd)
    exact (follows_binary (joinTerms_isAbsent l) (joinTerms_isAbsent r) hl hr).trans
      (follows_joinBinary hc.1.joined)
  | assign name e note, s, hc => follows_assign (joinTerms_follows e s hc.2)
  | call name args note, s, hc => follows_call (joinTermsIn_follows args s hc.2)

theorem joinTermsIn_follows : (args : List Expr) → ∀ s, AlongArguments JoinsSafely args s →
    Follows True (evaluateArguments args s) (evaluateArguments (joinTermsIn args) s)
  | [], _, _ => .refl _
  | a :: rest, s, hc =>
    follows_cons (joinTerms_follows a s hc.1) fun v s₁ hv =>
      joinTermsIn_follows rest s₁ (hc.2 v s₁ hv)

end

end Expr
end TokenFormula
