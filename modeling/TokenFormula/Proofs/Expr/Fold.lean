import TokenFormula.Expr.Fold
import TokenFormula.Proofs.Expr.Outcome
import TokenFormula.Proofs.Scope

/-!
# Constant folding and evaluation

Folding computes ahead what the evaluation would compute, by operators and by a
table of functions of its own. Where it replaces a tree by a number, the
evaluation gives that number too. A call is found through the scope, so the
table under `Math` has to be in place when the call is reached; assignments that
do not reach its binding keep it there.

Results:
* `foldBinary_evaluate`, `foldUnary_evaluate`, `foldCall_follows`: the rules.
* `foldConstants_follows`: the pass, for any invariant that keeps the functions
  in place.
* `foldConstants_evaluate`: outcome and final scope of the folded tree are those
  of the tree.
-/

namespace TokenFormula
namespace Expr

open Outcome

/-! ## Numbers -/

theorem number?_eq_some {e : Expr} {n : Number} (h : e.number? = some n) :
    ∃ note, e = literal (some (.num n)) false note := by
  unfold number? at h
  split at h
  · cases h
    exact ⟨_, rfl⟩
  · cases h

theorem evaluate_number_literal (n : Number) (note : Option Note) (s : Scope) :
    (literal (some (.num n)) false note).evaluate s = (.ok (.num n), s) :=
  evaluate_literal _ _ _ _

theorem evaluate_number (n : Number) (s : Scope) : (number n).evaluate s = (.ok (.num n), s) :=
  evaluate_number_literal n none s

/-- Folding to a number needs a finite number; else the tree stays. -/
theorem foldedTo_eq_ok {whole e : Expr} {r : Except Fault Value} (h : foldedTo whole r = .ok e) :
    e = whole ∨ ∃ n, r = .ok (.num n) ∧ (Value.num n).isFinite = .ok true ∧
      e = number n.normalize := by
  unfold foldedTo at h
  split at h
  · split at h
    · exact .inl (Except.ok.inj h).symm
    · cases h
  · rename_i v
    cases hf : v.isFinite with
    | error f =>
      rw [hf] at h
      cases h
    | ok finite =>
      rw [hf] at h
      cases finite with
      | false => exact .inl (Except.ok.inj h).symm
      | true =>
        cases v with
        | num n => exact .inr ⟨_, rfl, hf, (Except.ok.inj h).symm⟩
        | _ => exact .inl (Except.ok.inj h).symm

/-! ## Operators -/

/-- An operation on numbers gives its result, or its fault with the operator's sign. -/
theorem numeric_eq {symbol : String} {f : Number → Number → Except Fault Number} {x y : Value}
    {m n : Number} (hx : x.number? = some m) (hy : y.number? = some n) :
    numeric symbol f x y = (f m n).mapError (.arithmetic symbol) >>= fun r => .ok (.num r) := by
  simp only [numeric, operandNumber, hx, hy, ok_bind]
  cases f m n <;> rfl

theorem numeric_num {symbol : String} {f : Number → Number → Except Fault Number}
    {a b r : Number} (h : f a b = .ok r) :
    numeric symbol f (.num a) (.num b) = .ok (.num r) := by
  rw [numeric_eq rfl rfl, h]
  rfl

theorem withDivisor_num {symbol : String} {zero : EvalError}
    {f : Number → Number → Except Fault Number} {a b r : Number} (hb : b.isZero = false)
    (h : f a b = .ok r) : withDivisor symbol zero f (.num a) (.num b) = .ok (.num r) := by
  rw [← numeric_num h]
  show (do
    if b.isZero then throw zero
    numeric symbol f (.num a) (.num b) : Except EvalError Value) = _
  rw [hb]
  rfl

theorem map_num_eq_ok {r : Except Fault Number} {n : Number}
    (h : (do return Value.num (← r)) = Except.ok (Value.num n)) : r = .ok n := by
  cases r with
  | error f => cases h
  | ok m =>
    cases h
    rfl

/-- What folding computes for an operator is what the operator gives. -/
theorem foldOperator_eq_ok {op : Value} {a b n : Number}
    (h : foldOperator op a b = .ok (.num n)) (hz : op = .text "/" → b.isZero = false) :
    ∃ o, op.isTruthy = true ∧ operatorOf op = .ok o ∧ o.decides (.num a) = false ∧
      o.combine (.num a) (.num b) = .ok (.num n.normalize) := by
  unfold foldOperator at h
  split at h
  · have hc : applyBinary .add (.num a) (.num b) = .ok (.num n) := numeric_num (map_num_eq_ok h)
    exact ⟨.add, rfl, rfl, rfl, congrArg (Except.map Value.normalize) hc⟩
  · have hc : applyBinary .sub (.num a) (.num b) = .ok (.num n) := numeric_num (map_num_eq_ok h)
    exact ⟨.sub, rfl, rfl, rfl, congrArg (Except.map Value.normalize) hc⟩
  · have hc : applyBinary .mul (.num a) (.num b) = .ok (.num n) := numeric_num (map_num_eq_ok h)
    exact ⟨.mul, rfl, rfl, rfl, congrArg (Except.map Value.normalize) hc⟩
  · have hc : applyBinary .div (.num a) (.num b) = .ok (.num n) :=
      withDivisor_num (hz rfl) (map_num_eq_ok h)
    exact ⟨.div, rfl, rfl, rfl, congrArg (Except.map Value.normalize) hc⟩
  · have hc : applyBinary .pow (.num a) (.num b) = .ok (.num n) := by
      show (power (.num a) (.num b)).mapError _ = _
      rw [h]
      rfl
    exact ⟨.pow, rfl, rfl, rfl, congrArg (Except.map Value.normalize) hc⟩
  · cases h

/-- Folding an operator keeps the outcome. -/
theorem foldBinary_evaluate {op : Value} {l r e : Expr} {note : Option Note}
    (h : foldBinary op l r note = .ok e) (s : Scope) :
    e.evaluate s = (binary op l r note).evaluate s := by
  unfold foldBinary at h
  split at h
  · rename_i a b ha hb
    obtain ⟨na, rfl⟩ := number?_eq_some ha
    obtain ⟨nb, rfl⟩ := number?_eq_some hb
    split at h
    · rw [Except.ok.inj h]
    · rename_i op _ _ hz
      obtain rfl | ⟨n, hn, -, rfl⟩ := foldedTo_eq_ok h
      · rfl
      · have hz : op = .text "/" → b.isZero = false := fun ho =>
          Bool.eq_false_iff.mpr (hz ho)
        obtain ⟨o, ht, ho, hd, hc⟩ := foldOperator_eq_ok hn hz
        have hi : ((literal (some (.num a)) false na).isAbsent ||
            (literal (some (.num b)) false nb).isAbsent || !op.isTruthy) = false := by
          rw [ht]
          rfl
        rw [evaluate_binary note s hi ho, evaluate_number, evaluate_number_literal, andThen_ok, hd,
          evaluate_number_literal]
        simp only [Bool.false_eq_true, if_false, andThen_ok, hc]
  · rw [Except.ok.inj h]

/-- Folding a sign or a negation keeps the outcome. -/
theorem foldUnary_evaluate (op : Value) (e : Expr) (note : Option Note) (s : Scope) :
    (foldUnary op e note).evaluate s = (unary op e note).evaluate s := by
  unfold foldUnary
  split
  · rename_i n hn
    obtain ⟨note', rfl⟩ := number?_eq_some hn
    rw [evaluate_unary note s rfl, evaluate_number, evaluate_number_literal, andThen_ok]
    rfl
  · rename_i n hn
    obtain ⟨note', rfl⟩ := number?_eq_some hn
    rw [evaluate_unary note s rfl, evaluate_literal, evaluate_number_literal, andThen_ok]
    show _ = (Except.ok (Value.bool !(!n.isZero)), s)
    rw [Bool.not_not]
    rfl
  · rfl

/-! ## Calls -/

/-- A call of a foldable function by its name in the table finds the function;
    if `lax`, it may also fail. -/
def FindsFunctions (lax : Prop) (s : Scope) : Prop :=
  ∀ name f, (mathMember? name).bind foldable? = some f →
    target s name = .ok (.function f) ∨ lax ∧ ∃ e, target s name = .error e

theorem evaluateArguments_numbers {args : List Expr} :
    ∀ {ns : List Number}, numbers? args = some ns → ∀ s,
      evaluateArguments args s = (.ok (ns.map .num), s) := by
  induction args with
  | nil =>
    intro ns h s
    cases h
    rw [evaluateArguments_nil]
    rfl
  | cons a rest ih =>
    intro ns h s
    simp only [numbers?, List.mapM_cons] at h
    obtain ⟨n, hn, h⟩ := Option.bind_eq_some_iff.mp h
    obtain ⟨ns', hns, h⟩ := Option.bind_eq_some_iff.mp h
    cases h
    obtain ⟨note, rfl⟩ := number?_eq_some hn
    rw [evaluateArguments_cons, evaluate_number_literal, andThen_ok, ih hns, andThen_ok]
    rfl

theorem mathMember?_eq_some {name m : String} (h : mathMember? name = some m) :
    name = String.ofList ("Math.".toList ++ m.toList) := by
  have h : (if "Math.".toList.isPrefixOf name.toList then
      some (String.ofList (name.toList.drop "Math.".toList.length)) else none) = some m := h
  split at h
  · rename_i hp
    obtain ⟨rest, hr⟩ := List.isPrefixOf_iff_prefix.mp hp
    obtain rfl := Option.some.inj h
    have hd : name.toList.drop "Math.".toList.length = rest := by
      rw [← hr]
      exact List.drop_left
    rw [hd, @String.toList_ofList rest, hr, String.ofList_toList]
  · cases h

/-- A foldable function is named by its path. -/
theorem eq_path_of_foldable {name : String} {f : Builtin}
    (h : (mathMember? name).bind foldable? = some f) : name = f.path ∧ f ≠ .isArray := by
  obtain ⟨m, hm, hf⟩ := Option.bind_eq_some_iff.mp h
  obtain rfl := mathMember?_eq_some hm
  unfold foldable? at hf
  split at hf <;> cases hf <;> exact ⟨rfl, by decide⟩

theorem calleeName_path (f : Builtin) : calleeName (.text f.path) = .ok f.path := by
  cases f <;> rfl

/-- A function of the table is found there under the second part of its path, and
    in no other table. -/
theorem exists_splitAt_path {f : Builtin} (hf : f ≠ .isArray) :
    ∃ m, Text.splitAt '.' f.path = ["Math", m] ∧ mathTable.get? m = some (.function f) ∧
      arrayTable.get? m = none := by
  cases f with
  | isArray => exact absurd rfl hf
  | pow => exact ⟨"pow", rfl, rfl, rfl⟩
  | max => exact ⟨"max", rfl, rfl, rfl⟩
  | min => exact ⟨"min", rfl, rfl, rfl⟩
  | abs => exact ⟨"abs", rfl, rfl, rfl⟩
  | floor => exact ⟨"floor", rfl, rfl, rfl⟩
  | ceil => exact ⟨"ceil", rfl, rfl, rfl⟩
  | round => exact ⟨"round", rfl, rfl, rfl⟩
  | sqrt => exact ⟨"sqrt", rfl, rfl, rfl⟩
  | sin => exact ⟨"sin", rfl, rfl, rfl⟩
  | cos => exact ⟨"cos", rfl, rfl, rfl⟩
  | tan => exact ⟨"tan", rfl, rfl, rfl⟩
  | log => exact ⟨"log", rfl, rfl, rfl⟩
  | exp => exact ⟨"exp", rfl, rfl, rfl⟩

/-- With the table in place every function of the table is found. -/
theorem target_path {s : Scope} {f : Builtin} (hs : s.get? "Math" = some (.dict mathTable))
    (hf : f ≠ .isArray) : target s f.path = .ok (.function f) := by
  obtain ⟨m, hm, hv, -⟩ := exists_splitAt_path hf
  unfold target
  simp only [hm, hs, member?, hv]

theorem findsFunctions_of_get? {lax : Prop} {s : Scope}
    (hs : s.get? "Math" = some (.dict mathTable)) : FindsFunctions lax s := by
  intro name f h
  obtain ⟨rfl, hf⟩ := eq_path_of_foldable h
  exact .inl (target_path hs hf)

/-- Folding a call keeps the outcome where the function is found. -/
theorem foldCall_follows {lax : Prop} {name : Value} {args : List Expr} {note : Option Note}
    {e : Expr} {s : Scope} (h : foldCall name args note = .ok e) (hs : FindsFunctions lax s) :
    Follows lax ((call name args note).evaluate s) (e.evaluate s) := by
  unfold foldCall at h
  split at h
  · rename_i dotted
    split at h
    · rename_i f _ _ ns hf hns
      obtain rfl | ⟨n, hn, -, rfl⟩ := foldedTo_eq_ok h
      · exact .refl _
      · rw [evaluate_call, (eq_path_of_foldable hf).1, calleeName_path, andThen_ok,
          ← (eq_path_of_foldable hf).1]
        obtain ht | ⟨hl, e, ht⟩ := hs dotted f hf
        · rw [ht, andThen_ok, evaluateArguments_numbers hns, andThen_ok, evaluate_number]
          refine .of_eq ?_
          simp only [callValue, hn]
          rfl
        · rw [ht, andThen_error]
          exact .inr ⟨hl, e, s, rfl⟩
    · rw [Except.ok.inj h]
      exact .refl _
  · split at h
    · cases h
    · rw [Except.ok.inj h]
      exact .refl _

/-! ## The pass -/

theorem foldBinary_isAbsent {op : Value} {l r e : Expr} {note : Option Note}
    (h : foldBinary op l r note = .ok e) : e.isAbsent = false := by
  unfold foldBinary at h
  split at h
  · split at h
    · rw [← Except.ok.inj h]
      rfl
    · obtain rfl | ⟨n, -, -, rfl⟩ := foldedTo_eq_ok h <;> rfl
  · rw [← Except.ok.inj h]
    rfl

theorem foldUnary_isAbsent (op : Value) (e : Expr) (note : Option Note) :
    (foldUnary op e note).isAbsent = false := by
  unfold foldUnary
  split <;> rfl

theorem foldCall_isAbsent {name : Value} {args : List Expr} {note : Option Note} {e : Expr}
    (h : foldCall name args note = .ok e) : e.isAbsent = false := by
  unfold foldCall at h
  split at h
  · split at h
    · obtain rfl | ⟨n, -, -, rfl⟩ := foldedTo_eq_ok h <;> rfl
    · rw [← Except.ok.inj h]
      rfl
  · split at h
    · cases h
    · rw [← Except.ok.inj h]
      rfl

/-- Folding keeps the places where a tree is missing. -/
theorem foldConstants_isAbsent {e e' : Expr} (h : e.foldConstants = .ok e') :
    e'.isAbsent = e.isAbsent := by
  cases e with
  | absent | literal | var =>
    rw [foldConstants] at h
    rw [← Except.ok.inj h]
  | group body note | assign name e note =>
    rw [foldConstants] at h
    obtain ⟨e₁, -, h⟩ := bind_eq_ok h
    rw [← Except.ok.inj h]
    rfl
  | unary op e note =>
    rw [foldConstants] at h
    obtain ⟨e₁, -, h⟩ := bind_eq_ok h
    rw [← Except.ok.inj h]
    exact foldUnary_isAbsent op e₁ note
  | binary op l r note =>
    rw [foldConstants] at h
    obtain ⟨l₁, -, h⟩ := bind_eq_ok h
    obtain ⟨r₁, -, h⟩ := bind_eq_ok h
    exact foldBinary_isAbsent h
  | call name args note =>
    rw [foldConstants] at h
    obtain ⟨args₁, -, h⟩ := bind_eq_ok h
    exact foldCall_isAbsent h

mutual

/-- Folding keeps every outcome, as long as the functions are found. -/
theorem foldConstants_follows {lax : Prop} {p : Expr → Prop} {V : Value → Prop}
    {P : Scope → Prop} (hp : Stable p V P) (hf : ∀ s, P s → FindsFunctions lax s) :
    (e : Expr) → e.Every p → ∀ e', e.foldConstants = .ok e' → ∀ s, P s →
      Follows lax (e.evaluate s) (e'.evaluate s)
  | .absent, _, e', h, s, _ => by
    rw [foldConstants] at h
    rw [← Except.ok.inj h]
    exact .refl _
  | .literal v fallback note, _, e', h, s, _ => by
    rw [foldConstants] at h
    rw [← Except.ok.inj h]
    exact .refl _
  | .var name note, _, e', h, s, _ => by
    rw [foldConstants] at h
    rw [← Except.ok.inj h]
    exact .refl _
  | .group body note, he, e', h, s, hs => by
    rw [foldConstants] at h
    obtain ⟨body', hb, h⟩ := bind_eq_ok h
    rw [← Except.ok.inj h]
    exact follows_group (foldConstants_follows hp hf body he.2 body' hb s hs)
  | .unary op e note, he, e', h, s, hs => by
    rw [foldConstants] at h
    obtain ⟨e₁, h₁, h⟩ := bind_eq_ok h
    rw [← Except.ok.inj h]
    exact (follows_unary (foldConstants_isAbsent h₁)
      (foldConstants_follows hp hf e he.2 e₁ h₁ s hs)).trans
        (.of_eq (foldUnary_evaluate op e₁ note s))
  | .binary op l r note, he, e', h, s, hs => by
    rw [foldConstants] at h
    obtain ⟨l₁, hl, h⟩ := bind_eq_ok h
    obtain ⟨r₁, hr, h⟩ := bind_eq_ok h
    have hl' := foldConstants_follows hp hf l he.2.1 l₁ hl s hs
    have hr' (o : BinaryOp) (a : Value) (s₁ : Scope) (_ : operatorOf op = .ok o)
        (ha : l.evaluate s = (.ok a, s₁)) (_ : o.decides a = false) :
        Follows lax (r.evaluate s₁) (r₁.evaluate s₁) := by
      have hs₁ := (hp.evaluate l he.2.1 s hs).1
      rw [ha] at hs₁
      exact foldConstants_follows hp hf r he.2.2 r₁ hr s₁ hs₁
    exact (follows_binary (foldConstants_isAbsent hl) (foldConstants_isAbsent hr) hl' hr').trans
      (.of_eq (foldBinary_evaluate h s))
  | .assign name e note, he, e', h, s, hs => by
    rw [foldConstants] at h
    obtain ⟨e₁, h₁, h⟩ := bind_eq_ok h
    rw [← Except.ok.inj h]
    exact follows_assign (foldConstants_follows hp hf e he.2 e₁ h₁ s hs)
  | .call name args note, he, e', h, s, hs => by
    rw [foldConstants] at h
    obtain ⟨args₁, h₁, h⟩ := bind_eq_ok h
    exact (follows_call (foldArguments_follows hp hf args he.2 args₁ h₁ s hs)).trans
      (foldCall_follows h (hf s hs))

/-- Folding keeps every outcome of arguments. -/
theorem foldArguments_follows {lax : Prop} {p : Expr → Prop} {V : Value → Prop}
    {P : Scope → Prop} (hp : Stable p V P) (hf : ∀ s, P s → FindsFunctions lax s) :
    (args : List Expr) → EveryArgument p args → ∀ args', foldArguments args = .ok args' →
      ∀ s, P s → Follows lax (evaluateArguments args s) (evaluateArguments args' s)
  | [], _, args', h, s, _ => by
    rw [foldArguments] at h
    rw [← Except.ok.inj h]
    exact .refl _
  | a :: rest, he, args', h, s, hs => by
    rw [foldArguments] at h
    obtain ⟨a₁, ha, h⟩ := bind_eq_ok h
    obtain ⟨rest₁, hr, h⟩ := bind_eq_ok h
    rw [← Except.ok.inj h]
    refine follows_cons (foldConstants_follows hp hf a he.1 a₁ ha s hs) fun v s₁ hv => ?_
    have hs₁ := (hp.evaluate a he.1 s hs).1
    rw [hv] at hs₁
    exact foldArguments_follows hp hf rest he.2 rest₁ hr s₁ hs₁

end

/-! ## The table in place -/

end Expr

namespace Scope

/-- A write at the key reaches what `Math` stands for, or binds `Math` itself. -/
def Reaches (s : Scope) (key : String) : Prop :=
  s.resolve key = "Math" ∨ s.resolve key = s.resolve "Math"

/-- The table is found under `Math`, and writes at the keys with `T` do not reach it. -/
structure Guards (T : String → Prop) (s : Scope) : Prop where
  table : s.get? "Math" = some (.dict mathTable)
  apart : ∀ key, T key → ¬ s.Reaches key

/-- A write that does not reach the table keeps it out of reach. -/
theorem Guards.set {T : String → Prop} {s : Scope} {key : String} (h : s.Guards T) (hk : T key)
    (v : Value) : (s.set key v).Guards T := by
  have hr := h.apart key hk
  have hm : (s.set key v).resolve "Math" = s.resolve "Math" := by
    rw [resolve_set, if_neg fun he => hr (.inl he.symm)]
  refine ⟨?_, fun other ho hreach => ?_⟩
  · show (s.values.set (s.resolve key) v).get? ((s.set key v).resolve "Math") = _
    rw [hm, Entries.get?_set_of_ne fun he => hr (.inr he.symm)]
    exact h.table
  · unfold Reaches at hreach
    rw [hm, resolve_set] at hreach
    split at hreach
    · rename_i he
      rw [he] at hreach
      exact hr hreach
    · exact h.apart other ho hreach

end Scope

namespace Expr

/-- Assignments to texts have targets with `T`. -/
def AssignsTo (T : String → Prop) : Expr → Prop
  | assign (.text key) _ _ => T key
  | _ => True

/-- What writes at keys with `T` keep is kept by assignments to them. -/
theorem stable_assignsTo {T : String → Prop} {P : Scope → Prop}
    (hset : ∀ {s key} (v : Value), P s → T key → P (s.set key v))
    (hunnamed : ∀ {s} (key v : Value), P s → P (s.setUnnamed key v)) :
    Stable (AssignsTo T) (fun _ => True) P where
  literal _ _ _ := trivial
  var _ _ := trivial
  unary _ _ := trivial
  binary _ _ _ := trivial
  call _ _ _ _ := trivial
  bind {name e note} hp {s a s'} hs _ hb := by
    unfold bind at hb
    split at hb
    · rw [← Except.ok.inj hb]
      exact hset a hs hp
    · split at hb
      · rw [← Except.ok.inj hb]
        exact hunnamed _ a hs
      · cases hb

theorem stable_guards (T : String → Prop) :
    Stable (AssignsTo T) (fun _ => True) (Scope.Guards T) :=
  stable_assignsTo (fun v h hk => h.set hk v) fun _ _ h => ⟨h.table, h.apart⟩

mutual

/-- The texts that a tree assigns to. -/
def targets : Expr → List String
  | absent | var .. | literal .. => []
  | binary _ l r _ => l.targets ++ r.targets
  | unary _ e _ | group e _ => e.targets
  | call _ args _ => argumentTargets args
  | assign (.text key) e _ => key :: e.targets
  | assign _ e _ => e.targets

/-- The texts that arguments assign to. -/
def argumentTargets : List Expr → List String
  | [] => []
  | a :: rest => a.targets ++ argumentTargets rest

end

mutual

theorem every_assignsTo {T : String → Prop} : (e : Expr) → (∀ t ∈ e.targets, T t) →
    e.Every (AssignsTo T)
  | absent, _ | var .., _ | literal .., _ => trivial
  | binary _ l r _, h => by
    rw [targets, List.forall_mem_append] at h
    exact ⟨trivial, every_assignsTo l h.1, every_assignsTo r h.2⟩
  | unary _ e _, h | group e _, h => ⟨trivial, every_assignsTo e h⟩
  | call _ args _, h => ⟨trivial, everyArgument_assignsTo args h⟩
  | assign name e _, h => by
    cases name with
    | text key =>
      rw [targets, List.forall_mem_cons] at h
      exact ⟨h.1, every_assignsTo e h.2⟩
    | _ => exact ⟨trivial, every_assignsTo e h⟩

theorem everyArgument_assignsTo {T : String → Prop} : (args : List Expr) →
    (∀ t ∈ argumentTargets args, T t) → EveryArgument (AssignsTo T) args
  | [], _ => trivial
  | a :: rest, h => by
    rw [argumentTargets, List.forall_mem_append] at h
    exact ⟨every_assignsTo a h.1, everyArgument_assignsTo rest h.2⟩

end

/-- Folding is an exact simulation: where the table is found under `Math` and no
    assignment of the tree reaches it, the folded tree and the tree give the same
    value or the same error, and leave the same scope. -/
theorem foldConstants_evaluate {e e' : Expr} (h : e.foldConstants = .ok e') {s : Scope}
    (hs : s.get? "Math" = some (.dict mathTable)) (ht : ∀ key ∈ e.targets, ¬ s.Reaches key) :
    e'.evaluate s = e.evaluate s := by
  have hg : s.Guards (· ∈ e.targets) := ⟨hs, ht⟩
  have hf (s : Scope) (hs : s.Guards (· ∈ e.targets)) : FindsFunctions False s :=
    findsFunctions_of_get? hs.table
  exact (foldConstants_follows (stable_guards _) hf e (every_assignsTo e fun _ h => h) e' h s
    hg).eq

/-- The tree of `x = Math.abs(2 - 5)`. -/
def distance : Expr :=
  assign (.text "x") (call (.text "Math.abs")
    [binary (.text "-") (number (.int 2)) (number (.int 5)) none] none) none

theorem foldConstants_evaluate_distance :
    distance.foldConstants = .ok (assign (.text "x") (number (.int 3)) none) ∧
    Scope.empty.withTables.get? "Math" = some (.dict mathTable) ∧
    (∀ key ∈ distance.targets, ¬ Scope.empty.withTables.Reaches key) ∧
    (assign (.text "x") (number (.int 3)) none).evaluate Scope.empty.withTables =
      distance.evaluate Scope.empty.withTables := by
  have ht : ∀ key ∈ distance.targets, ¬ Scope.empty.withTables.Reaches key := by
    unfold Scope.Reaches
    decide
  exact ⟨rfl, rfl, ht, foldConstants_evaluate rfl rfl ht⟩

end Expr
end TokenFormula
