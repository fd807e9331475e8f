import TokenFormula.Builtin
import TokenFormula.Proofs.Sequence
import TokenFormula.Value.Text

/-!
# Faults of operations on values

What an operation on values can fail with. A text fails on digits only, an order
on types only, an operation on numbers with a fault of arithmetic, and a built-in
function with a fault of arithmetic or of types, whatever its arguments are.

Results:
* `Value.display_fault`, `Value.format_fault`: faults of texts.
* `Value.ordered_fault`: faults of the order.
* `Number.add_fault`, `Number.divide_fault`, …, `power_fault`: faults of numbers.
* `Builtin.apply_fault`: faults of the built-in functions.
-/

namespace TokenFormula

/-! ## Texts -/

namespace Number

theorem integerText_fault (n : Int) : FailsIn (· = .tooManyDigits none) (integerText n) := by
  unfold integerText
  by_cases h : n.natAbs < textLimit
  · rw [if_pos h]
    exact .ok _
  · rw [if_neg h]
    exact .error rfl

theorem display_fault (n : Number) : FailsIn (· = .tooManyDigits none) n.display := by
  cases n with
  | int k => exact integerText_fault k
  | real x => exact .ok _

theorem text_fault (n : Number) : FailsIn (· = .tooManyDigits none) n.text := by
  unfold text
  split
  · exact integerText_fault _
  · exact .ok _

end Number

namespace Value

mutual

theorem display_fault : (v : Value) → FailsIn (· = .tooManyDigits none) v.display
  | null | bool _ | text _ | function _ => by
    rw [display]
    exact .ok _
  | num n => by
    rw [display]
    exact n.display_fault
  | list items => by
    rw [display]
    exact (displayItems_fault items).bind fun _ => .ok _
  | dict entries => by
    rw [display]
    exact (displayEntries_fault entries).bind fun _ => .ok _

theorem displayItems_fault : (items : List Value) →
    FailsIn (· = .tooManyDigits none) (displayItems items)
  | [] => .ok _
  | v :: rest => by
    rw [displayItems]
    exact (display_fault v).bind fun _ => (displayItems_fault rest).bind fun _ => .ok _

theorem displayEntries_fault : (entries : List (String × Value)) →
    FailsIn (· = .tooManyDigits none) (displayEntries entries)
  | [] => .ok _
  | (_, v) :: rest => by
    rw [displayEntries]
    exact (display_fault v).bind fun _ => (displayEntries_fault rest).bind fun _ => .ok _

end

mutual

theorem format_fault : (v : Value) → FailsIn (· = .tooManyDigits none) v.format
  | null | bool _ | text _ | function _ => by
    rw [format]
    exact .ok _
  | num n => by
    rw [format]
    exact n.text_fault
  | list items => by
    rw [format]
    exact (formatItems_fault items).bind fun _ => .ok _
  | dict entries => by
    rw [format]
    exact display_fault (dict entries)

theorem formatItems_fault : (items : List Value) →
    FailsIn (· = .tooManyDigits none) (formatItems items)
  | [] => .ok _
  | v :: rest => by
    rw [formatItems]
    exact (format_fault v).bind fun _ => (formatItems_fault rest).bind fun _ => .ok _

end

/-! ## Order -/

mutual

/-- Values without an order fail for their types. -/
theorem ordered_fault (r : Relation) : (a b : Value) → FailsIn (·.family = .type) (ordered r a b)
  | list xs, b => by
    unfold ordered
    split
    · exact .ok _
    · rename_i h
      cases h
      exact orderedItems_fault r xs _
    · split
      · exact .ok _
      · exact .error rfl
  | text s, b => by
    unfold ordered
    split
    · exact .ok _
    · rename_i h
      cases h
    · split
      · exact .ok _
      · exact .error rfl
  | null, b | bool _, b | num _, b | dict _, b | function _, b => by
    unfold ordered
    split
    · exact .ok _
    · exact .error rfl

theorem orderedItems_fault (r : Relation) : (xs ys : List Value) →
    FailsIn (·.family = .type) (orderedItems r xs ys)
  | x :: xs, y :: ys => by
    rw [orderedItems]
    split
    · exact orderedItems_fault r xs ys
    · exact ordered_fault r x y
  | [], ys => .ok _
  | _ :: _, [] => .ok _

end

/-- Numbers always have an order. -/
theorem ordered_num (r : Relation) (m n : Number) :
    ordered r (num m) (num n) = .ok (r.holds (m.compare? n)) := by
  unfold ordered
  rfl

end Value

/-! ## Numbers -/

namespace Number

theorem toReal_fault (n : Number) : FailsIn (· = .integerTooLarge) n.toReal := by
  cases n with
  | real x => exact .ok x
  | int k =>
    unfold toReal
    dsimp only
    split
    · exact .ok _
    · exact .error rfl

/-- Two conversions before a result. -/
theorem toReal_bind_fault {α : Type} {p : Fault → Prop} (hp : p .integerTooLarge) (m n : Number)
    {k : Float → Float → Except Fault α} (hk : ∀ x y, FailsIn p (k x y)) :
    FailsIn p (do k (← m.toReal) (← n.toReal)) := by
  have hreal : ∀ n : Number, FailsIn p n.toReal := fun n =>
    n.toReal_fault.mono fun _ he => he ▸ hp
  exact (hreal m).bind fun x => (hreal n).bind fun y => hk x y

theorem arithmetic_fault (onInt : Int → Int → Int) (onReal : Float → Float → Float)
    (m n : Number) : FailsIn (·.isArithmetic) (arithmetic onInt onReal m n) := by
  unfold arithmetic
  split
  · exact .ok _
  · exact toReal_bind_fault (by rfl) m n fun _ _ => .ok _

theorem add_fault (m n : Number) : FailsIn (·.isArithmetic) (m.add n) :=
  arithmetic_fault _ _ m n

theorem sub_fault (m n : Number) : FailsIn (·.isArithmetic) (m.sub n) :=
  arithmetic_fault _ _ m n

theorem mul_fault (m n : Number) : FailsIn (·.isArithmetic) (m.mul n) :=
  arithmetic_fault _ _ m n

theorem divide_fault (m n : Number) : FailsIn (·.isArithmetic) (m.divide n) := by
  unfold divide
  split
  · split
    · exact .error rfl
    · split
      · exact .error rfl
      · exact .ok _
  · refine toReal_bind_fault (by rfl) m n fun x y => ?_
    split
    · exact .error rfl
    · exact .ok _

theorem remainder_fault (m n : Number) : FailsIn (·.isArithmetic) (m.remainder n) := by
  refine toReal_bind_fault (by rfl) m n fun x y => ?_
  split
  · exact .ok _
  · exact .error rfl

theorem integerPart_fault (f : Bool → Nat → Int → Int) (x : Float) :
    FailsIn (·.isArithmetic) (integerPart f x) := by
  unfold integerPart
  split
  · exact .error rfl
  · exact .error rfl
  · exact .ok _

theorem floor_fault (n : Number) : FailsIn (·.isArithmetic) n.floor := by
  cases n with
  | int k => exact .ok k
  | real x => exact integerPart_fault _ x

theorem ceil_fault (n : Number) : FailsIn (·.isArithmetic) n.ceil := by
  cases n with
  | int k => exact .ok k
  | real x => exact integerPart_fault _ x

theorem truncate_fault (n : Number) : FailsIn (·.isArithmetic) n.truncate := by
  cases n with
  | int k => exact .ok k
  | real x => exact integerPart_fault _ x

theorem round_fault (n : Number) : FailsIn (·.isArithmetic) n.round :=
  (n.toReal_fault.mono fun _ he => he ▸ rfl).bind fun _ => integerPart_fault _ _

end Number

/-! ## Powers -/

/-- A power fails where a conversion fails other than for size, where the stand-in
    of a large power fails, or where it leaves the real numbers. -/
theorem power_fault_of {p : Fault → Prop} {base exponent : Value}
    (hbase : FailsIn p base.convertToReal) (hexponent : FailsIn p exponent.convertToReal)
    (hlarge : FailsIn p (overflowedPower base exponent)) (hreal : p .notReal) :
    FailsIn p (power base exponent) := by
  have hconvert : FailsIn p (do
      let x ← base.convertToReal
      let y ← exponent.convertToReal
      return Double.power Float.pow x y : Except Fault Double.Power) :=
    hbase.bind fun _ => hexponent.bind fun _ => .ok _
  unfold power powerWith
  split
  · exact hlarge
  · rename_i he
    exact .error (hconvert _ he)
  · exact hlarge
  · exact .ok _
  · exact .error hreal
  · exact .ok _

/-- The only fault of a power of numbers. -/
theorem power_num_fault (m n : Number) : FailsIn (·.isArithmetic) (power (.num m) (.num n)) := by
  have hconvert : ∀ n : Number, FailsIn (·.isArithmetic) (Value.num n).convertToReal := fun n =>
    n.toReal_fault.mono fun _ he => he ▸ rfl
  refine power_fault_of (hconvert m) (hconvert n) ?_ rfl
  have hodd : FailsIn (·.isArithmetic) (hasOddExponent (.num n)) := by
    cases n with
    | real x => exact .ok _
    | int k => exact (Number.truncate_fault (.int k)).bind fun _ => .ok _
  refine hodd.bind fun _ => ?_
  rw [Value.int, Value.ordered_num]
  exact .ok _

namespace Fault

theorem isOfCall_of_isArithmetic (f : Fault) (h : f.isArithmetic = true) : f.isOfCall = true := by
  rw [isOfCall, h, Bool.true_or]

theorem isOfCall_of_type (f : Fault) (h : f.family = .type) : f.isOfCall = true := by
  rw [isOfCall, h]
  exact Bool.or_true _

end Fault

namespace Value

theorem toReal_fault (v : Value) : FailsIn (·.isOfCall) v.toReal := by
  unfold toReal
  split
  · exact (Number.toReal_fault _).mono fun _ he => he ▸ rfl
  · exact .error rfl

theorem convertToReal_fault (v : Value) : FailsIn (·.isOfCall) v.convertToReal := by
  unfold convertToReal
  split
  · split
    · exact .ok _
    · exact .error rfl
  · split
    · exact (Number.toReal_fault _).mono fun _ he => he ▸ rfl
    · exact .error rfl

theorem convertToInteger_fault (v : Value) : FailsIn (·.isOfCall) v.convertToInteger := by
  unfold convertToInteger
  split
  · split
    · exact .ok _
    · exact .error rfl
    · exact .error rfl
  · split
    · exact (Number.truncate_fault _).mono Fault.isOfCall_of_isArithmetic
    · exact .error rfl

end Value

theorem power_fault (base exponent : Value) : FailsIn (·.isOfCall) (power base exponent) := by
  refine power_fault_of base.convertToReal_fault exponent.convertToReal_fault ?_ rfl
  have hodd : FailsIn (·.isOfCall) (hasOddExponent exponent) := by
    unfold hasOddExponent
    split
    · exact .ok _
    · exact exponent.convertToInteger_fault.bind fun _ => .ok _
  exact hodd.bind fun _ =>
    ((Value.ordered_fault _ _ _).mono Fault.isOfCall_of_type).bind fun _ => .ok _

/-! ## Built-in functions -/

theorem roundHalfUp_fault (v : Value) : FailsIn (·.isOfCall) (roundHalfUp v) := by
  unfold roundHalfUp
  split
  · exact ((Number.round_fault _).mono Fault.isOfCall_of_isArithmetic).bind fun _ => .ok _
  · split <;> exact .error rfl

theorem realFunction_fault (f : Float → Float) (v : Value) :
    FailsIn (·.isOfCall) (realFunction f v) := by
  refine v.toReal_fault.bind fun x => ?_
  dsimp only
  split
  · exact .error rfl
  · exact .ok _

theorem saturating_fault (f : Float → Float) (v : Value) :
    FailsIn (·.isOfCall) (saturating f v) := by
  unfold saturating
  split
  · exact .ok _
  · exact .ok _
  · rename_i he
    exact .error (realFunction_fault f v _ he)

theorem naturalLog_fault (v : Value) : FailsIn (·.isOfCall) (naturalLog v) := by
  unfold naturalLog
  split
  · exact .error rfl
  · split
    · exact .ok _
    · exact .error rfl
  · split
    · exact .ok _
    · split
      · exact .error rfl
      · exact .ok _

theorem logToBase_fault (v base : Value) : FailsIn (·.isOfCall) (logToBase v base) :=
  (naturalLog_fault v).bind fun _ => (naturalLog_fault base).bind fun _ =>
    ((Number.divide_fault _ _).mono Fault.isOfCall_of_isArithmetic).bind fun _ => .ok _

theorem toNeighbour_fault {f : Number → Except Fault Int}
    (hf : ∀ n, FailsIn (·.isArithmetic) (f n)) (v : Value) :
    FailsIn (·.isOfCall) (toNeighbour f v) := by
  unfold toNeighbour
  split
  · exact ((hf _).mono Fault.isOfCall_of_isArithmetic).bind fun _ => .ok _
  · exact .error rfl

theorem best_fault (r : Value.Relation) (first : Value) (rest : List Value) :
    FailsIn (·.isOfCall) (best r first rest) := by
  unfold best
  induction rest generalizing first with
  | nil => exact .ok first
  | cons v rest ih =>
    rw [List.foldlM_cons]
    refine FailsIn.bind ?_ fun b => ih b
    exact ((Value.ordered_fault _ _ _).mono Fault.isOfCall_of_type).bind fun _ => .ok _

theorem Builtin.arityFault_eq (f : Builtin) (given : Nat) :
    ∃ cause, f.arityFault given = .arity cause := by
  have hcount : ∀ (callee : String) (parameters : List String), ∃ cause,
      (if given < parameters.length then
        Fault.arity (.missing callee (parameters.drop given))
      else .arity (.extra callee parameters.length given)) = .arity cause := by
    intro callee parameters
    split <;> exact ⟨_, rfl⟩
  cases f with
  | log | abs | floor | ceil | sin | cos | tan => exact ⟨_, rfl⟩
  | max => exact hcount "js_max" []
  | min => exact hcount "js_min" []
  | pow | round | sqrt | exp | isArray => exact hcount _ _

/-- A built-in function fails with a fault of arithmetic or of types. -/
theorem Builtin.apply_fault (f : Builtin) (args : List Value) :
    FailsIn (·.isOfCall) (f.apply args) := by
  unfold Builtin.apply
  split
  · exact .ok _
  · exact best_fault _ _ _
  · exact .ok _
  · exact best_fault _ _ _
  · exact power_fault _ _
  · split
    · exact .ok _
    · exact .error rfl
  · exact toNeighbour_fault Number.floor_fault _
  · exact toNeighbour_fault Number.ceil_fault _
  · exact roundHalfUp_fault _
  · exact saturating_fault _ _
  · exact saturating_fault _ _
  · exact realFunction_fault _ _
  · exact realFunction_fault _ _
  · exact realFunction_fault _ _
  · exact (naturalLog_fault _).bind fun _ => .ok _
  · exact logToBase_fault _ _
  · split <;> exact .ok _
  · obtain ⟨cause, hc⟩ := Builtin.arityFault_eq f args.length
    rw [hc]
    exact .error rfl

end TokenFormula
