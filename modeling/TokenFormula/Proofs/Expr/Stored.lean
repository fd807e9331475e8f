import TokenFormula.Proofs.Expr.Reparse
import TokenFormula.Proofs.Expr.Validate

/-!
# Printing stored trees

In a stored tree any node can stand at any place. Only binary operations and
negative numbers are printed in parentheses. So the text of an assignment can run
into what stands around it, and a sign before the base of a power is read as the
sign of the power. Every other valid tree has a text that is read as a tree with
the same value in every scope.

Results:
* `Stored`: what the parts of a stored tree hold, if they are there.
* `Faithful`: a node whose text keeps what the node says.
* `readable_of_stored`: such a node of a valid tree is read back.
* `parse_render_stored`: the text of a valid tree gives what the tree gives.
* `parse_render_signedBase`: what the text of a sign before the base of a power gives.
-/

namespace TokenFormula.Expr

open Source (Mark IsVariable IsDotted)

/-! ## Stored trees -/

/-- A value that a literal can write. -/
def IsScalar : Value → Prop
  | .null | .bool _ | .text _ => True
  | .num n => n.isFinite = true
  | _ => False

/-- The grammar has the operator and the name of the node, if they are there, and
    can write the value. -/
def Stored : Expr → Prop
  | absent | group .. => True
  | binary op _ _ _ => op.isTruthy = true →
    ∃ m : Mark, m.binary?.isSome = true ∧ op = .text m.spelling
  | unary op _ _ => op.isTruthy = true →
    ∃ m : Mark, m.unary?.isSome = true ∧ op = .text m.spelling
  | var name _ | assign name _ _ => name.isTruthy = true → ∃ s, name = .text s ∧ IsVariable s
  | call name _ _ => name.isTruthy = true → ∃ s, name = .text s ∧ IsDotted s
  | literal v fallback _ => fallback = false ∧ ∀ w, v = some w → IsScalar w

/-- An operation with one operand. -/
def isUnary : Expr → Bool
  | unary .. => true
  | _ => false

/-- The text of the node keeps what the node says: no operand is an assignment, the
    base of a power is no unary operation, and a number has a text that is not that
    of another one. The second spelling of the power is read as the first, and only
    the first has a value. -/
def Faithful : Expr → Prop
  | binary op l r _ => l.isAssign = false ∧ r.isAssign = false ∧
    (op = .text BinaryOp.pow.symbol → l.isUnary = false) ∧ op ≠ .text Mark.doubleStar.spelling
  | unary _ e _ => e.isAssign = false
  | literal (some (.num n)) _ _ => n.isNormal = true ∧ ∃ s, n.text = .ok s
  | _ => True

theorem spelling_of_binary? {m : Mark} {o : BinaryOp} (h : m.binary? = some o)
    (hm : m ≠ .doubleStar) : m.spelling = o.symbol := by
  cases m with
  | doubleStar => exact absurd rfl hm
  | _ => cases h <;> rfl

theorem spelling_of_unary? {m : Mark} {o : UnaryOp} (h : m.unary? = some o) :
    m.spelling = o.symbol := by
  cases m <;> cases h <;> rfl

theorem nine_le_printLevel_of {e : Expr} (ha : e.isAssign = false) (hu : e.isUnary = false) :
    9 ≤ e.printLevel := by
  cases e with
  | assign => cases ha
  | unary => cases hu
  | _ => exact Nat.le_refl 9

theorem isWritable_of_text {n : Number} {s : String} (hf : n.isFinite = true)
    (h : n.text = .ok s) : n.IsWritable := by
  cases n with
  | real x => exact hf
  | int k =>
    change Number.integerText k = .ok s at h
    unfold Number.integerText at h
    split at h
    · assumption
    · cases h

theorem isWritten_of_faithful {v : Value} {fallback : Bool} {note : Option Note} (hs : IsScalar v)
    (hf : Faithful (literal (some v) fallback note)) : IsWritten v := by
  cases v with
  | null | bool | text => trivial
  | num n =>
    obtain ⟨hn, s, ht⟩ := hf
    exact ⟨hn, isWritable_of_text hs ht⟩
  | list | dict | function => exact hs

/-- A node of a stored tree is read back if it has its parts and its text keeps what
    it says. -/
theorem readable_of_stored {e : Expr} (hw : Whole e) (hs : Stored e) (hf : Faithful e) :
    Readable e := by
  cases e with
  | absent => exact not_whole_absent hw
  | group => trivial
  | var name note => exact hs (whole_var.mp hw)
  | assign name e note => exact hs (whole_assign.mp hw).1
  | call name args note => exact hs (whole_call.mp hw).1
  | literal v fallback note =>
    obtain ⟨w, rfl⟩ := Option.isSome_iff_exists.mp (whole_literal.mp hw)
    exact ⟨hs.1, w, rfl, isWritten_of_faithful (hs.2 w rfl) hf⟩
  | unary op e note =>
    obtain ⟨m, hm, rfl⟩ := hs (whole_unary.mp hw).2
    obtain ⟨o, ho⟩ := Option.isSome_iff_exists.mp hm
    exact ⟨o, congrArg Value.text (spelling_of_unary? ho), seven_le_printLevel hf⟩
  | binary op l r note =>
    obtain ⟨m, hm, rfl⟩ := hs (whole_binary.mp hw).2
    obtain ⟨o, ho⟩ := Option.isSome_iff_exists.mp hm
    obtain ⟨hnl, hnr, hp, hstar⟩ := hf
    have hsymbol : Value.text m.spelling = .text o.symbol :=
      congrArg Value.text (spelling_of_binary? ho fun h => hstar (by rw [h]))
    refine ⟨o, hsymbol, leftLevel_le_printLevel hnl ?_, rightLevel_le_printLevel o hnr⟩
    rintro rfl
    exact nine_le_printLevel_of hnl (hp hsymbol)

/-! ## Reading back -/

theorem complete_of_readable {e : Expr} (he : e.Every Readable) : e.Every Complete := by
  refine every_mono (fun e h => ?_) e he
  cases e with
  | absent => exact h.elim
  | literal v fallback note =>
    obtain ⟨rfl, w, rfl, hw⟩ := h
    exact complete_of_isWritten hw
  | _ => exact ⟨rfl, trivial⟩

/-- A text that is read as the core of a tree without missing parts gives what the
    tree gives. -/
theorem evaluate_of_readAs {level : Nat} {text : String} {e : Expr} (h : ReadAs level text e.core)
    (he : e.Every Complete) (s : Scope) : (parse text).evaluate s = e.evaluate s := by
  obtain ⟨-, hcore⟩ := (h.mono (Nat.zero_le level)).parse
  calc (parse text).evaluate s = (parse text).core.evaluate s :=
        (evaluate_core (complete_parse text) s).symm
    _ = e.core.evaluate s := by rw [hcore]
    _ = e.evaluate s := evaluate_core he s

/-! ## Valid trees -/

/-- Let a stored tree be valid, its operators and names in the grammar, its literals
    scalars with finite numbers, and each node faithful. Then it has a text, which is
    read without error as a tree that gives the same in every scope. -/
theorem parse_render_stored {e : Expr} {v : Validator} {fs : List Finding}
    (hs : e.Every Stored) (hv : v.validate e = .ok fs) (hvalid : Findings.valid fs = true)
    (hf : e.Every Faithful) :
    ∃ text, e.render = .ok (.text text) ∧ (parse text).notedErrors = [] ∧
      ∀ s, (parse text).evaluate s = e.evaluate s := by
  have hwhole := ((valid_iff hv).mp hvalid).2
  have hread : e.Every Readable :=
    every_mono (fun _ h => readable_of_stored h.1 h.2.1 h.2.2) e
      (every_and hwhole (every_and hs hf))
  obtain ⟨text, hcode, has⟩ := exists_readableCode e hread
  exact ⟨text, render_readable hread.root hcode, (has.mono (Nat.zero_le _)).parse.1,
    evaluate_of_readAs has (complete_of_readable hread)⟩

/-- The base of this power is a sum, and its exponent a negative number; no formula
    text is read as this tree. -/
theorem parse_render_stored_sum :
    ∃ text, (binary (.text "^") (binary (.text "+") (var (.text "x") none)
          (number (.int (-2))) none) (number (.int (-3))) none).render = .ok (.text text) ∧
      (parse text).notedErrors = [] ∧
      ∀ s, (parse text).evaluate s = (binary (.text "^") (binary (.text "+") (var (.text "x") none)
          (number (.int (-2))) none) (number (.int (-3))) none).evaluate s := by
  have hx : IsVariable "x" := ⟨Source.isName_of_all rfl rfl rfl, rfl⟩
  have hscalar (k : Int) : Stored (number (.int k)) :=
    ⟨rfl, fun w hw => by cases hw; rfl⟩
  have htext (k : Int) (hk : k.natAbs < Number.safeLimit.natAbs) : Faithful (number (.int k)) :=
    ⟨rfl, _, Number.text_int (Number.safeLimit_lt_textLimit hk)⟩
  refine @parse_render_stored _ ⟨["x"], "", 100⟩ [] ?_ rfl rfl ?_
  · exact ⟨fun _ => ⟨.caret, rfl, rfl⟩,
      ⟨fun _ => ⟨.plus, rfl, rfl⟩, fun _ => ⟨"x", rfl, hx⟩, hscalar _⟩, hscalar _⟩
  · have hstar {t : String} (h : t ≠ "**") : Value.text t ≠ .text "**" :=
      fun he => h (Value.text.inj he)
    exact ⟨⟨rfl, rfl, fun _ => rfl, hstar (by decide)⟩,
      ⟨⟨rfl, rfl, fun _ => rfl, hstar (by decide)⟩, trivial, htext (-2) (by decide)⟩,
      htext (-3) (by decide)⟩

/-! ## A sign before the base of a power -/

/-- The text of a power whose base is a unary operation is read as the operation on
    the power. -/
theorem parse_render_signedBase {a b : Expr} {o : UnaryOp} {note note' : Option Note}
    (ha : a.Every Readable) (hlevel : 9 ≤ a.printLevel) (hb : b.Every Readable)
    (hn : b.isAssign = false) :
    ∃ text, (binary (.text BinaryOp.pow.symbol) (unary (.text o.symbol) a note) b note').render =
        .ok (.text text) ∧ (parse text).notedErrors = [] ∧
      ∀ s, (parse text).evaluate s =
        (unary (.text o.symbol) (binary (.text BinaryOp.pow.symbol) a b none) none).evaluate s := by
  obtain ⟨sa, hca, hsa⟩ := exists_readableCode a ha
  obtain ⟨sb, hcb, hsb⟩ := exists_readableCode b hb
  have hright := rightLevel_le_printLevel .pow hn
  have hcaret : Source.Joins .power .primary (Source.markOf .pow) .pow .unary := .caret
  have hpower := ReadAs.operation hcaret (hsa.mono hlevel) (hsb.mono hright)
  have hread : (unary (.text o.symbol) (binary (.text BinaryOp.pow.symbol) a b none) none).Every
      Readable :=
    ⟨⟨o, rfl, Nat.le_of_ble_eq_true rfl⟩, ⟨.pow, rfl, hlevel, hright⟩, ha, hb⟩
  have hgroup : ReadAs 9
      ("(" ++ (o.symbol ++ (sa ++ " " ++ BinaryOp.pow.symbol ++ " " ++ sb)) ++ ")")
      (unary (.text o.symbol) (binary (.text BinaryOp.pow.symbol) a b none) none).core :=
    .group ((ReadAs.unary hpower).mono (Nat.zero_le 7))
  refine ⟨_, ?_, (hgroup.mono (Nat.zero_le 9)).parse.1,
    evaluate_of_readAs hgroup (complete_of_readable hread)⟩
  have hunary : (unary (.text o.symbol) a note).code = .ok (o.symbol ++ sa) := by
    rw [code, isAbsent_of_readable ha.root, isTruthy_sign, hca]
    rfl
  have hcode : (binary (.text BinaryOp.pow.symbol) (unary (.text o.symbol) a note) b note').code =
      .ok ("(" ++ (o.symbol ++ (sa ++ " " ++ BinaryOp.pow.symbol ++ " " ++ sb)) ++ ")") := by
    rw [code, isAbsent_of_readable hb.root, isTruthy_symbol, hunary, hcb]
    show Except.ok ("(" ++ (o.symbol ++ sa) ++ " " ++ BinaryOp.pow.symbol ++ " " ++ sb ++ ")") = _
    simp only [String.append_assoc]
  show (do return Value.text (← code _)) = _
  rw [hcode]
  rfl

/-- A sign before the base of a power: the tree has the value `1`, and its text
    `(-2 ^ 0)` the value `-1`. -/
theorem not_parse_render_stored :
    ¬ ∀ (e : Expr) (v : Validator) (fs : List Finding), e.Every Stored → v.validate e = .ok fs →
      Findings.valid fs = true →
      ∃ text, e.render = .ok (.text text) ∧ (parse text).notedErrors = [] ∧
        ∀ s, (parse text).evaluate s = e.evaluate s := by
  intro h
  have hscalar (k : Int) : Stored (number (.int k)) := ⟨rfl, fun w hw => by cases hw; rfl⟩
  have hread (k : Int) (hk : k.natAbs < Number.safeLimit.natAbs) : Readable (number (.int k)) :=
    readable_of_printable (printable_number rfl (Number.safeLimit_lt_textLimit hk))
  obtain ⟨text, htext, -, heval⟩ := h
    (binary (.text "^") (unary (.text "-") (number (.int 2)) none) (number (.int 0)) none)
    ⟨[], "", 100⟩ []
    ⟨fun _ => ⟨.caret, rfl, rfl⟩, ⟨fun _ => ⟨.minus, rfl, rfl⟩, hscalar 2⟩, hscalar 0⟩ rfl rfl
  obtain ⟨text', htext', -, heval'⟩ := @parse_render_signedBase (number (.int 2)) (number (.int 0))
    .neg none none (hread 2 (by decide)) (Nat.le_refl 9) (hread 0 (by decide)) rfl
  obtain rfl : text = text' := Value.text.inj (Except.ok.inj (htext.symm.trans htext'))
  have hvalues := congrArg Prod.fst ((heval .empty).symm.trans (heval' .empty))
  change Except.ok (Value.num (.int 1)) = Except.ok (Value.num (.int (-1))) at hvalues
  cases hvalues

end TokenFormula.Expr
