import TokenFormula.Proofs.Number.ReadBack
import TokenFormula.Proofs.Expr.Optimize
import TokenFormula.Proofs.Expr.ReadAs

/-!
# Reading a printed tree

The text of a tree that can be printed is read as the tree again, apart from
notes, parentheses and the signs of numbers. The induction is on the tree: each
construct is read at the level at which it is printed, which must be high enough
at its place. In a printable tree it is.

Results:
* `Readable`: a node whose text is read as the node.
* `exists_readableCode`: a tree of such nodes has a text, which is read as its
  core.
* `exists_code`: so has a tree that can be printed.
* `parse_render`: for the tree of a formula text and for the optimized tree.
-/

namespace TokenFormula.Expr

open Source (IsVariable IsDotted IsName leftLevel rightLevel)

/-- The level at which a tree is printed. -/
def printLevel : Expr → Nat
  | assign .. => 0
  | unary .. => 7
  | _ => 9

theorem seven_le_printLevel {e : Expr} (h : e.isAssign = false) : 7 ≤ e.printLevel := by
  cases e with
  | assign => cases h
  | _ => exact Nat.le_of_ble_eq_true rfl

theorem nine_le_printLevel {e : Expr} (h : e.isPrimary = true) : 9 ≤ e.printLevel := by
  cases e with
  | absent | binary | unary | assign => cases h
  | _ => exact Nat.le_refl 9

/-- Only the base of a power must be an operand in itself. -/
theorem leftLevel_le_printLevel {o : BinaryOp} {e : Expr} (hn : e.isAssign = false)
    (hp : o = .pow → 9 ≤ e.printLevel) : leftLevel o ≤ e.printLevel := by
  by_cases ho : o = .pow
  · subst ho
    exact hp rfl
  · refine Nat.le_trans ?_ (seven_le_printLevel hn)
    cases o <;> first | exact absurd rfl ho | decide

theorem rightLevel_le_printLevel (o : BinaryOp) {e : Expr} (hn : e.isAssign = false) :
    rightLevel o ≤ e.printLevel :=
  Nat.le_trans (Source.rightLevel_le o) (seven_le_printLevel hn)

/-! ## Readable trees -/

/-- The node is written in a way that is read as the node: each operand is printed
    at a level that its place allows. -/
def Readable : Expr → Prop
  | absent => False
  | binary op l r _ => ∃ o : BinaryOp, op = .text o.symbol ∧ leftLevel o ≤ l.printLevel ∧
    rightLevel o ≤ r.printLevel
  | unary op e _ => ∃ o : UnaryOp, op = .text o.symbol ∧ 7 ≤ e.printLevel
  | var name _ | assign name _ _ => ∃ s, name = .text s ∧ IsVariable s
  | literal v fallback _ => fallback = false ∧ ∃ w, v = some w ∧ IsWritten w
  | call name _ _ => ∃ s, name = .text s ∧ IsDotted s
  | group .. => True

theorem readable_of_printable {e : Expr} (h : Printable e) : Readable e := by
  cases e with
  | binary op l r note =>
    obtain ⟨o, rfl, hnl, hnr, hp⟩ := h
    exact ⟨o, rfl, leftLevel_le_printLevel hnl fun ho => nine_le_printLevel (hp ho),
      rightLevel_le_printLevel o hnr⟩
  | unary op e note =>
    obtain ⟨o, rfl, hn⟩ := h
    exact ⟨o, rfl, seven_le_printLevel hn⟩
  | _ => exact h

theorem isAbsent_of_readable {e : Expr} (h : Readable e) : e.isAbsent = false := by
  cases e with
  | absent => exact h.elim
  | _ => rfl

/-! ## Names -/

theorem isTruthy_symbol (o : BinaryOp) : (Value.text o.symbol).isTruthy = true := by
  cases o <;> rfl

theorem isTruthy_sign (o : UnaryOp) : (Value.text o.symbol).isTruthy = true := by
  cases o <;> rfl

theorem isTruthy_text {s : String} (h : s.toList ≠ []) : (Value.text s).isTruthy = true := by
  show (!s.isEmpty) = true
  simpa [String.isEmpty_iff] using h

theorem isTruthy_name {s : String} (h : IsName s) : (Value.text s).isTruthy = true := by
  obtain ⟨c, cs, hs, -⟩ := h
  exact isTruthy_text (by rw [hs]; exact List.cons_ne_nil c cs)

theorem isTruthy_dotted {s : String} (h : IsDotted s) : (Value.text s).isTruthy = true := by
  cases h with
  | name h => exact isTruthy_name h.1
  | member h hm => exact isTruthy_text (by simp [String.toList_append])

/-- A readable argument that is a variable has a text as its name. -/
theorem oddArgument?_of_readable {e : Expr} (h : Readable e) : e.oddArgument? = none := by
  cases e with
  | var name note =>
    obtain ⟨s, rfl, -⟩ := h
    rfl
  | _ => rfl

/-! ## Literals -/

theorem exists_numberCode {n : Number} (hn : n.isNormal = true) (hw : n.IsWritable) :
    ∃ s, numberCode n = .ok s ∧ ReadAs 9 s (number n).core := by
  cases hneg : n.isNegative with
  | false =>
    obtain ⟨cs, ht, hcs⟩ := Number.exists_numeral hn hw (Number.readsBack hn hw) hneg
    refine ⟨String.ofList cs, ?_, .of_number hcs⟩
    obtain ⟨d, ds, rfl, hd⟩ := hcs.start
    have hminus : (some d : Option Char) ≠ some '-' := by
      rintro h
      obtain rfl := Option.some.inj h
      cases hd
    rw [numberCode, ht]
    show Except.ok (if (String.ofList (d :: ds)).toList.head? = some '-' then _ else _) = _
    rw [String.toList_ofList, List.head?_cons, if_neg hminus]
  | true =>
    have hpos := Number.isNegative_negate hn hw hneg
    have hcore : unary (.text "-") (number n.negate).core none = (number n).core :=
      core_negate hneg hpos none
    rw [← hcore]
    have hn' : n.negate.isNormal = true := (Number.isNormal_negate n).trans hn
    have hw' := Number.isWritable_negate hw
    obtain ⟨cs, ht, hcs⟩ := Number.exists_numeral hn' hw' (Number.readsBack hn' hw') hpos
    obtain ⟨cs', ht', htext⟩ := Number.text_of_negative hn hw hneg
    obtain rfl : cs = cs' := by
      rw [ht] at ht'
      exact String.ofList_injective (Except.ok.inj ht')
    refine ⟨"(" ++ (UnaryOp.neg.symbol ++ String.ofList cs) ++ ")", ?_,
      .group (.mono (Nat.zero_le 7) (.unary (.mono (by decide) (.of_number hcs))))⟩
    have hs : String.ofList ('-' :: cs) = UnaryOp.neg.symbol ++ String.ofList cs := by
      apply String.toList_injective
      simp [UnaryOp.symbol]
    rw [numberCode, htext]
    show Except.ok (if (String.ofList ('-' :: cs)).toList.head? = some '-' then _ else _) = _
    rw [String.toList_ofList, List.head?_cons, if_pos rfl, hs]

theorem exists_valueCode {v : Value} {note : Option Note} (hv : IsWritten v) :
    ∃ s, valueCode v = .ok s ∧ ReadAs 9 s (literal (some v) false note).core := by
  cases v with
  | null => exact ⟨_, rfl, .of_keyword .null⟩
  | bool b =>
    cases b with
    | false => exact ⟨_, rfl, .of_keyword .false⟩
    | true => exact ⟨_, rfl, .of_keyword .true⟩
  | num n => exact exists_numberCode hv.1 hv.2
  | text s => exact ⟨_, rfl, .of_text s⟩
  | list | dict | function => exact hv.elim

/-! ## Trees -/

mutual

/-- A readable tree has a text, which is read as its core where the level at which it
    is printed is due. -/
theorem exists_readableCode : (e : Expr) → e.Every Readable →
    ∃ s, e.code = .ok s ∧ ReadAs e.printLevel s e.core
  | absent, he => he.elim
  | literal v fallback note, he => by
    obtain ⟨rfl, w, rfl, hw⟩ := he
    rw [code]
    exact exists_valueCode hw
  | var name note, he => by
    obtain ⟨s, rfl, hs⟩ := he
    refine ⟨s, ?_, .of_name hs⟩
    rw [code, isTruthy_name hs.1]
    rfl
  | group body note, he => by
    obtain ⟨s, hcode, hs⟩ := exists_readableCode body he.2
    refine ⟨"(" ++ s ++ ")", ?_, .group (hs.mono (Nat.zero_le _))⟩
    rw [code, isAbsent_of_readable he.2.root, hcode]
    rfl
  | unary op e note, he => by
    obtain ⟨⟨o, rfl, hlevel⟩, he⟩ := he
    obtain ⟨s, hcode, hs⟩ := exists_readableCode e he
    refine ⟨o.symbol ++ s, ?_, .unary (hs.mono hlevel)⟩
    rw [code, isAbsent_of_readable he.root, isTruthy_sign, hcode]
    rfl
  | binary op l r note, he => by
    obtain ⟨⟨o, rfl, hleft, hright⟩, hel, her⟩ := he
    obtain ⟨sl, hcl, hsl⟩ := exists_readableCode l hel
    obtain ⟨sr, hcr, hsr⟩ := exists_readableCode r her
    refine ⟨"(" ++ sl ++ " " ++ o.symbol ++ " " ++ sr ++ ")", ?_,
      .binary (hsl.mono hleft) (hsr.mono hright)⟩
    rw [code, isAbsent_of_readable hel.root, isAbsent_of_readable her.root, isTruthy_symbol, hcl,
      hcr]
    rfl
  | assign name e note, he => by
    obtain ⟨⟨n, rfl, hn⟩, he⟩ := he
    obtain ⟨s, hcode, hs⟩ := exists_readableCode e he
    refine ⟨n ++ " = " ++ s, ?_, .assign hn (hs.mono (Nat.zero_le _))⟩
    rw [code, isAbsent_of_readable he.root, isTruthy_name hn.1, hcode]
    rfl
  | call name args note, he => by
    obtain ⟨⟨s, rfl, hs⟩, he⟩ := he
    obtain ⟨ss, hcodes, hargs⟩ := exists_argumentCodes args he
    cases args with
    | nil =>
      obtain rfl : [] = ss := Except.ok.inj hcodes
      cases hc : isConstantName s with
      | true =>
        refine ⟨s, ?_, .of_constant hc⟩
        rw [code, isTruthy_dotted hs, hc]
        rfl
      | false =>
        refine ⟨callCode s [], ?_, .call hs .nil⟩
        rw [code, isTruthy_dotted hs, hc]
        rfl
    | cons a rest =>
      refine ⟨callCode s ss, ?_, .call hs hargs⟩
      have hodd := firstOdd?_eq_none
        (fun b hb => oddArgument?_of_readable (everyArgument_iff.mp he b hb).root) 0
      rw [code, isTruthy_dotted hs, hcodes, hodd]
      · rfl
      · exact List.cons_ne_nil a rest
      · exact fun _ _ => List.cons_ne_nil a rest

/-- The arguments have texts, which are read as their cores. -/
theorem exists_argumentCodes : (args : List Expr) → EveryArgument Readable args →
    ∃ ss, argumentCodes args = .ok ss ∧ List.Forall₂ (ReadAs 0) ss (coreArguments args)
  | [], _ => ⟨[], rfl, .nil⟩
  | a :: rest, he => by
    obtain ⟨s, hcode, hs⟩ := exists_readableCode a he.1
    obtain ⟨ss, hcodes, hss⟩ := exists_argumentCodes rest he.2
    refine ⟨s :: ss, ?_, .cons (hs.mono (Nat.zero_le _)) hss⟩
    rw [argumentCodes, hcode, hcodes]
    rfl

end

/-- A tree that can be printed has a text, which is read as its core. -/
theorem exists_code (e : Expr) (he : e.Every Printable) :
    ∃ s, e.code = .ok s ∧ ReadAs e.printLevel s e.core :=
  exists_readableCode e (every_mono (fun _ => readable_of_printable) e he)

/-- The root of a readable tree is written like every other node. -/
theorem render_readable {e : Expr} (he : Readable e) {s : String} (h : e.code = .ok s) :
    e.render = .ok (.text s) := by
  cases e with
  | var name note =>
    obtain ⟨n, rfl, hn⟩ := he
    have hcode : (var (.text n) note).code = .ok n := by
      rw [code, isTruthy_name hn.1]
      rfl
    obtain rfl : n = s := Except.ok.inj (hcode.symm.trans h)
    rw [render, isTruthy_name hn.1]
    rfl
  | absent => exact he.elim
  | binary | unary | literal | call | assign | group =>
    show (do return Value.text (← code _)) = _
    rw [h]
    rfl

theorem render_eq {e : Expr} (he : Printable e) {s : String} (h : e.code = .ok s) :
    e.render = .ok (.text s) :=
  render_readable (readable_of_printable he) h

/-- Let a text be read without error as a tree without fallbacks and with finite
    numbers only. The text of this tree, and of the optimized tree, is read without
    error as the same tree, apart from notes, parentheses and the signs of numbers.
    So it gives the same in every scope. -/
theorem parse_render {source : String} {maxRounds : Int} {u : Expr}
    (herr : (parse source).notedErrors = []) (hs : (parse source).Every Supported)
    (hu : u = parse source ∨ u = (parse source).optimize maxRounds) :
    ∃ text, u.render = .ok (.text text) ∧ (parse text).notedErrors = [] ∧
      (parse text).core = u.core ∧ ∀ s, (parse text).evaluate s = u.evaluate s := by
  have hparse := printable_parse herr hs
  have hprint : u.Every Printable := by
    obtain rfl | rfl := hu
    · exact hparse
    · exact printable_optimize maxRounds hparse
  obtain ⟨text, hcode, hread⟩ := exists_code u hprint
  obtain ⟨hnone, hcore⟩ := (hread.mono (Nat.zero_le _)).parse
  refine ⟨text, render_eq hprint.root hcode, hnone, hcore, fun s => ?_⟩
  calc (parse text).evaluate s = (parse text).core.evaluate s :=
        (evaluate_core (complete_parse text) s).symm
    _ = u.core.evaluate s := by rw [hcore]
    _ = u.evaluate s := evaluate_core (complete_of_printable hprint) s

/-- Folding makes the base of this power a negative literal, which is printed in
    parentheses. -/
theorem parse_render_negative_base :
    ∃ text, ((parse "(-2) ^ x - 0.5").optimize 8).render = .ok (.text text) ∧
      (parse text).notedErrors = [] ∧
      (parse text).core = ((parse "(-2) ^ x - 0.5").optimize 8).core ∧
      ∀ s, (parse text).evaluate s = ((parse "(-2) ^ x - 0.5").optimize 8).evaluate s := by
  have hplain : (parse "(-2) ^ x - 0.5").withNote none =
      binary (.text "-") (binary (.text "^")
        (group (unary (.text "-") (number (.int 2)) none) none) (var (.text "x") none) none)
        (number (.real 0.5)) none := rfl
  refine @parse_render "(-2) ^ x - 0.5" 8 _ rfl ?_ (.inr rfl)
  rw [← @every_withNote _ none supported_withNote, hplain]
  exact ⟨trivial, ⟨trivial, ⟨trivial, trivial, rfl, rfl⟩, trivial⟩, rfl, rfl⟩

end TokenFormula.Expr
