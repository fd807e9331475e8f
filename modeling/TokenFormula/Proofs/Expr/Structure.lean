import TokenFormula.Expr.Print
import TokenFormula.Proofs.Expr.Reported
import TokenFormula.Proofs.Expr.Validate

/-!
# What lacks a part

Validation goes on past a missing part, printing stops at the first one, and an
evaluation may not come to it. They agree on what a part is: a tree has a text
just where validation finds nothing missing, and then no evaluation meets a
missing part.

Results:
* `code_succeedsIff`: a tree has a text just where every node is whole.
* `evaluate_of_whole`: an evaluation of such a tree does not fail for a missing part.
* `validate_withNote`: the note at the root adds findings of its own only.
* `structure_agrees`: validation, printing and evaluation agree.
-/

namespace TokenFormula

/-- The error is one of the printer, not the fault of a name or value. -/
def PrintError.isOwn : PrintError → Bool
  | fault _ => false
  | _ => true

/-- An evaluation has met a place where a part is missing. -/
def EvalError.lacksPart : EvalError → Bool
  | missingNode | missingValue | missingVariableName | incompleteBinary | incompleteUnary
  | missingAssignmentName | missingFunctionName => true
  | _ => false

theorem head?_toList_append {s : String} (t : String) {c : Char} (h : s.toList.head? = some c) :
    (s ++ t).toList.head? = some c := by
  rw [String.toList_append, List.head?_append, h]
  rfl

/-- The text of an error that lacks no part starts with another letter. -/
theorem EvalError.exists_head?_message {err : EvalError} (h : err.lacksPart = false)
    (hr : err.IsReported ∨ err = .escaped (.tooManyDigits none)) :
    ∃ c, err.message.toList.head? = some c ∧ c ≠ 'I' := by
  have happend {s : String} (t : String) {c : Char} := @head?_toList_append s t c
  cases err with
  | unsupportedConstruct | unsupportedOperator | unsupportedUnary =>
    exact ⟨'U', happend _ rfl, by decide⟩
  | undefined | notFunction => exact ⟨_, happend _ (happend _ rfl), by decide⟩
  | expectsNumbers => exact ⟨'O', happend _ (happend _ (happend _ rfl)), by decide⟩
  | incomparable =>
    exact ⟨'C', happend _ (happend _ (happend _ (happend _ (happend _ (happend _ rfl))))),
      by decide⟩
  | divisionByZero => exact ⟨'D', rfl, by decide⟩
  | moduloByZero => exact ⟨'M', rfl, by decide⟩
  | arithmetic => exact ⟨'A', happend _ (happend _ (happend _ rfl)), by decide⟩
  | failedCall => exact ⟨'E', happend _ (happend _ (happend _ rfl)), by decide⟩
  | escaped cause =>
    obtain rfl : cause = .tooManyDigits none := by
      obtain h | h := hr
      · exact h.elim
      · exact EvalError.escaped.inj h
    exact ⟨'E', happend _ (happend _ rfl), by decide⟩
  | _ => cases h

/-- Only where a part is missing does an error say that something is invalid. -/
theorem EvalError.message_of_not_lacksPart {err : EvalError} (h : err.lacksPart = false)
    (hr : err.IsReported ∨ err = .escaped (.tooManyDigits none)) :
    ¬ "Invalid ".toList <+: err.message.toList := by
  rintro ⟨rest, hrest⟩
  obtain ⟨c, hhead, hc⟩ := EvalError.exists_head?_message h hr
  rw [← hrest] at hhead
  exact hc (Option.some.inj hhead).symm

namespace Expr

/-! ## Printing -/

/-- No integer in the literal's value has too many digits to be written. -/
def LiteralShown : Expr → Prop
  | literal (some v) _ _ => v.HasText
  | _ => True

theorem exists_text_of_isName {v : Value} (h : IsName v) (ht : v.isTruthy = true) :
    ∃ s, v = .text s := by
  cases v with
  | text s => exact ⟨s, rfl⟩
  | null => cases ht
  | _ => exact h.elim

theorem exists_valueCode_of_hasText {v : Value} (h : v.HasText) : ∃ s, valueCode v = .ok s := by
  cases v with
  | null | bool | text | function => exact ⟨_, rfl⟩
  | num n =>
    obtain ⟨s, hs⟩ := n.exists_text_iff.mpr (by rwa [Value.HasText] at h)
    exact ⟨_, by rw [valueCode, numberCode, hs]; rfl⟩
  | list | dict =>
    obtain ⟨s, hs⟩ := (Value.exists_display_iff _).mpr h
    refine ⟨Source.quote s, ?_⟩
    show (do return Source.quote (← (Value.display _).mapError PrintError.fault)) = _
    rw [hs]
    rfl

theorem plainCode_succeeds {p : PrintError → Prop} {v : Value} (h : IsName v)
    (ht : v.isTruthy = true) : SucceedsIff p True (plainCode v) := by
  obtain ⟨s, rfl⟩ := exists_text_of_isName h ht
  exact .of_eq_ok rfl

/-- An argument whose name is missing is found when its own text is asked for. -/
theorem oddArgument?_of_whole {e : Expr} (hn : Named e) (hw : Whole e) :
    e.oddArgument? = none := by
  cases e with
  | var name note =>
    obtain ⟨s, rfl⟩ := exists_text_of_isName hn (whole_var.mp hw)
    rfl
  | _ => rfl

/-- A call with a name gives a text if its arguments do. -/
theorem code_call_succeedsIff {p : PrintError → Prop} {s : String} {args : List Expr}
    {note : Option Note} (hs : (Value.text s).isTruthy = true) (hn : EveryArgument Named args)
    (h : SucceedsIff p (EveryArgument Whole args) (argumentCodes args)) :
    SucceedsIff p (EveryArgument Whole args) (call (.text s) args note).code := by
  cases args with
  | nil =>
    rw [code, hs]
    exact trivial
  | cons a rest =>
    cases hcodes : argumentCodes (a :: rest) with
    | error e =>
      rw [hcodes] at h
      rw [code, hs, hcodes]
      · exact h
      · exact List.cons_ne_nil a rest
      · exact fun _ _ => List.cons_ne_nil a rest
    | ok codes =>
      rw [hcodes] at h
      have hodd := firstOdd?_eq_none (fun b hb => oddArgument?_of_whole
        (everyArgument_iff.mp hn b hb).root (everyArgument_iff.mp h b hb).root) 0
      rw [code, hs, hcodes, hodd]
      · exact h
      · exact List.cons_ne_nil a rest
      · exact fun _ _ => List.cons_ne_nil a rest

mutual

/-- A tree has a text just where every node is whole, and otherwise the printer says what
    is missing. -/
theorem code_succeedsIff : (e : Expr) → e.Every Named → e.Every LiteralShown →
    SucceedsIff (·.isOwn = true) (e.Every Whole) e.code
  | absent, _, _ => ⟨not_whole_absent, rfl⟩
  | literal none fallback note, _, _ => ⟨fun h => Bool.false_ne_true (whole_literal.mp h), rfl⟩
  | literal (some v) fallback note, _, hs => by
    obtain ⟨s, hcode⟩ := exists_valueCode_of_hasText hs
    rw [code, hcode]
    exact whole_literal.mpr rfl
  | var name note, hn, _ => by
    rw [code]
    split
    · rename_i hname
      exact (plainCode_succeeds hn hname).congr (iff_of_true trivial (whole_var.mpr hname))
    · rename_i hname
      exact ⟨fun h => hname (whole_var.mp h), rfl⟩
  | group body note, hn, hs => by
    rw [code]
    exact (SucceedsIff.guard (by rfl) fun _ => (code_succeedsIff body hn.2 hs.2).map).congr
      (and_congr_left' whole_group.symm)
  | unary op e note, hn, hs => by
    have hw : (e.isAbsent || !op.isTruthy) = false ↔ Whole (unary op e note) := by
      rw [whole_unary, Bool.or_eq_false_iff, Bool.not_eq_false']
    rw [code]
    refine (SucceedsIff.guard (by rfl) fun hc => (plainCode_succeeds hn.1
      (whole_unary.mp (hw.mp hc)).2).bind fun _ _ => (code_succeedsIff e hn.2 hs.2).map).congr ?_
    rw [true_and]
    exact and_congr_left' hw
  | binary op l r note, hn, hs => by
    have hw : (l.isAbsent || r.isAbsent || !op.isTruthy) = false ↔ Whole (binary op l r note) := by
      rw [whole_binary, Bool.or_eq_false_iff, Bool.or_eq_false_iff, Bool.not_eq_false']
    rw [code]
    refine (SucceedsIff.guard (by rfl) fun hc => (code_succeedsIff l hn.2.1 hs.2.1).bind fun _ _ =>
      (plainCode_succeeds hn.1 (whole_binary.mp (hw.mp hc)).2).bind fun _ _ =>
        (code_succeedsIff r hn.2.2 hs.2.2).map).congr ?_
    rw [true_and]
    exact and_congr_left' hw
  | assign name e note, hn, hs => by
    have hw : (!name.isTruthy || e.isAbsent) = false ↔ Whole (assign name e note) := by
      rw [whole_assign, Bool.or_eq_false_iff, Bool.not_eq_false']
    rw [code]
    refine (SucceedsIff.guard (by rfl) fun hc => (plainCode_succeeds hn.1
      (whole_assign.mp (hw.mp hc)).1).bind fun _ _ => (code_succeedsIff e hn.2 hs.2).map).congr ?_
    rw [true_and]
    exact and_congr_left' hw
  | call name args note, hn, hs => by
    cases hname : name.isTruthy with
    | false =>
      have hcode : (call name args note).code = .error .missingFunctionName := by
        unfold code
        rw [hname]
        rfl
      rw [hcode]
      refine ⟨fun h => ?_, rfl⟩
      rw [(whole_call.mp h.1).1] at hname
      cases hname
    | true =>
      obtain ⟨s, rfl⟩ := exists_text_of_isName hn.1 hname
      refine (code_call_succeedsIff hname hn.2 (argumentCodes_succeedsIff args hn.2 hs.2)).congr
        (and_iff_right_of_imp fun h => whole_call.mpr ⟨hname, ?_⟩).symm
      rw [List.any_eq_false]
      intro a ha
      rw [(everyArgument_iff.mp h a ha).root.1]
      exact Bool.false_ne_true

/-- Arguments have texts just where every node in them is whole. -/
theorem argumentCodes_succeedsIff : (args : List Expr) → EveryArgument Named args →
    EveryArgument LiteralShown args →
    SucceedsIff (·.isOwn = true) (EveryArgument Whole args) (argumentCodes args)
  | [], _, _ => trivial
  | a :: rest, hn, hs => by
    rw [argumentCodes]
    exact (code_succeedsIff a hn.1 hs.1).bind fun _ _ =>
      (argumentCodes_succeedsIff rest hn.2 hs.2).map

end

/-- Where names are texts or missing, the root is written like every other node. -/
theorem render_of_named {e : Expr} (hn : Named e) :
    e.render = (do return .text (← e.code)) := by
  cases e with
  | var name note =>
    rw [render]
    split
    · rename_i hname
      obtain ⟨s, rfl⟩ := exists_text_of_isName hn hname
      rw [code, if_pos hname]
      rfl
    · rfl
  | absent | binary | unary | literal | call | assign | group => rfl

/-! ## Evaluation -/

/-- The failure is not a missing part. -/
def HasParts (err : EvalError) : Prop :=
  err.lacksPart = false

theorem hasParts_of_isOfOperands {err : EvalError} (h : err.IsOfOperands) : HasParts err := by
  cases err with
  | expectsNumbers | incomparable | divisionByZero | moduloByZero | arithmetic => rfl
  | _ => exact h.elim

theorem shown_hasParts (v : Value) : FailsIn HasParts (shown v) :=
  FailsIn.mapError (fun _ _ => trivial : FailsIn (fun _ => True) v.plain) fun _ _ => rfl

theorem literalValue_hasParts (v : Value) (fallback : Bool) :
    FailsIn HasParts (literalValue (some v) fallback) := by
  unfold literalValue
  split
  · exact (shown_hasParts _).bind fun _ => .error rfl
  · exact .ok v

theorem variableValue_hasParts {name : Value} (h : name.isTruthy = true) (s : Scope) :
    FailsIn HasParts (variableValue s name) := by
  unfold variableValue
  rw [h]
  split
  · contradiction
  · split
    · split
      · exact .ok _
      · exact .error rfl
    · exact (shown_hasParts _).bind fun _ => .error rfl

theorem operatorOf_hasParts (op : Value) : FailsIn HasParts (operatorOf op) := by
  unfold operatorOf
  split
  · split
    · exact .ok _
    · exact .error rfl
  · split
    · exact (shown_hasParts _).bind fun _ => .error rfl
    · exact .error rfl

theorem unaryValue_hasParts (op v : Value) : FailsIn HasParts (unaryValue op v) := by
  unfold unaryValue
  split
  · split
    · exact (applyUnary_ofOperands _ v).mono fun _ => hasParts_of_isOfOperands
    · exact .error rfl
  · exact (shown_hasParts _).bind fun _ => .error rfl

theorem bind_hasParts (name v : Value) (s : Scope) : FailsIn HasParts (bind name v s) := by
  unfold bind
  split
  · exact .ok _
  · split
    · exact .ok _
    · exact .error rfl

theorem calleeName_hasParts {name : Value} (h : name.isTruthy = true) :
    FailsIn HasParts (calleeName name) := by
  unfold calleeName
  rw [h]
  split
  · contradiction
  · split
    · exact .ok _
    · exact .error rfl

theorem target_hasParts (s : Scope) (dotted : String) : FailsIn HasParts (target s dotted) := by
  unfold target
  split
  · exact .error rfl
  · split
    · exact .error rfl
    · split
      · exact .ok _
      · exact .error rfl

theorem callValue_hasParts (dotted : String) (f : Value) (args : List Value) :
    FailsIn HasParts (callValue dotted f args) := by
  unfold callValue
  split
  · split
    · exact .ok _
    · split <;> exact .error rfl
  · split
    · exact .ok _
    · exact .error rfl

/-- A whole node does not itself fail for a missing part. -/
theorem ownFails_of_whole {e : Expr} (h : Whole e) : OwnFails HasParts e := by
  cases e with
  | absent => exact (not_whole_absent h).elim
  | literal v fallback note =>
    obtain ⟨w, rfl⟩ := Option.isSome_iff_exists.mp (whole_literal.mp h)
    exact literalValue_hasParts w fallback
  | var name note => exact variableValue_hasParts (whole_var.mp h)
  | group body note => trivial
  | unary op e note =>
    obtain ⟨he, hop⟩ := whole_unary.mp h
    refine ⟨fun hc => ?_, unaryValue_hasParts op⟩
    rw [he, hop] at hc
    cases hc
  | binary op l r note =>
    obtain ⟨⟨hl, hr⟩, hop⟩ := whole_binary.mp h
    refine ⟨fun hc => ?_, operatorOf_hasParts op, fun o a b =>
      (combine_ofOperands o a b).mono fun _ => hasParts_of_isOfOperands⟩
    rw [hl, hr, hop] at hc
    cases hc
  | assign name e note =>
    refine ⟨fun hc => ?_, fun _ => bind_hasParts name⟩
    rw [(whole_assign.mp h).1] at hc
    cases hc
  | call name args note =>
    exact ⟨calleeName_hasParts (whole_call.mp h).1, target_hasParts, callValue_hasParts⟩

/-- Where every node is whole, no evaluation fails for a missing part. -/
theorem evaluate_of_whole {e : Expr} (h : e.Every Whole) (s : Scope) :
    FailsIn HasParts (e.evaluate s).1 :=
  fails_evaluate e (every_mono (fun _ => ownFails_of_whole) e h) s

/-! ## Validation -/

theorem named_withNote {note : Option Note} (e : Expr) : Named (e.withNote note) ↔ Named e := by
  cases e <;> exact .rfl

theorem variableNamed_of_named {e : Expr} (h : Named e) : VariableNamed e := by
  cases e with
  | var name note => exact exists_text_of_isName h
  | _ => trivial

theorem whole_withNote {note : Option Note} (e : Expr) : Whole (e.withNote note) ↔ Whole e := by
  cases e <;> exact .rfl

theorem structureFindings_withNote (e : Expr) (note : Option Note) :
    (e.withNote note).structureFindings = e.structureFindings := by
  cases e <;> rfl

theorem divisionWarning_withNote (e : Expr) (note : Option Note) :
    (e.withNote note).divisionWarning = e.divisionWarning := by
  cases e with
  | binary op l r note' =>
    by_cases hop : op = .text "/"
    · subst hop
      rfl
    · rw [withNote, divisionWarning.eq_2 _ fun _ _ _ h => hop (by injection h),
        divisionWarning.eq_2 _ fun _ _ _ h => hop (by injection h)]
  | _ => rfl

theorem warnings_withNote (v : Validator) (e : Expr) (note : Option Note) :
    (e.withNote note).warnings v = e.warnings v := by
  rw [warnings, divisionWarning_withNote]
  cases e with
  | literal w fallback note' => cases fallback <;> rfl
  | _ => rfl

theorem warningFindings_withNote (v : Validator) (e : Expr) (note : Option Note) :
    (e.withNote note).warningFindings v = e.warningFindings v := by
  rw [warningFindings, warningFindings, warnings_withNote]
  cases e <;> rfl

/-- The note at the root adds findings of its own in front of the others. -/
theorem validate_withNote (v : Validator) (e : Expr) {fs : List Finding}
    (h : v.validate (e.withNote none) = .ok fs) :
    v.validate e = e.noteFindings.map (· ++ fs) := by
  unfold Validator.validate at h ⊢
  cases ha : e.isAbsent with
  | true =>
    cases e with
    | absent => exact congrArg _ (Except.ok.inj h)
    | _ => cases ha
  | false =>
    have hnone : (e.withNote none).noteFindings = .ok [] := by
      cases e <;> rfl
    have hpresent : (e.withNote none).isAbsent = false := by
      cases e <;> exact ha
    rw [hpresent, hnone, warningFindings_withNote, structureFindings_withNote] at h
    obtain ⟨noted, hn, h⟩ := bind_eq_ok h
    obtain rfl := Except.ok.inj hn
    obtain ⟨suspicious, hs, h⟩ := bind_eq_ok h
    obtain rfl := Except.ok.inj h
    rw [hs]
    cases e.noteFindings with
    | error f => rfl
    | ok noted => exact congrArg Except.ok (List.append_assoc ..)

/-! ## Agreement -/

/-- For every tree whose names and operators are texts or missing, and whose integers have no
    more digits than a text may have. Notes apart, validation finds no error just where the tree
    has a text, and otherwise the printer reports a missing part. Where validation finds none,
    no evaluation, in any scope, says that a part is missing. -/
theorem structure_agrees (v : Validator) {e : Expr} (hn : e.Every Named)
    (hs : e.Every LiteralShown) :
    ∃ fs, v.validate (e.withNote none) = .ok fs ∧ v.validate e = e.noteFindings.map (· ++ fs) ∧
      (Findings.valid fs = true ↔ ∃ s, e.render = .ok (.text s)) ∧
      (Findings.valid fs = false → ∃ err, e.render = .error err ∧ err.isOwn = true) ∧
      (Findings.valid fs = true → ∀ s err, (e.evaluate s).1 = .error err →
        ¬ "Invalid ".toList <+: err.message.toList) := by
  have hnamed : (e.withNote none).Every VariableNamed :=
    every_mono (fun _ => variableNamed_of_named) _ ((every_withNote named_withNote).mpr hn)
  have hnoted : (e.withNote none).notedErrors = [] := by
    cases e <;> rfl
  obtain ⟨fs, hfs⟩ := @exists_validate v _ hnamed [] hnoted
  have hvalid : Findings.valid fs = true ↔ e.Every Whole := by
    rw [valid_iff hfs, and_iff_right hnoted, every_withNote whole_withNote]
  have hcode := code_succeedsIff e hn hs
  have hrender := render_of_named hn.root
  refine ⟨fs, hfs, validate_withNote v e hfs, ?_, fun h => ?_, fun h s err herr => ?_⟩
  · rw [hvalid, ← hcode.exists_iff, hrender]
    constructor
    · rintro ⟨s, h⟩
      exact ⟨s, by rw [h]; rfl⟩
    · rintro ⟨s, h⟩
      obtain ⟨s', h, -⟩ := bind_eq_ok h
      exact ⟨s', h⟩
  · cases hc : e.code with
    | ok s =>
      rw [hvalid.mpr (hcode.exists_iff.mp ⟨s, hc⟩)] at h
      cases h
    | error err => exact ⟨err, by rw [hrender, hc]; rfl, hcode.failsIn err hc⟩
  · exact EvalError.message_of_not_lacksPart (evaluate_of_whole (hvalid.mp h) s err herr)
      ((evaluate_error hn s err herr).imp_right And.left)

/-- An assignment of a call that lacks the name of a variable in its argument. -/
def namelessFloor : Expr :=
  assign (.text "x") (call (.text "Math.floor") [group (var .null none) none] none) none

/-- The same with the name. -/
def widthFloor : Expr :=
  assign (.text "x") (call (.text "Math.floor") [group (var (.text "width") none) none] none) none

/-- The missing name is an error for validation and for the printer. With the name the tree is
    valid, and a failure is not that of a missing part. -/
theorem structure_agrees_floor :
    (∃ fs, Validator.validate ⟨[], "", 100⟩ namelessFloor = .ok fs ∧ Findings.valid fs = false ∧
      ∃ err, namelessFloor.render = .error err ∧ err.isOwn = true) ∧
    ∃ fs, Validator.validate ⟨[], "", 100⟩ widthFloor = .ok fs ∧ Findings.valid fs = true ∧
      ∀ s err, (widthFloor.evaluate s).1 = .error err →
        ¬ "Invalid ".toList <+: err.message.toList := by
  constructor
  · obtain ⟨fs, -, hfs, htext, herror, -⟩ := @structure_agrees ⟨[], "", 100⟩ namelessFloor
      ⟨trivial, trivial, ⟨trivial, trivial⟩, trivial⟩ ⟨trivial, trivial, ⟨trivial, trivial⟩, trivial⟩
    have hvalid : Findings.valid fs = false := by
      rw [← Bool.not_eq_true, htext]
      rintro ⟨s, hs⟩
      cases (rfl : namelessFloor.render = .error .missingVariableName).symm.trans hs
    exact ⟨fs, hfs, hvalid, herror hvalid⟩
  · obtain ⟨fs, -, hfs, htext, -, hevaluate⟩ := @structure_agrees ⟨[], "", 100⟩ widthFloor
      ⟨trivial, trivial, ⟨trivial, trivial⟩, trivial⟩ ⟨trivial, trivial, ⟨trivial, trivial⟩, trivial⟩
    have hvalid : Findings.valid fs = true := htext.mpr ⟨"x = Math.floor((width))", rfl⟩
    exact ⟨fs, hfs, hvalid, hevaluate hvalid⟩

end Expr
end TokenFormula
