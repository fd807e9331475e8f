import TokenFormula.Expr.Validate
import TokenFormula.Proofs.Expr.Outcome
import TokenFormula.Proofs.Sequence

/-!
# What validation accepts

Validation reports an error for every missing part and for every error that the
note at the root lists. So a tree is valid if there is neither; what is suspicious
does not count.

Results:
* `Whole`: a node with every part that it needs.
* `every_whole`, `structureFindings_of_whole`: nothing is reported missing just
  where every node is whole.
* `exists_validate`: which trees can be validated.
* `valid_iff`: which trees are valid.
* `errors_validate`: what counts as known and as simple changes no error.
-/

namespace TokenFormula.Expr

/-! ## Whole nodes -/

/-- The node is there with every part that it needs. -/
def Whole (e : Expr) : Prop :=
  e.isAbsent = false ∧ e.missingParts = []

theorem message_eq_nil {c : Prop} [Decidable c] {m : String} :
    (if c then [m] else []) = [] ↔ ¬ c := by
  split <;> simp_all

theorem message_eq_nil' {c : Prop} [Decidable c] {m : String} :
    (if c then [] else [m]) = [] ↔ c := by
  split <;> simp_all

/-- A node that is there is whole if it lacks no part. -/
theorem whole_iff {e : Expr} (h : e.isAbsent = false) : Whole e ↔ e.missingParts = [] :=
  and_iff_right h

section Whole

variable {op name : Value} {l r e : Expr} {args : List Expr} {v : Option Value} {fallback : Bool}
  {note : Option Note}

theorem not_whole_absent : ¬ Whole absent := fun h => by cases h.1

theorem whole_binary : Whole (binary op l r note) ↔
    (l.isAbsent = false ∧ r.isAbsent = false) ∧ op.isTruthy = true := by
  rw [whole_iff rfl, missingParts, message_eq_nil]
  simp only [Bool.or_eq_true, not_or, Bool.not_eq_true, Bool.not_eq_false']

theorem whole_unary :
    Whole (unary op e note) ↔ e.isAbsent = false ∧ op.isTruthy = true := by
  rw [whole_iff rfl, missingParts, message_eq_nil]
  simp only [Bool.or_eq_true, not_or, Bool.not_eq_true, Bool.not_eq_false']

theorem whole_var : Whole (var name note) ↔ name.isTruthy = true := by
  rw [whole_iff rfl, missingParts, message_eq_nil']

theorem whole_literal : Whole (literal v fallback note) ↔ v.isSome = true := by
  rw [whole_iff rfl, missingParts, message_eq_nil']

theorem whole_call :
    Whole (call name args note) ↔ name.isTruthy = true ∧ args.any isAbsent = false := by
  rw [whole_iff rfl, missingParts, List.append_eq_nil_iff, message_eq_nil', message_eq_nil,
    Bool.not_eq_true]

theorem whole_assign :
    Whole (assign name e note) ↔ name.isTruthy = true ∧ e.isAbsent = false := by
  rw [whole_iff rfl, missingParts, List.append_eq_nil_iff, message_eq_nil', message_eq_nil,
    Bool.not_eq_true]

theorem whole_group : Whole (group e note) ↔ e.isAbsent = false := by
  rw [whole_iff rfl, missingParts, message_eq_nil, Bool.not_eq_true]

end Whole

/-! ## Missing parts -/

theorem partFindings_eq_nil {e : Expr} : e.partFindings = [] ↔ e.missingParts = [] :=
  List.map_eq_nil_iff

mutual

/-- Where nothing is reported missing, every node is whole. -/
theorem every_whole : (e : Expr) → e.isAbsent = false → e.structureFindings = [] →
    e.Every Whole
  | absent, ha, _ => by cases ha
  | var .., ha, h | literal .., ha, h => by
    rw [structureFindings, List.append_nil, partFindings_eq_nil] at h
    exact ⟨ha, h⟩
  | binary op l r note, ha, h => by
    rw [structureFindings, List.append_eq_nil_iff, List.append_eq_nil_iff,
      partFindings_eq_nil] at h
    have hw : Whole (binary op l r note) := ⟨ha, h.1⟩
    obtain ⟨hl, hr⟩ := (whole_binary.mp hw).1
    exact ⟨hw, every_whole l hl h.2.1, every_whole r hr h.2.2⟩
  | unary op e note, ha, h => by
    rw [structureFindings, List.append_eq_nil_iff, partFindings_eq_nil] at h
    have hw : Whole (unary op e note) := ⟨ha, h.1⟩
    exact ⟨hw, every_whole e (whole_unary.mp hw).1 h.2⟩
  | assign name e note, ha, h => by
    rw [structureFindings, List.append_eq_nil_iff, partFindings_eq_nil] at h
    have hw : Whole (assign name e note) := ⟨ha, h.1⟩
    exact ⟨hw, every_whole e (whole_assign.mp hw).2 h.2⟩
  | group e note, ha, h => by
    rw [structureFindings, List.append_eq_nil_iff, partFindings_eq_nil] at h
    have hw : Whole (group e note) := ⟨ha, h.1⟩
    exact ⟨hw, every_whole e (whole_group.mp hw) h.2⟩
  | call name args note, ha, h => by
    rw [structureFindings, List.append_eq_nil_iff, partFindings_eq_nil] at h
    have hw : Whole (call name args note) := ⟨ha, h.1⟩
    exact ⟨hw, everyArgument_whole args (whole_call.mp hw).2 h.2⟩

theorem everyArgument_whole : (args : List Expr) → args.any isAbsent = false →
    structureFindingsOf args = [] → EveryArgument Whole args
  | [], _, _ => trivial
  | a :: rest, ha, h => by
    rw [List.any_cons, Bool.or_eq_false_iff] at ha
    rw [structureFindingsOf, List.append_eq_nil_iff] at h
    exact ⟨every_whole a ha.1 h.1, everyArgument_whole rest ha.2 h.2⟩

end

mutual

/-- Where every node is whole, nothing is reported missing. -/
theorem structureFindings_of_whole : (e : Expr) → e.Every Whole → e.structureFindings = []
  | absent, h => (not_whole_absent h).elim
  | var .., h | literal .., h => by
    rw [structureFindings, List.append_nil, partFindings_eq_nil]
    exact h.2
  | binary op l r note, h => by
    rw [structureFindings, structureFindings_of_whole l h.2.1, structureFindings_of_whole r h.2.2,
      List.append_nil, List.append_nil, partFindings_eq_nil]
    exact h.1.2
  | unary op e note, h | assign op e note, h | group e note, h => by
    rw [structureFindings, structureFindings_of_whole e h.2, List.append_nil, partFindings_eq_nil]
    exact h.1.2
  | call name args note, h => by
    rw [structureFindings, structureFindingsOf_of_whole args h.2, List.append_nil,
      partFindings_eq_nil]
    exact h.1.2

theorem structureFindingsOf_of_whole : (args : List Expr) → EveryArgument Whole args →
    structureFindingsOf args = []
  | [], _ => rfl
  | a :: rest, h => by
    rw [structureFindingsOf, structureFindings_of_whole a h.1,
      structureFindingsOf_of_whole rest h.2]
    rfl

end

/-! ## Severities -/

/-- The findings have the severity. -/
def AllOf (severity : Severity) (fs : List Finding) : Prop :=
  ∀ f ∈ fs, f.severity = severity

theorem AllOf.append {severity : Severity} {fs gs : List Finding} (hf : AllOf severity fs)
    (hg : AllOf severity gs) : AllOf severity (fs ++ gs) := fun f h =>
  (List.mem_append.mp h).elim (hf f) (hg f)

theorem AllOf.nil {severity : Severity} : AllOf severity [] := fun _ h => by cases h

theorem allOf_map {severity : Severity} {α : Type} (message : α → String) (node? : Option String)
    (ms : List α) : AllOf severity (ms.map fun m => ⟨severity, message m, node?⟩) := by
  intro f h
  obtain ⟨m, -, rfl⟩ := List.mem_map.mp h
  rfl

mutual

theorem structureFindings_severity : (e : Expr) → AllOf .error e.structureFindings
  | absent | var .. | literal .. => by
    rw [structureFindings]
    exact (allOf_map id _ _).append .nil
  | binary _ a b _ => by
    rw [structureFindings]
    exact (allOf_map id _ _).append
      ((structureFindings_severity a).append (structureFindings_severity b))
  | unary _ a _ | assign _ a _ | group a _ => by
    rw [structureFindings]
    exact (allOf_map id _ _).append (structureFindings_severity a)
  | call _ args _ => by
    rw [structureFindings]
    exact (allOf_map id _ _).append (structureFindingsOf_severity args)

theorem structureFindingsOf_severity : (args : List Expr) → AllOf .error (structureFindingsOf args)
  | [] => .nil
  | a :: rest => (structureFindings_severity a).append (structureFindingsOf_severity rest)

end

theorem warnings_severity {v : Validator} {e : Expr} {fs : List Finding}
    (h : e.warnings v = .ok fs) : AllOf .warning fs := by
  obtain ⟨unknown, -, h⟩ := bind_eq_ok h
  obtain rfl := Except.ok.inj h
  exact allOf_map id _ _

mutual

theorem warningFindings_severity {v : Validator} : (e : Expr) → ∀ fs,
    e.warningFindings v = .ok fs → AllOf .warning fs
  | absent, fs, h | var .., fs, h | literal .., fs, h => by
    rw [warningFindings] at h
    obtain ⟨own, hown, h⟩ := bind_eq_ok h
    obtain rfl := Except.ok.inj h
    exact (warnings_severity hown).append .nil
  | binary _ a b _, fs, h => by
    rw [warningFindings] at h
    obtain ⟨own, hown, h⟩ := bind_eq_ok h
    obtain ⟨fa, ha, h⟩ := bind_eq_ok h
    obtain ⟨fb, hb, h⟩ := bind_eq_ok h
    obtain rfl := Except.ok.inj h
    exact (warnings_severity hown).append
      ((warningFindings_severity a fa ha).append (warningFindings_severity b fb hb))
  | unary _ a _, fs, h | assign _ a _, fs, h | group a _, fs, h => by
    rw [warningFindings] at h
    obtain ⟨own, hown, h⟩ := bind_eq_ok h
    obtain ⟨inner, hinner, h⟩ := bind_eq_ok h
    obtain rfl := Except.ok.inj h
    exact (warnings_severity hown).append (warningFindings_severity a inner hinner)
  | call _ args _, fs, h => by
    rw [warningFindings] at h
    obtain ⟨own, hown, h⟩ := bind_eq_ok h
    obtain ⟨inner, hinner, h⟩ := bind_eq_ok h
    obtain rfl := Except.ok.inj h
    exact (warnings_severity hown).append (warningFindingsOf_severity args inner hinner)

theorem warningFindingsOf_severity {v : Validator} : (args : List Expr) → ∀ fs,
    warningFindingsOf v args = .ok fs → AllOf .warning fs
  | [], fs, h => by
    obtain rfl := Except.ok.inj h
    exact .nil
  | a :: rest, fs, h => by
    rw [warningFindingsOf] at h
    obtain ⟨fa, ha, h⟩ := bind_eq_ok h
    obtain ⟨gs, hgs, h⟩ := bind_eq_ok h
    obtain rfl := Except.ok.inj h
    exact (warningFindings_severity a fa ha).append (warningFindingsOf_severity rest gs hgs)

end

/-! ## Trees that can be validated -/

/-- A variable at the node has a text as its name, if it has one. -/
def VariableNamed : Expr → Prop
  | var name _ => name.isTruthy = true → ∃ s, name = .text s
  | _ => True

theorem exists_warnings (v : Validator) {e : Expr} (h : VariableNamed e) :
    ∃ fs, e.warnings v = .ok fs := by
  have hvariable : ∃ ms, e.variableWarning v = .ok ms := by
    unfold variableWarning
    split
    · split
      · exact ⟨_, rfl⟩
      · rename_i ht
        obtain ⟨s, rfl⟩ := h (by simpa using ht)
        dsimp only
        split <;> exact ⟨_, rfl⟩
    · exact ⟨_, rfl⟩
  obtain ⟨ms, hms⟩ := hvariable
  exact ⟨_, by rw [warnings, hms]; rfl⟩

mutual

theorem exists_warningFindings (v : Validator) : (e : Expr) → e.Every VariableNamed →
    ∃ fs, e.warningFindings v = .ok fs
  | absent, h | var .., h | literal .., h => by
    obtain ⟨own, hown⟩ := exists_warnings v h
    exact ⟨_, by rw [warningFindings, hown]; rfl⟩
  | binary op l r note, h => by
    obtain ⟨own, hown⟩ := exists_warnings v h.1
    obtain ⟨fs, hfs⟩ := exists_warningFindings v l h.2.1
    obtain ⟨gs, hgs⟩ := exists_warningFindings v r h.2.2
    exact ⟨_, by rw [warningFindings, hown]; dsimp only; rw [hfs, hgs]; rfl⟩
  | unary op e note, h | assign op e note, h | group e note, h => by
    obtain ⟨own, hown⟩ := exists_warnings v h.1
    obtain ⟨fs, hfs⟩ := exists_warningFindings v e h.2
    exact ⟨_, by rw [warningFindings, hown]; dsimp only; rw [hfs]; rfl⟩
  | call name args note, h => by
    obtain ⟨own, hown⟩ := exists_warnings v h.1
    obtain ⟨fs, hfs⟩ := exists_warningFindingsOf v args h.2
    exact ⟨_, by rw [warningFindings, hown]; dsimp only; rw [hfs]; rfl⟩

theorem exists_warningFindingsOf (v : Validator) : (args : List Expr) →
    EveryArgument VariableNamed args → ∃ fs, warningFindingsOf v args = .ok fs
  | [], _ => ⟨[], rfl⟩
  | a :: rest, h => by
    obtain ⟨fs, hfs⟩ := exists_warningFindings v a h.1
    obtain ⟨gs, hgs⟩ := exists_warningFindingsOf v rest h.2
    exact ⟨fs ++ gs, by rw [warningFindingsOf, hfs, hgs]; rfl⟩

end

theorem exists_noteFindings {e : Expr} {errors : List String}
    (h : e.notedErrors = errors.map .text) : ∃ fs, e.noteFindings = .ok fs := by
  unfold noteFindings
  rw [h, List.mapM_map]
  exact ⟨_, List.mapM_pure⟩

/-- A tree can be validated if its variables have texts as names, or none, and the
    errors in its note are texts. -/
theorem exists_validate (v : Validator) {e : Expr} (he : e.Every VariableNamed)
    {errors : List String} (h : e.notedErrors = errors.map .text) : ∃ fs, v.validate e = .ok fs := by
  obtain ⟨noted, hnoted⟩ := exists_noteFindings h
  obtain ⟨fs, hfs⟩ := exists_warningFindings v e he
  unfold Validator.validate
  split
  · exact ⟨_, rfl⟩
  · exact ⟨_, by rw [hnoted, hfs]; rfl⟩

/-! ## Valid trees -/

theorem of_error_of_allOf {fs : List Finding} (h : AllOf .error fs) :
    Findings.of .error fs = fs :=
  List.filter_eq_self.mpr fun f hf => by rw [h f hf]; rfl

theorem of_error_of_warnings {fs : List Finding} (h : AllOf .warning fs) :
    Findings.of .error fs = [] :=
  List.filter_eq_nil_iff.mpr fun f hf => by rw [h f hf]; decide

theorem allOf_mapM {severity : Severity} {α ε : Type} {f : α → Except ε Finding}
    (hf : ∀ a b, f a = .ok b → b.severity = severity) (as : List α) : ∀ fs, as.mapM f = .ok fs →
      AllOf severity fs ∧ (fs = [] ↔ as = []) := by
  induction as with
  | nil =>
    intro fs h
    rw [List.mapM_nil] at h
    obtain rfl := Except.ok.inj h
    exact ⟨.nil, iff_of_true rfl rfl⟩
  | cons a as ih =>
    intro fs h
    rw [List.mapM_cons] at h
    obtain ⟨b, hb, h⟩ := bind_eq_ok h
    obtain ⟨bs, hbs, h⟩ := bind_eq_ok h
    obtain rfl := Except.ok.inj h
    refine ⟨fun c hc => ?_, iff_of_false (List.cons_ne_nil b bs) (List.cons_ne_nil a as)⟩
    obtain rfl | hc := List.mem_cons.mp hc
    · exact hf a c hb
    · exact (ih bs hbs).1 c hc

theorem noteFindings_severity {e : Expr} {fs : List Finding} (h : e.noteFindings = .ok fs) :
    AllOf .error fs ∧ (fs = [] ↔ e.notedErrors = []) := by
  refine allOf_mapM (fun m b hb => ?_) e.notedErrors fs h
  obtain ⟨s, -, hb⟩ := bind_eq_ok hb
  obtain rfl := Except.ok.inj hb
  rfl

/-- The errors of a tree are those of its note and the missing parts. -/
theorem errors_of_validate {v : Validator} {e : Expr} {fs : List Finding}
    (ha : e.isAbsent = false) (h : v.validate e = .ok fs) :
    ∃ noted, e.noteFindings = .ok noted ∧
      Findings.of .error fs = noted ++ e.structureFindings := by
  unfold Validator.validate at h
  rw [ha, if_neg Bool.false_ne_true] at h
  obtain ⟨noted, hn, h⟩ := bind_eq_ok h
  obtain ⟨suspicious, hs, h⟩ := bind_eq_ok h
  obtain rfl := Except.ok.inj h
  have h1 := of_error_of_allOf ((noteFindings_severity hn).1.append (structureFindings_severity e))
  have h2 := of_error_of_warnings (warningFindings_severity e suspicious hs)
  refine ⟨noted, hn, ?_⟩
  rw [Findings.of] at h1 h2 ⊢
  rw [List.filter_append, h1, h2, List.append_nil]

/-- A tree is valid if its note lists no error and every node is whole. -/
theorem valid_iff {v : Validator} {e : Expr} {fs : List Finding} (h : v.validate e = .ok fs) :
    Findings.valid fs = true ↔ e.notedErrors = [] ∧ e.Every Whole := by
  cases ha : e.isAbsent with
  | true =>
    rw [Validator.validate, ha, if_pos rfl] at h
    obtain rfl := Except.ok.inj h
    refine ⟨nofun, fun hw => ?_⟩
    rw [hw.2.root.1] at ha
    cases ha
  | false =>
    obtain ⟨noted, hn, herrors⟩ := errors_of_validate ha h
    rw [Findings.valid, herrors, List.isEmpty_iff, List.append_eq_nil_iff,
      (noteFindings_severity hn).2]
    exact and_congr_right fun _ => ⟨every_whole e ha, structureFindings_of_whole e⟩

/-! ## Validators -/

section Validators

variable (v v' : Validator)

theorem warnings_sameFailure (e : Expr) : SameFailure (e.warnings v) (e.warnings v') := by
  refine .bind ?_ fun _ _ => .ok _ _
  cases e with
  | var name note =>
    unfold variableWarning
    dsimp only
    split
    · exact .refl _
    · split
      · split <;> split <;> exact .ok _ _
      · exact .refl _
  | _ => exact .refl _

mutual

/-- Whether the warnings of a tree can be listed, no validator changes. -/
theorem warningFindings_sameFailure : (e : Expr) →
    SameFailure (e.warningFindings v) (e.warningFindings v')
  | absent | var .. | literal .. => by
    rw [warningFindings, warningFindings]
    exact .bind (warnings_sameFailure v v' _) fun _ _ => .ok _ _
  | binary _ a b _ => by
    rw [warningFindings, warningFindings]
    exact .bind (warnings_sameFailure v v' _) fun _ _ =>
      .bind (warningFindings_sameFailure a) fun _ _ =>
        .bind (warningFindings_sameFailure b) fun _ _ => .ok _ _
  | unary _ a _ | assign _ a _ | group a _ => by
    rw [warningFindings, warningFindings]
    exact .bind (warnings_sameFailure v v' _) fun _ _ =>
      .bind (warningFindings_sameFailure a) fun _ _ => .ok _ _
  | call _ args _ => by
    rw [warningFindings, warningFindings]
    exact .bind (warnings_sameFailure v v' _) fun _ _ =>
      .bind (warningFindingsOf_sameFailure args) fun _ _ => .ok _ _

theorem warningFindingsOf_sameFailure : (args : List Expr) →
    SameFailure (warningFindingsOf v args) (warningFindingsOf v' args)
  | [] => .refl _
  | a :: rest => .bind (warningFindings_sameFailure a) fun _ _ =>
    .bind (warningFindingsOf_sameFailure rest) fun _ _ => .ok _ _

end

/-- All validators report the same errors for a tree, or fail alike. -/
theorem errors_validate (e : Expr) :
    (v.validate e).map (Findings.of .error) = (v'.validate e).map (Findings.of .error) := by
  cases ha : e.isAbsent with
  | true =>
    rw [Validator.validate, Validator.validate, ha]
    rfl
  | false =>
    have hsame : SameFailure (v.validate e) (v'.validate e) := by
      rw [Validator.validate, Validator.validate, ha]
      exact .bind (.refl _) fun _ _ =>
        .bind (warningFindings_sameFailure v v' e) fun _ _ => .ok _ _
    generalize hr : v.validate e = r at hsame
    generalize hr' : v'.validate e = r' at hsame
    cases hsame with
    | error f => rfl
    | ok fs gs =>
      obtain ⟨noted, hn, hfs⟩ := errors_of_validate ha hr
      obtain ⟨noted', hn', hgs⟩ := errors_of_validate ha hr'
      obtain rfl : noted = noted' := Except.ok.inj (hn.symm.trans hn')
      exact congrArg Except.ok (hfs.trans hgs.symm)

end Validators

end TokenFormula.Expr
