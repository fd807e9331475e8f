import TokenFormula.Proofs.Expr.Captured
import TokenFormula.Proofs.Expr.Rebuild
import TokenFormula.Proofs.Value.Text

/-!
# What validation reports

The check for missing parts visits every node, also behind a node that lacks a
part, so each missing part anywhere in the tree is reported. The check for what is
suspicious runs afterwards and looks into names; a name that is no text stops it,
and what was already found is lost with it.

Results:
* `Lacks`, `mem_missingParts_iff`: what a malformed node lacks.
* `mem_structureFindings`: the missing parts of every node are found.
* `exists_validate_iff`: which trees can be validated.
* `validate_reports`: where validation has a result, it has every missing part.
-/

namespace TokenFormula.Expr

/-! ## Malformed nodes -/

/-- The node lacks a part; the text says which. -/
inductive Lacks : Expr → String → Prop
  | binary {op : Value} {l r : Expr} {note : Option Note}
    (h : l.isAbsent = true ∨ r.isAbsent = true ∨ op.isTruthy = false) :
    Lacks (binary op l r note) "Invalid binary expression: missing left, right, or operator"
  | unary {op : Value} {e : Expr} {note : Option Note}
    (h : e.isAbsent = true ∨ op.isTruthy = false) :
    Lacks (unary op e note) "Invalid unary expression: missing operand or operator"
  | callName {name : Value} {args : List Expr} {note : Option Note}
    (h : name.isTruthy = false) :
    Lacks (call name args note) "Invalid function call: missing function name"
  | argument {name : Value} {args : List Expr} {note : Option Note}
    (h : ∃ a ∈ args, a.isAbsent = true) :
    Lacks (call name args note) "Invalid function call: missing argument"
  | variableName {name : Value} {note : Option Note} (h : name.isTruthy = false) :
    Lacks (var name note) "Invalid variable: missing variable name"
  | literalValue {fallback : Bool} {note : Option Note} :
    Lacks (literal none fallback note) "Invalid literal: missing value"
  | target {name : Value} {e : Expr} {note : Option Note} (h : name.isTruthy = false) :
    Lacks (assign name e note) "Invalid assignment: missing variable name"
  | assigned {name : Value} {e : Expr} {note : Option Note} (h : e.isAbsent = true) :
    Lacks (assign name e note) "Invalid assignment: missing expression"
  | body {e : Expr} {note : Option Note} (h : e.isAbsent = true) :
    Lacks (group e note) "Invalid group: missing body expression"

theorem mem_message_iff {c : Prop} [Decidable c] {m m' : String} :
    m ∈ (if c then [m'] else []) ↔ c ∧ m = m' := by
  split <;> simp_all

theorem mem_message_iff' {c : Prop} [Decidable c] {m m' : String} :
    m ∈ (if c then [] else [m']) ↔ ¬ c ∧ m = m' := by
  split <;> simp_all

/-- The messages for a node are those of the parts that it lacks. -/
theorem mem_missingParts_iff {e : Expr} {m : String} : m ∈ e.missingParts ↔ Lacks e m := by
  constructor
  · intro h
    cases e with
    | absent => cases h
    | binary op l r note =>
      obtain ⟨hc, rfl⟩ := mem_message_iff.mp h
      refine .binary ?_
      simpa only [Bool.or_eq_true, Bool.not_eq_true', or_assoc] using hc
    | unary op e note =>
      obtain ⟨hc, rfl⟩ := mem_message_iff.mp h
      refine .unary ?_
      simpa only [Bool.or_eq_true, Bool.not_eq_true'] using hc
    | var name note =>
      obtain ⟨hc, rfl⟩ := mem_message_iff'.mp h
      exact .variableName (Bool.not_eq_true _ ▸ hc)
    | literal v fallback note =>
      obtain ⟨hc, rfl⟩ := mem_message_iff'.mp h
      cases v with
      | none => exact .literalValue
      | some v => exact absurd rfl hc
    | call name args note =>
      rw [missingParts, List.mem_append] at h
      rcases h with h | h
      · obtain ⟨hc, rfl⟩ := mem_message_iff'.mp h
        exact .callName (Bool.not_eq_true _ ▸ hc)
      · obtain ⟨hc, rfl⟩ := mem_message_iff.mp h
        exact .argument (List.any_eq_true.mp hc)
    | assign name e note =>
      rw [missingParts, List.mem_append] at h
      rcases h with h | h
      · obtain ⟨hc, rfl⟩ := mem_message_iff'.mp h
        exact .target (Bool.not_eq_true _ ▸ hc)
      · obtain ⟨hc, rfl⟩ := mem_message_iff.mp h
        exact .assigned hc
    | group e note =>
      obtain ⟨hc, rfl⟩ := mem_message_iff.mp h
      exact .body hc
  · intro h
    cases h with
    | binary h =>
      refine mem_message_iff.mpr ⟨?_, rfl⟩
      simpa only [Bool.or_eq_true, Bool.not_eq_true', or_assoc] using h
    | unary h =>
      refine mem_message_iff.mpr ⟨?_, rfl⟩
      simpa only [Bool.or_eq_true, Bool.not_eq_true'] using h
    | variableName h => exact mem_message_iff'.mpr ⟨Bool.not_eq_true _ ▸ h, rfl⟩
    | literalValue => exact List.mem_singleton_self _
    | callName h =>
      exact List.mem_append_left _ (mem_message_iff'.mpr ⟨Bool.not_eq_true _ ▸ h, rfl⟩)
    | argument h =>
      exact List.mem_append_right _ (mem_message_iff.mpr ⟨List.any_eq_true.mpr h, rfl⟩)
    | target h =>
      exact List.mem_append_left _ (mem_message_iff'.mpr ⟨Bool.not_eq_true _ ▸ h, rfl⟩)
    | assigned h => exact List.mem_append_right _ (mem_message_iff.mpr ⟨h, rfl⟩)
    | body h => exact mem_message_iff.mpr ⟨h, rfl⟩

/-! ## Every node is visited -/

theorem mem_structureFindingsOf {c : Expr} {f : Finding} (h : f ∈ c.structureFindings) :
    ∀ {args : List Expr}, c ∈ args → f ∈ structureFindingsOf args
  | a :: rest, hc => by
    rw [structureFindingsOf]
    obtain rfl | hc := List.mem_cons.mp hc
    · exact List.mem_append_left _ h
    · exact List.mem_append_right _ (mem_structureFindingsOf h hc)

/-- What is found in a child is found in the tree. -/
theorem mem_structureFindings_of_child {c e : Expr} (hc : c ∈ e.children) {f : Finding}
    (h : f ∈ c.structureFindings) : f ∈ e.structureFindings := by
  rw [structureFindings.eq_def]
  refine List.mem_append_right _ ?_
  cases e with
  | absent | var | literal => cases hc
  | binary op l r note =>
    have hc := List.mem_of_mem_filter hc
    rw [List.mem_cons, List.mem_singleton] at hc
    rcases hc with rfl | rfl
    · exact List.mem_append_left _ h
    · exact List.mem_append_right _ h
  | unary op e note | assign op e note | group e note =>
    have hc : c ∈ [e].filter (!·.isAbsent) := hc
    obtain rfl := List.mem_singleton.mp (List.mem_of_mem_filter hc)
    exact h
  | call name args note => exact mem_structureFindingsOf h (List.mem_of_mem_filter hc)

theorem mem_structureFindings_of_inside {x e : Expr} (hx : x.Inside e) {f : Finding}
    (h : f ∈ x.partFindings) : f ∈ e.structureFindings := by
  induction hx with
  | root =>
    rw [structureFindings.eq_def]
    exact List.mem_append_left _ h
  | child hc _ ih => exact mem_structureFindings_of_child hc ih

/-- What any node of the tree lacks is found. -/
theorem mem_structureFindings {x e : Expr} (hx : x.Inside e) {m : String} (h : Lacks x m) :
    ⟨.error, m, some x.kindName⟩ ∈ e.structureFindings :=
  mem_structureFindings_of_inside hx (List.mem_map_of_mem (mem_missingParts_iff.mpr h))

/-! ## Names that stop validation -/

/-- What is suspicious at a node is found unless its name is there and no text. -/
theorem exists_warnings_iff (v : Validator) (e : Expr) :
    (∃ fs, e.warnings v = .ok fs) ↔ VariableNamed e := by
  refine ⟨?_, exists_warnings v⟩
  rintro ⟨fs, h⟩
  obtain ⟨ms, hms, -⟩ := bind_eq_ok h
  cases e with
  | var name note =>
    intro ht
    unfold variableWarning at hms
    dsimp only at hms
    rw [ht, if_neg (by decide)] at hms
    cases name with
    | text s => exact ⟨s, rfl⟩
    | _ =>
      dsimp only at hms
      split at hms <;> cases hms
  | _ => trivial

mutual

theorem exists_warningFindings_iff (v : Validator) : (e : Expr) →
    ((∃ fs, e.warningFindings v = .ok fs) ↔ e.Every VariableNamed)
  | absent | var .. | literal .. => by
    rw [warningFindings]
    exact exists_bind_pure_iff.trans (exists_warnings_iff v _)
  | binary op l r note => by
    rw [warningFindings]
    refine exists_bind_bind_pure_iff.trans ?_
    rw [exists_warningFindings_iff v l, exists_warningFindings_iff v r]
    exact (and_iff_right trivial).symm
  | unary op e note | assign op e note | group e note => by
    rw [warningFindings]
    refine exists_bind_bind_pure_iff.trans ?_
    rw [exists_warnings_iff, exists_warningFindings_iff v e]
    exact .rfl
  | call name args note => by
    rw [warningFindings]
    refine exists_bind_bind_pure_iff.trans ?_
    rw [exists_warnings_iff, exists_warningFindingsOf_iff v args]
    exact .rfl

theorem exists_warningFindingsOf_iff (v : Validator) : (args : List Expr) →
    ((∃ fs, warningFindingsOf v args = .ok fs) ↔ EveryArgument VariableNamed args)
  | [] => iff_of_true ⟨[], rfl⟩ trivial
  | a :: rest => by
    rw [warningFindingsOf, exists_bind_bind_pure_iff, exists_warningFindings_iff v a,
      exists_warningFindingsOf_iff v rest]
    exact .rfl

end

/-! ## Noted errors -/

theorem exists_noteFindings_iff (e : Expr) :
    (∃ fs, e.noteFindings = .ok fs) ↔ ∀ m ∈ e.notedErrors, m.HasText := by
  refine exists_mapM_iff (fun m => ?_) e.notedErrors
  rw [exists_bind_pure_iff, Value.exists_plain_iff]

/-! ## Validation -/

/-- A tree can be validated just where its variables have texts as names, or none,
    and the errors in its note can be shown. -/
theorem exists_validate_iff (v : Validator) (e : Expr) :
    (∃ fs, v.validate e = .ok fs) ↔
      e.Every VariableNamed ∧ ∀ m ∈ e.notedErrors, m.HasText := by
  unfold Validator.validate
  split
  · rename_i ha
    cases e with
    | absent => exact iff_of_true ⟨_, rfl⟩ ⟨trivial, fun m hm => by cases hm⟩
    | _ => cases ha
  · rw [exists_bind_bind_pure_iff, exists_noteFindings_iff, exists_warningFindings_iff, and_comm]

/-- Validation has a result just where every variable has a text as its name, or
    none, and the errors in the note can be shown. The result then has the missing
    parts of every node of the tree. -/
theorem validate_reports (v : Validator) (e : Expr) :
    ((∃ fs, v.validate e = .ok fs) ↔
      e.Every VariableNamed ∧ ∀ m ∈ e.notedErrors, m.HasText) ∧
    ∀ fs, v.validate e = .ok fs → ∀ x m, x.Inside e → Lacks x m →
      ⟨.error, m, some x.kindName⟩ ∈ fs := by
  refine ⟨exists_validate_iff v e, fun fs h x m hx hm => ?_⟩
  unfold Validator.validate at h
  split at h
  · rename_i ha
    cases e with
    | absent =>
      -- Nothing is inside a missing tree but itself, and it lacks no part.
      cases hx with
      | root => cases hm
      | child hc => cases hc
    | _ => cases ha
  · obtain ⟨noted, -, h⟩ := bind_eq_ok h
    obtain ⟨suspicious, -, h⟩ := bind_eq_ok h
    obtain rfl := Except.ok.inj h
    exact List.mem_append_left _ (List.mem_append_right _ (mem_structureFindings hx hm))

/-- Parentheses around an operation without an operator, whose left operand lacks
    its own part. -/
def nestedGaps : Expr :=
  group (binary .null (unary (.text "-") absent none) (var (.text "width") none) none) none

/-- The gap below a gap is reported. -/
theorem validate_reports_nested :
    ∃ fs, Validator.validate ⟨[], "sys", 100⟩ nestedGaps = .ok fs ∧
      ⟨.error, "Invalid binary expression: missing left, right, or operator", some "binary"⟩ ∈ fs ∧
      ⟨.error, "Invalid unary expression: missing operand or operator", some "unary"⟩ ∈ fs := by
  obtain ⟨hiff, hreports⟩ := validate_reports ⟨[], "sys", 100⟩ nestedGaps
  obtain ⟨fs, hfs⟩ := hiff.mpr ⟨⟨trivial, trivial, ⟨trivial, trivial⟩, fun _ => ⟨_, rfl⟩⟩,
    fun m hm => by cases hm⟩
  have hbinary : (binary .null (unary (.text "-") absent none) (var (.text "width") none) none).Inside
      nestedGaps := .child List.mem_cons_self (.root _)
  have hunary : (unary (.text "-") absent none).Inside nestedGaps :=
    .child List.mem_cons_self (.child List.mem_cons_self (.root _))
  exact ⟨fs, hfs, hreports fs hfs _ _ hbinary (.binary (.inr (.inr rfl))),
    hreports fs hfs _ _ hunary (.unary (.inl rfl))⟩

/-- An operation without an operator, whose left operand is a variable with an integer as
    its name. -/
def integerName : Expr :=
  binary .null (var (.num (.int 5)) none) (number (.int 1)) none

/-- Not all stored trees can be validated: the integer stops validation, and the missing
    operator is not reported. -/
theorem not_validate_reports : ¬ ∀ (v : Validator) (data : Value) (e : Expr),
    ofData data = .ok e → ∃ fs, v.validate e = .ok fs ∧ ∀ x m, x.Inside e → Lacks x m →
      ⟨.error, m, some x.kindName⟩ ∈ fs := by
  intro h
  obtain ⟨fs, hfs, -⟩ := h ⟨[], "sys", 100⟩ _ integerName (ofData_toData integerName)
  cases hfs

end TokenFormula.Expr
