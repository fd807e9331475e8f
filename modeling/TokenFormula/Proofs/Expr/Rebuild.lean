import TokenFormula.Expr.Data
import TokenFormula.Expr.Optimize
import TokenFormula.Proofs.Expr.Reparse
import TokenFormula.Proofs.Expr.Validate
import TokenFormula.Proofs.Scope

/-!
# Trees that are stored and rebuilt

Plain data keeps every part of a tree, notes included, so that rebuilding gives
the tree back. The tree of a formula text has every part at its place and names
that are texts; so validation finds errors in it only where the text was not read.

Results:
* `ofData_toData`: a stored tree is rebuilt as it was.
* `stored_roundTrip`: so is what was read, parsed or optimized before.
* `exists_validate`: a tree whose variables have texts as names can be validated.
* `spelled_parse`: the nodes of the tree of a formula text.
* `exists_validate_parse`: the tree of a formula text is valid just where the text
  was read.
-/

namespace TokenFormula

namespace Expr

open Source (Tree)

/-! ## Rebuilding -/

theorem get?_noteEntry {key : String} (h : key ≠ "metadata") (note : Option Note) :
    Entries.get? key (noteEntry note) = none := by
  cases note with
  | none => rfl
  | some note => exact if_neg (Ne.symm h)

/-- A note is read back behind entries of other keys. -/
theorem noteOf_append {es : Entries Value} (h : es.get? "metadata" = none) (note : Option Note) :
    noteOf (es ++ noteEntry note) = .ok note := by
  unfold noteOf
  rw [Entries.get?_append, h]
  cases note <;> rfl

theorem childOf_of_get? {es : Entries Value} {key : String} {v : Value}
    (h : es.get? key = some v) : childOf es key = ofData v := by
  rw [childOf]
  split
  · rename_i w hw
    rw [h] at hw
    rw [Option.some.inj hw]
  · rename_i hn
    rw [h] at hn
    cases hn

theorem argumentsOf_of_get? {es : Entries Value} (items : List Value)
    (h : es.get? "arguments" = some (.list items)) : argumentsOf es = ofItems items := by
  rw [argumentsOf]
  split
  · rename_i hw
    rw [h] at hw
    rw [Value.list.inj (Option.some.inj hw)]
  · rename_i hne hw
    rw [h] at hw
    exact absurd (Option.some.inj hw).symm (hne items)
  · rename_i hn
    rw [h] at hn
    cases hn

/-- What is stored in front of a note does not hide the kind and the note. -/
theorem kindOf_stored (s : String) (es : Entries Value) (note : Option Note) {k : Kind}
    (hk : Kind.ofName? s = some k)
    (hes : Entries.get? "metadata" (("type", .text s) :: es) = none) :
    kindOf ((("type", .text s) :: es) ++ noteEntry note) = .ok k ∧
      noteOf ((("type", .text s) :: es) ++ noteEntry note) = .ok note := by
  refine ⟨?_, noteOf_append hes note⟩
  unfold kindOf
  simp only [List.cons_append, Entries.get?_cons, if_true, Value.ofOption, hk]

/-- A literal is stored with its value, if it has one, and a mark if it is a fallback. -/
theorem ofData_literal (v : Option Value) (fallback : Bool) (note : Option Note) :
    ofData (literal v fallback note).toData = .ok (literal v fallback note) := by
  have hkey : ∀ {key es}, key ≠ "metadata" →
      Entries.get? key (es ++ noteEntry note) = Entries.get? key es := by
    intro key es h
    rw [Entries.get?_append, get?_noteEntry h, Option.or_none]
  obtain ⟨hkind, hnote⟩ := kindOf_stored "literal" (valueEntry v ++
    if fallback then [("fallback", .bool true)] else []) note rfl
    (by cases v <;> cases fallback <;> rfl)
  rw [toData, ofData, List.append_assoc [("type", Value.text "literal")], List.singleton_append,
    hkind, hnote]
  dsimp only [ok_bind]
  rw [hkey (by decide), hkey (by decide)]
  cases v <;> cases fallback <;> rfl

mutual

/-- A stored tree is rebuilt as it was. -/
theorem ofData_toData : (e : Expr) → ofData e.toData = .ok e
  | absent => by rw [toData, ofData]
  | binary op l r note => by
    obtain ⟨hkind, hnote⟩ := kindOf_stored "binary"
      [("operator", op), ("left", l.toData), ("right", r.toData)] note rfl rfl
    rw [toData, ofData, hkind, hnote]
    dsimp only [ok_bind]
    rw [childOf_of_get? (v := l.toData) rfl, childOf_of_get? (v := r.toData) rfl,
      ofData_toData l, ofData_toData r]
    rfl
  | unary op e note => by
    obtain ⟨hkind, hnote⟩ := kindOf_stored "unary"
      [("operator", op), ("operand", e.toData)] note rfl rfl
    rw [toData, ofData, hkind, hnote]
    dsimp only [ok_bind]
    rw [childOf_of_get? (v := e.toData) rfl, ofData_toData e]
    rfl
  | var name note => by
    obtain ⟨hkind, hnote⟩ := kindOf_stored "variable" [("variableName", name)] note rfl rfl
    rw [toData, ofData, hkind, hnote]
    rfl
  | literal v fallback note => ofData_literal v fallback note
  | call name args note => by
    obtain ⟨hkind, hnote⟩ := kindOf_stored "function"
      [("functionName", name), ("arguments", .list (argumentData args))] note rfl rfl
    rw [toData, ofData, hkind, hnote]
    dsimp only [ok_bind]
    rw [argumentsOf_of_get? (argumentData args) rfl, ofItems_argumentData args]
    rfl
  | assign name e note => by
    obtain ⟨hkind, hnote⟩ := kindOf_stored "assignment"
      [("variableName", name), ("expression", e.toData)] note rfl rfl
    rw [toData, ofData, hkind, hnote]
    dsimp only [ok_bind]
    rw [childOf_of_get? (v := e.toData) rfl, ofData_toData e]
    rfl
  | group e note => by
    obtain ⟨hkind, hnote⟩ := kindOf_stored "group" [("body", e.toData)] note rfl rfl
    rw [toData, ofData, hkind, hnote]
    dsimp only [ok_bind]
    rw [childOf_of_get? (v := e.toData) rfl, ofData_toData e]
    rfl

/-- Stored arguments are rebuilt as they were. -/
theorem ofItems_argumentData : (args : List Expr) → ofItems (argumentData args) = .ok args
  | [] => by rw [argumentData, ofItems]
  | a :: rest => by
    rw [argumentData, ofItems, ofData_toData a, ofItems_argumentData rest]
    rfl

end

/-- A tree that was read from plain data, also from data with missing entries and
    entries of other kinds, is rebuilt from its own data as it was; so are the trees of
    formula texts and those that the optimizer gives. Equal trees have the same parts
    missing and carry the same notes at every node. -/
theorem stored_roundTrip :
    (∀ d e, ofData d = .ok e → ofData e.toData = .ok e) ∧
    (∀ source, ofData (parse source).toData = .ok (parse source)) ∧
    ∀ maxRounds e, ofData (optimize maxRounds e).toData = .ok (optimize maxRounds e) :=
  ⟨fun _ e _ => ofData_toData e, fun source => ofData_toData (parse source),
    fun maxRounds e => ofData_toData (optimize maxRounds e)⟩

/-- The entries of a null that a number marks as a fallback, with a note without a
    version. -/
def looseNull : Entries Value :=
  [("type", .text "literal"), ("value", .null), ("fallback", .num (.int 1)),
    ("metadata", .dict [("validationErrors", .text "ab"), ("complexity", .null)])]

/-- The entries of a call with a missing argument and one without a value. -/
def looseCall : Entries Value :=
  [("type", .text "function"), ("functionName", .bool false),
    ("arguments", .list [.null, .dict [("type", .text "literal")]]), ("metadata", .num (.int 7))]

/-- The entries of their sum. -/
def looseSum : Entries Value :=
  [("operator", .text "+"), ("type", .text "binary"), ("left", .dict looseNull),
    ("right", .dict looseCall)]

/-- The data are read, and the tree is rebuilt from data of another form. -/
theorem stored_roundTrip_looseSum :
    ∃ e, ofData (.dict looseSum) = .ok e ∧ ofData e.toData = .ok e ∧ e = binary (.text "+")
      (literal (some .null) true (some ⟨.text formVersion, [.text "a", .text "b"], .null⟩))
      (call (.bool false) [absent, literal none false none] none) none := by
  have hnull : ofData (.dict looseNull) = .ok (literal (some .null) true
      (some ⟨.text formVersion, [.text "a", .text "b"], .null⟩)) := by
    rw [ofData]
    rfl
  have hargs : argumentsOf looseCall = .ok [absent, literal none false none] := by
    rw [argumentsOf_of_get? [.null, .dict [("type", .text "literal")]] rfl, ofItems, ofItems,
      ofItems, ofData, ofData]
    rfl
  have hcall : ofData (.dict looseCall) =
      .ok (call (.bool false) [absent, literal none false none] none) := by
    have hkind : kindOf looseCall = .ok .call := rfl
    have hnote : noteOf looseCall = .ok none := rfl
    rw [ofData, hkind, hnote]
    dsimp only [ok_bind]
    rw [hargs]
    rfl
  have hsum : ofData (.dict looseSum) = .ok (binary (.text "+")
      (literal (some .null) true (some ⟨.text formVersion, [.text "a", .text "b"], .null⟩))
      (call (.bool false) [absent, literal none false none] none) none) := by
    have hkind : kindOf looseSum = .ok .binary := rfl
    have hnote : noteOf looseSum = .ok none := rfl
    rw [ofData, hkind, hnote]
    dsimp only [ok_bind]
    rw [childOf_of_get? (v := .dict looseNull) rfl, childOf_of_get? (v := .dict looseCall) rfl,
      hnull, hcall]
    rfl
  exact ⟨_, hsum, stored_roundTrip.1 _ _ hsum, rfl⟩

/-! ## Formula texts -/

/-- A variable at the node has a text as its name. -/
def TextNamed : Expr → Prop
  | var name _ => ∃ s, name = .text s
  | _ => True

theorem variableNamed_of_textNamed {e : Expr} (h : TextNamed e) : VariableNamed e := by
  cases e with
  | var name note => exact fun _ => h
  | _ => trivial

/-- The node has its parts, and a variable at it has a text as its name. -/
def Spelled (e : Expr) : Prop :=
  Whole e ∧ TextNamed e

theorem any_isAbsent_of_parsed : (args : List Expr) → EveryArgument Parsed args →
    args.any isAbsent = false
  | [], _ => rfl
  | a :: rest, h => by
    rw [List.any_cons, isAbsent_of_parsed h.1.root, any_isAbsent_of_parsed rest h.2]
    rfl

theorem spelled_of_parsed {e : Expr} (h : e.Every Parsed) : Spelled e := by
  cases e with
  | absent => exact h.elim
  | literal v fallback note =>
    obtain ⟨w, rfl, -⟩ := h
    exact ⟨whole_literal.mpr rfl, trivial⟩
  | var name note =>
    obtain ⟨s, rfl, hs⟩ := h
    exact ⟨whole_var.mpr (isTruthy_name hs.1), s, rfl⟩
  | group body note =>
    exact ⟨whole_group.mpr (isAbsent_of_parsed h.2.root), trivial⟩
  | unary op operand note =>
    obtain ⟨⟨o, rfl, -⟩, hoperand⟩ := h
    exact ⟨whole_unary.mpr ⟨isAbsent_of_parsed hoperand.root, isTruthy_sign o⟩, trivial⟩
  | binary op left right note =>
    obtain ⟨⟨o, rfl, -⟩, hleft, hright⟩ := h
    exact ⟨whole_binary.mpr ⟨⟨isAbsent_of_parsed hleft.root, isAbsent_of_parsed hright.root⟩,
      isTruthy_symbol o⟩, trivial⟩
  | assign name value note =>
    obtain ⟨⟨s, rfl, hs⟩, hvalue⟩ := h
    exact ⟨whole_assign.mpr ⟨isTruthy_name hs.1, isAbsent_of_parsed hvalue.root⟩, trivial⟩
  | call name args note =>
    obtain ⟨⟨s, rfl, hs⟩, hargs⟩ := h
    exact ⟨whole_call.mpr ⟨isTruthy_dotted hs, any_isAbsent_of_parsed args hargs⟩, trivial⟩

/-- The nodes of the tree of a formula text, also where the text is not read. -/
theorem spelled_parse (source : String) : (parse source).Every Spelled :=
  every_of_every (fun _ => spelled_of_parsed) _ (parsed_parse source)

/-- The note of the tree of a formula text lists texts. -/
theorem exists_notedErrors_parse (source : String) :
    ∃ errors : List String, (parse source).notedErrors = errors.map .text := by
  unfold parse
  split
  · exact ⟨[_], rfl⟩
  · split
    · exact ⟨[_], rfl⟩
    · rename_i e _
      refine ⟨[], ?_⟩
      cases e <;> rfl

/-- The tree of a formula text can be validated, and it is valid just where the
    text was read. -/
theorem exists_validate_parse (v : Validator) (source : String) :
    ∃ fs, v.validate (parse source) = .ok fs ∧
      (Findings.valid fs = true ↔ (parse source).notedErrors = []) := by
  have hspelled := spelled_parse source
  obtain ⟨errors, herrors⟩ := exists_notedErrors_parse source
  obtain ⟨fs, hfs⟩ := exists_validate v
    (every_mono (fun _ h => variableNamed_of_textNamed h.2) _ hspelled) herrors
  refine ⟨fs, hfs, ?_⟩
  rw [valid_iff hfs]
  exact and_iff_left (every_mono (fun _ h => h.1) _ hspelled)

end Expr
end TokenFormula
