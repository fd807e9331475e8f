import TokenFormula.Expr.Print
import TokenFormula.Proofs.Expr.Core
import TokenFormula.Proofs.Source.Quote

/-!
# Texts that are read as trees

A text is read as a core if it is scanned as a word that the grammar derives, and
the derived tree has this core. The texts of the parts make the text of a whole,
in front of everything that can follow a tree inside a formula.

Results:
* `ReadAs`: a text is read as a core, where a construct of a level is due.
* `ReadAs.group`, `ReadAs.binary`, `ReadAs.call`, …: the constructs that are
  printed.
* `ReadAs.parse`: a formula text that is read as a core.
-/

namespace TokenFormula.Expr

open Source

/-- What follows a tree inside a printed formula: the end, a blank, a closing
    parenthesis or a comma. -/
def Closes (rest : List Char) : Prop :=
  ∀ c ∈ rest.head?, c = ' ' ∨ c = ')' ∨ c = ','

theorem closes_nil : Closes [] := fun c hc => by cases hc

theorem closes_blank (rest : List Char) : Closes (' ' :: rest) :=
  fun _ hc => .inl (Option.some.inj hc).symm

theorem closes_paren (rest : List Char) : Closes (')' :: rest) :=
  fun _ hc => .inr (.inl (Option.some.inj hc).symm)

theorem closes_comma (rest : List Char) : Closes (',' :: rest) :=
  fun _ hc => .inr (.inr (Option.some.inj hc).symm)

theorem Closes.ends_name {rest : List Char} (h : Closes rest) : Ends continuesName rest := by
  intro c hc
  obtain rfl | rfl | rfl := h c hc <;> decide

theorem Closes.ends_number {rest : List Char} (h : Closes rest) : Ends goesOn rest := by
  intro c hc
  obtain rfl | rfl | rfl := h c hc <;> decide

/-- The tree of a text that is scanned as a word which the grammar derives. -/
theorem parse_of_scans {s : String} {word : List Lexeme} {t : Tree} {e : Expr}
    (hd : Derives 0 word t) (hs : Scans .operand s.toList word .operator [])
    (ht : ofTree t = .ok e) : parse s = e.noted := by
  obtain ⟨d, rfl, rfl⟩ := hd
  obtain ⟨hw, hstop⟩ := lex_of_scans hs
  have htree : Source.parse s = .ok d.tree := by
    have hlex : lex s.toList = ⟨(lex s.toList).tokens, none⟩ := by
      rw [← hstop]
    rw [Source.parse, hlex]
    exact Sentence.parseTokens_eq (.plain d) hw
  rw [Expr.parse, htree]
  dsimp only
  rw [ht]

theorem noted_notedErrors {e : Expr} : e.noted.notedErrors = [] := by
  cases e <;> rfl

/-- Where a construct of this level is due, the text is read as a tree with this
    core, whatever follows. -/
def ReadAs (level : Nat) (s : String) (c : Expr) : Prop :=
  ∃ word t e, Derives level word t ∧
    (∀ rest, Closes rest → Scans .operand (s.toList ++ rest) word .operator rest) ∧
    ofTree t = .ok e ∧ e.core = c

namespace ReadAs

variable {level : Nat} {s s' : String} {c c' : Expr}

theorem mono {level' : Nat} (hl : level ≤ level') (h : ReadAs level' s c) : ReadAs level s c := by
  obtain ⟨word, t, e, hd, h⟩ := h
  exact ⟨word, t, e, hd.mono hl, h⟩

/-! ## Literals and names -/

theorem of_number {cs : List Char} {n : Number} (h : Number.IsNumeral cs n) :
    ReadAs 9 (String.ofList cs) (number n).core := by
  refine ⟨[.number (String.ofList cs)], .number (String.ofList cs), number n,
    .atom (.number (String.ofList cs)) rfl rfl, fun rest hr => ?_, ?_, rfl⟩
  · rw [String.toList_ofList]
    exact h.scans rest hr.ends_number
  · rw [ofTree, h.reads]
    rfl

theorem of_text (s : String) : ReadAs 9 (quote s) (literal (some (.text s)) false none) := by
  refine ⟨[.quoted (quote s)], .quoted (quote s), literal (some (.text s)) false none,
    .atom (.quoted (quote s)) rfl rfl, fun rest _ => scans_quote s rest, ?_, rfl⟩
  rw [ofTree, unquote_quote]

theorem of_keyword (k : Keyword) :
    ReadAs 9 k.spelling (literal (some (keywordValue k)) false none) := by
  refine ⟨[.keyword k], .keyword k, literal (some (keywordValue k)) false none,
    .atom (.keyword k) rfl rfl, fun rest hr => scans_keyword k hr.ends_name, ?_, ?_⟩
  · rw [ofTree]
  · cases k <;> rfl

theorem of_name (h : IsVariable s) : ReadAs 9 s (var (.text s) none) := by
  refine ⟨[.name s], .name s, var (.text s) none, .atom (.name s) rfl rfl,
    fun rest hr => scans_name h hr.ends_name, ?_, rfl⟩
  rw [ofTree]

/-! ## Operators, parentheses and assignments -/

theorem group (h : ReadAs 0 s c) : ReadAs 9 ("(" ++ s ++ ")") c := by
  obtain ⟨word, t, e, hd, hs, ht, hc⟩ := h
  refine ⟨.mark .openParen :: (word ++ [.mark .closeParen]), .group t, .group e none, hd.group,
    fun rest _ => ?_, ?_, hc⟩
  · have hchars : ("(" ++ s ++ ")").toList ++ rest = '(' :: (s.toList ++ ')' :: rest) := by
      simp [String.toList_append]
    rw [hchars]
    exact (scans_openParen _).trans ((hs _ (closes_paren rest)).trans (scans_closeParen rest))
  · rw [ofTree, ht]
    rfl

theorem joins_markOf (op : BinaryOp) : ∃ N L R, Joins N L (markOf op) op R := by
  cases op <;> exact ⟨_, _, _, by constructor⟩

/-- An operation without parentheses is read at the level of its rule. -/
theorem operation {N L R : Rule} {op : BinaryOp} (hj : Joins N L (markOf op) op R)
    (hl : ReadAs (leftLevel op) s c) (hr : ReadAs (rightLevel op) s' c') :
    ReadAs N.level (s ++ " " ++ op.symbol ++ " " ++ s')
      (.binary (.text op.symbol) c c' none) := by
  obtain ⟨wl, tl, el, hdl, hsl, htl, rfl⟩ := hl
  obtain ⟨wr, tr, er, hdr, hsr, htr, rfl⟩ := hr
  refine ⟨wl ++ .mark (markOf op) :: wr, .binary op tl tr,
    .binary (.text op.symbol) el er none, hj.derives hdl hdr, fun rest hr => ?_, ?_, rfl⟩
  · have hchars : (s ++ " " ++ op.symbol ++ " " ++ s').toList ++ rest =
        s.toList ++ ' ' :: (op.symbol.toList ++ ' ' :: (s'.toList ++ rest)) := by
      simp [String.toList_append]
    rw [hchars]
    exact (hsl _ (closes_blank _)).trans ((scans_binary op _).trans (hsr rest hr))
  · rw [ofTree, htl, htr]
    rfl

theorem binary {op : BinaryOp} (hl : ReadAs (leftLevel op) s c)
    (hr : ReadAs (rightLevel op) s' c') :
    ReadAs 9 ("(" ++ s ++ " " ++ op.symbol ++ " " ++ s' ++ ")")
      (.binary (.text op.symbol) c c' none) := by
  obtain ⟨N, L, R, hj⟩ := joins_markOf op
  have hs : "(" ++ s ++ " " ++ op.symbol ++ " " ++ s' ++ ")" =
      "(" ++ (s ++ " " ++ op.symbol ++ " " ++ s') ++ ")" := by
    simp only [String.append_assoc]
  rw [hs]
  exact ((operation hj hl hr).mono (Nat.zero_le _)).group

theorem unary {op : UnaryOp} (h : ReadAs 7 s c) :
    ReadAs 7 (op.symbol ++ s) (.unary (.text op.symbol) c none) := by
  obtain ⟨word, t, e, ⟨d, rfl, rfl⟩, hs, ht, rfl⟩ := h
  have hsign : Signs (signOf op) op := by
    cases op <;> constructor
  refine ⟨.mark (signOf op) :: d.word, .unary op d.tree, .unary (.text op.symbol) e none,
    ⟨.sign hsign d, rfl, rfl⟩, fun rest hr => ?_, ?_, rfl⟩
  · rw [String.toList_append, List.append_assoc]
    exact (scans_sign op _).trans (hs rest hr)
  · rw [ofTree, ht]
    rfl

theorem assign {name : String} (hn : IsVariable name) (h : ReadAs 0 s c) :
    ReadAs 0 (name ++ " = " ++ s) (.assign (.text name) c none) := by
  obtain ⟨word, t, e, ⟨d, rfl, rfl⟩, hs, ht, rfl⟩ := h
  refine ⟨.name name :: .mark .assign :: d.word, .assign name d.tree,
    .assign (.text name) e none, (Derivation.assign name d).derives, fun rest hr => ?_, ?_, rfl⟩
  · have hchars : (name ++ " = " ++ s).toList ++ rest =
        name.toList ++ ' ' :: '=' :: ' ' :: (s.toList ++ rest) := by
      simp [String.toList_append]
    rw [hchars]
    exact (scans_name hn (closes_blank _).ends_name).trans
      ((scans_assign _).trans (hs rest hr))
  · rw [ofTree, ht]
    rfl

/-! ## Calls -/

theorem ends_dot (rest : List Char) : Ends continuesName ('.' :: rest) := by
  intro c hc
  obtain rfl := Option.some.inj hc
  decide

theorem ends_openParen (rest : List Char) : Ends continuesName ('(' :: rest) := by
  intro c hc
  obtain rfl := Option.some.inj hc
  decide

/-- A dotted name is read as a chain of members. -/
theorem exists_of_isDotted (h : IsDotted s) :
    ∃ word t, Derives 9 word t ∧ t.dottedName? = some s ∧ ∀ rest, Ends continuesName rest →
      Scans .operand (s.toList ++ rest) word .operator rest := by
  induction h with
  | @name s hs =>
    exact ⟨[.name s], .name s, .atom (.name s) rfl rfl, rfl, fun rest hr => scans_name hs hr⟩
  | @member s m _ hm ih =>
    obtain ⟨word, t, hd, ht, hscan⟩ := ih
    refine ⟨word ++ [.mark .dot, .name m], .member t m, hd.member m, ?_, fun rest hr => ?_⟩
    · rw [Tree.dottedName?, ht]
      rfl
    · have hchars : (s ++ "." ++ m).toList ++ rest = s.toList ++ '.' :: (m.toList ++ rest) := by
        simp [String.toList_append]
      rw [hchars]
      exact (hscan _ (ends_dot _)).trans ((scans_dot _).trans (scans_member hm hr))

/-- The texts of arguments are read between commas. -/
theorem exists_of_forall₂ : {ss : List String} → {cs : List Expr} → ss ≠ [] →
    List.Forall₂ (ReadAs 0) ss cs → ∃ (args : Arguments) (es : List Expr),
      (∀ rest, Closes rest →
        Scans .operand ((", ".intercalate ss).toList ++ rest) args.word .operator rest) ∧
      ofTrees args.trees = .ok es ∧ coreArguments es = cs
  | [s], _, _, .cons ⟨_, _, e, ⟨d, rfl, rfl⟩, hs, ht, hc⟩ .nil => by
    refine ⟨.last d, [e], ?_, ?_, ?_⟩
    · rw [String.intercalate_singleton]
      exact hs
    · show ofTrees [d.tree] = _
      rw [ofTrees, ht, ofTrees]
      rfl
    · rw [coreArguments, hc]
      rfl
  | s :: s' :: ss, _, _, .cons ⟨_, _, e, ⟨d, rfl, rfl⟩, hs, ht, hc⟩ h => by
    obtain ⟨args, es, hargs, hts, hcs⟩ := exists_of_forall₂ (List.cons_ne_nil s' ss) h
    refine ⟨.more d args, e :: es, fun rest hr => ?_, ?_, ?_⟩
    · have hchars : (", ".intercalate (s :: s' :: ss)).toList ++ rest =
          s.toList ++ ',' :: ' ' :: ((", ".intercalate (s' :: ss)).toList ++ rest) := by
        rw [String.intercalate_cons_cons]
        simp [String.toList_append]
      rw [hchars]
      exact (hs _ (closes_comma _)).trans ((scans_comma _).trans (hargs rest hr))
    · show ofTrees (d.tree :: args.trees) = _
      rw [ofTrees, ht, hts]
      rfl
    · rw [coreArguments, hc, hcs]

theorem call {ss : List String} {cs : List Expr} (hn : IsDotted s)
    (h : List.Forall₂ (ReadAs 0) ss cs) : ReadAs 9 (callCode s ss) (.call (.text s) cs none) := by
  obtain ⟨word, t, ⟨d, rfl, rfl⟩, ht, hscan⟩ := exists_of_isDotted hn
  by_cases hss : ss = []
  · subst hss
    cases h
    refine ⟨(Derivation.call d).word, .call d.tree [], .call (.text s) [] none,
      (Derivation.call d).derives, fun rest _ => ?_, ?_, rfl⟩
    · have hchars : (callCode s []).toList ++ rest = s.toList ++ '(' :: ')' :: rest := by
        rw [callCode, String.intercalate_nil]
        simp [String.toList_append]
      rw [hchars]
      exact (hscan _ (ends_openParen _)).trans (scans_noArguments rest)
    · rw [ofTree, ht, ofTrees]
      rfl
  · obtain ⟨args, es, hargs, hts, rfl⟩ := exists_of_forall₂ hss h
    refine ⟨(Derivation.callWith d args).word, .call d.tree args.trees,
      .call (.text s) es none, (Derivation.callWith d args).derives, fun rest _ => ?_, ?_, rfl⟩
    · have hchars : (callCode s ss).toList ++ rest =
          s.toList ++ '(' :: ((", ".intercalate ss).toList ++ ')' :: rest) := by
        rw [callCode]
        simp [String.toList_append]
      rw [hchars]
      exact (hscan _ (ends_openParen _)).trans ((scans_openCall _).trans
        ((hargs _ (closes_paren rest)).trans (scans_closeParen rest)))
    · rw [ofTree, ht, hts]
      rfl

/-- A member of the table of functions is read as a call without arguments. -/
theorem of_member {m : String} (hm : IsName m) :
    ReadAs 9 (mathName ++ "." ++ m) (.call (.text (mathName ++ "." ++ m)) [] none) := by
  have hname : IsVariable mathName := ⟨isName_of_all rfl rfl rfl, rfl⟩
  refine ⟨[.name mathName] ++ [.mark .dot, .name m], .member (.name mathName) m,
    .call (.text (mathName ++ "." ++ m)) [] none,
    (Derives.atom (.name mathName) rfl rfl).member m, fun rest hr => ?_, ?_, rfl⟩
  · have hchars : (mathName ++ "." ++ m).toList ++ rest =
        mathName.toList ++ '.' :: (m.toList ++ rest) := by
      simp [String.toList_append]
    rw [hchars]
    exact (scans_name hname (ends_dot _)).trans
      ((scans_dot _).trans (scans_member hm hr.ends_name))
  · rw [ofTree]
    rfl

theorem of_constant (h : isConstantName s = true) :
    ReadAs 9 s (.call (.text s) [] none) := by
  have hs : s = mathName ++ "." ++ "PI" ∨ s = mathName ++ "." ++ "E" := by
    simpa [isConstantName, mathTable, mathName, Value.real] using h
  obtain rfl | rfl := hs
  · exact of_member (isName_of_all rfl rfl rfl)
  · exact of_member (isName_of_all rfl rfl rfl)

/-! ## Formula texts -/

/-- A text that is read as a core is a formula text with this core. -/
theorem parse (h : ReadAs 0 s c) : (parse s).notedErrors = [] ∧ (parse s).core = c := by
  obtain ⟨word, t, e, hd, hs, ht, rfl⟩ := h
  have hscan := hs [] closes_nil
  rw [List.append_nil] at hscan
  rw [parse_of_scans hd hscan ht]
  exact ⟨noted_notedErrors, core_withNote e _⟩

end ReadAs

end TokenFormula.Expr
