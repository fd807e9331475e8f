import TokenFormula.Proofs.Expr.Parse
import TokenFormula.Proofs.Expr.Pass

/-!
# Trees that can be printed

The text of a tree is read as the tree again if its names are names of the
grammar, no operand is an assignment and the base of a power is an operand in
itself. The tree of a formula text is of this kind if nothing in it is a
fallback and its numbers are finite, and the passes of the optimizer keep it so.

Results:
* `Printable`: what holds at each node of such a tree.
* `printable_parse`: the tree of a formula text.
* `printable_foldConstants`, `printable_dropRedundant`, `printable_joinTerms`,
  `printable_optimize`: the passes and the optimizer.
-/

namespace TokenFormula.Expr

open Source (IsVariable IsDotted)

/-! ## Nodes -/

/-- A value that is written in a formula text. -/
def IsWritten : Value → Prop
  | .null | .bool _ | .text _ => True
  | .num n => n.isNormal = true ∧ n.IsWritable
  | _ => False

/-- The node is written in a way that is read as the node. -/
def Printable : Expr → Prop
  | absent => False
  | binary op l r _ => ∃ o : BinaryOp, op = .text o.symbol ∧ l.isAssign = false ∧
    r.isAssign = false ∧ (o = .pow → l.isPrimary = true)
  | unary op e _ => ∃ o : UnaryOp, op = .text o.symbol ∧ e.isAssign = false
  | var name _ | assign name _ _ => ∃ s, name = .text s ∧ IsVariable s
  | literal v fallback _ => fallback = false ∧ ∃ w, v = some w ∧ IsWritten w
  | call name _ _ => ∃ s, name = .text s ∧ IsDotted s
  | group .. => True

theorem printable_number {n : Number} (hn : n.isNormal = true) (hw : n.IsWritable) :
    Printable (number n) :=
  ⟨rfl, .num n, rfl, hn, hw⟩

theorem printable_withNote {note : Option Note} (e : Expr) :
    Printable (e.withNote note) ↔ Printable e := by
  cases e <;> exact .rfl

/-! ## Formula texts -/

/-- No fallback, and no infinity or other number that is not finite. -/
def Supported : Expr → Prop
  | literal (some (.num n)) fallback _ => fallback = false ∧ n.isFinite = true
  | literal _ fallback _ => fallback = false
  | _ => True

theorem supported_withNote {note : Option Note} (e : Expr) :
    Supported (e.withNote note) ↔ Supported e := by
  cases e with
  | literal v fallback note' =>
    cases v with
    | none => exact .rfl
    | some v => cases v <;> exact .rfl
  | _ => exact .rfl

theorem printable_of_parsed {e : Expr} (h : Parsed e ∧ Supported e) : Printable e := by
  obtain ⟨h, hs⟩ := h
  cases e with
  | literal v fallback note =>
    obtain ⟨w, rfl, hw⟩ := h
    cases w with
    | num n => exact ⟨hs.1, _, rfl, hw.1, hw.2 hs.2⟩
    | null | bool | text => exact ⟨hs, _, rfl, trivial⟩
    | _ => exact hw.elim
  | _ => exact h

/-- The tree of a text that is read, without fallbacks and with finite numbers
    only, can be printed. -/
theorem printable_parse {source : String} (herr : (parse source).notedErrors = [])
    (hs : (parse source).Every Supported) : (parse source).Every Printable := by
  obtain ⟨t, e, ht, he, hp⟩ := exists_of_notedErrors herr
  rw [hp, noted] at hs ⊢
  have hparsed := parsed_ofTree t (Source.proper_of_parse ht) e he
  have hsupported := (every_withNote supported_withNote).mp hs
  exact (every_withNote printable_withNote).mpr
    (every_mono (fun _ => printable_of_parsed) _ (every_and hparsed hsupported))

/-! ## Folding -/

theorem isWritable_of_isFinite {n : Number} (h : (Value.num n).isFinite = .ok true) :
    n.IsWritable := by
  obtain ⟨x, hx, h⟩ := bind_eq_ok h
  cases n with
  | int k =>
    unfold Number.toReal at hx
    dsimp only at hx
    split at hx
    · rename_i y hy
      exact Number.natAbs_lt_of_ofInt? hy
    · cases hx
  | real y =>
    obtain rfl := Except.ok.inj hx
    exact Except.ok.inj h

theorem isWritable_normalize {n : Number} (h : n.IsWritable) : n.normalize.IsWritable := by
  cases n with
  | int k => exact h
  | real x =>
    unfold Number.normalize
    dsimp only
    split
    · split
      · rename_i hk
        exact Number.safeLimit_lt_textLimit hk
      · exact h
    · exact h

theorem foldedTo_shape {whole e : Expr} {r : Except Fault Value} (h : foldedTo whole r = .ok e) :
    e = whole ∨ ∃ n, e = number n := by
  obtain rfl | ⟨n, -, -, rfl⟩ := foldedTo_eq_ok h
  · exact .inl rfl
  · exact .inr ⟨_, rfl⟩

theorem foldBinary_shape {op : Value} {l r e : Expr} {note : Option Note}
    (h : foldBinary op l r note = .ok e) : e = binary op l r note ∨ ∃ n, e = number n := by
  unfold foldBinary at h
  split at h
  · split at h
    · exact .inl (Except.ok.inj h).symm
    · exact foldedTo_shape h
  · exact .inl (Except.ok.inj h).symm

theorem foldCall_shape {name : Value} {args : List Expr} {note : Option Note} {e : Expr}
    (h : foldCall name args note = .ok e) : e = call name args note ∨ ∃ n, e = number n := by
  unfold foldCall at h
  split at h
  · split at h
    · exact foldedTo_shape h
    · exact .inl (Except.ok.inj h).symm
  · split at h
    · cases h
    · exact .inl (Except.ok.inj h).symm

/-- Folding makes no assignment, and keeps an operand one. -/
theorem foldConstants_shape {e e' : Expr} (h : e.foldConstants = .ok e') :
    (e.isAssign = false → e'.isAssign = false) ∧ (e.isPrimary = true → e'.isPrimary = true) := by
  cases e with
  | absent | literal | var =>
    rw [foldConstants] at h
    rw [← Except.ok.inj h]
    exact ⟨id, id⟩
  | group body note | assign name e note =>
    rw [foldConstants] at h
    obtain ⟨e₁, -, h⟩ := bind_eq_ok h
    rw [← Except.ok.inj h]
    exact ⟨id, id⟩
  | unary op e note =>
    rw [foldConstants] at h
    obtain ⟨e₁, -, h⟩ := bind_eq_ok h
    rw [← Except.ok.inj h]
    refine ⟨fun _ => ?_, fun hp => by cases hp⟩
    unfold foldUnary
    split <;> rfl
  | binary op l r note =>
    rw [foldConstants] at h
    obtain ⟨l₁, -, h⟩ := bind_eq_ok h
    obtain ⟨r₁, -, h⟩ := bind_eq_ok h
    obtain rfl | ⟨n, rfl⟩ := foldBinary_shape h <;>
    exact ⟨fun _ => rfl, fun hp => by cases hp⟩
  | call name args note =>
    rw [foldConstants] at h
    obtain ⟨args₁, -, h⟩ := bind_eq_ok h
    obtain rfl | ⟨n, rfl⟩ := foldCall_shape h <;>
    exact ⟨fun _ => rfl, fun _ => rfl⟩

theorem keptByFolding_printable : KeptByFolding Printable where
  children :=
    { binary := by
        rintro op l l' r r' note ⟨o, rfl, hl, hr, hp⟩ hl' hr'
        exact ⟨o, rfl, (foldConstants_shape hl').1 hl, (foldConstants_shape hr').1 hr,
          fun ho => (foldConstants_shape hl').2 (hp ho)⟩
      unary := by
        rintro op e e' note ⟨o, rfl, he⟩ he'
        exact ⟨o, rfl, (foldConstants_shape he').1 he⟩
      call := fun h _ => h
      assign := fun h _ => h
      group := fun _ _ => trivial }
  finite h := printable_number (Number.isNormal_normalize _)
    (isWritable_normalize (isWritable_of_isFinite h))
  negated h := by
    obtain ⟨-, w, hw, h⟩ := h
    obtain rfl := Option.some.inj hw
    exact printable_number (Number.isNormal_normalize _)
      (isWritable_normalize (Number.isWritable_negate h.2))
  truth b := ⟨rfl, .bool b, rfl, trivial⟩

/-- Folding keeps a tree printable. -/
theorem printable_foldConstants {e e' : Expr} (he : e.Every Printable)
    (h : e.foldConstants = .ok e') : e'.Every Printable :=
  every_foldConstants keptByFolding_printable e he e' h

/-! ## Dropping -/

/-- Dropping keeps a tree printable, makes no assignment, and keeps an operand
    one. -/
structure DropsPrintable (e : Expr) : Prop where
  every : e.dropRedundant.Every Printable
  isAssign : e.isAssign = false → e.dropRedundant.isAssign = false
  isPrimary : e.isPrimary = true → e.dropRedundant.isPrimary = true

theorem printable_one : Printable (number (.int 1)) :=
  printable_number rfl (Number.safeLimit_lt_textLimit (k := 1) (by decide))

theorem printable_two : Printable (number (.int 2)) :=
  printable_number rfl (Number.safeLimit_lt_textLimit (k := 2) (by decide))

mutual

theorem dropsPrintable : (e : Expr) → e.Every Printable → DropsPrintable e
  | absent, he => he.elim
  | literal .., he | var .., he => ⟨he, id, id⟩
  | group body note, he => by
    have hb := dropsPrintable body he.2
    have hshape : (∃ v f n, body.dropRedundant = literal v f n) ∨
        (∃ x n, body.dropRedundant = var x n) ∨
        dropGroup body.dropRedundant note = group body.dropRedundant note := by
      unfold dropGroup
      split
      · rename_i h
        exact .inl ⟨_, _, _, h⟩
      · rename_i h
        exact .inr (.inl ⟨_, _, h⟩)
      · exact .inr (.inr rfl)
    obtain ⟨v, f, n, h⟩ | ⟨x, n, h⟩ | h := hshape
    · have hd : (group body note).dropRedundant = literal v f n := by
        rw [dropRedundant, h]
        rfl
      have hbe := hb.every
      rw [h] at hbe
      exact ⟨hd ▸ hbe, fun _ => hd ▸ rfl, fun _ => hd ▸ rfl⟩
    · have hd : (group body note).dropRedundant = var x n := by
        rw [dropRedundant, h]
        rfl
      have hbe := hb.every
      rw [h] at hbe
      exact ⟨hd ▸ hbe, fun _ => hd ▸ rfl, fun _ => hd ▸ rfl⟩
    · have hd : (group body note).dropRedundant = group body.dropRedundant note := by
        rw [dropRedundant, h]
      exact ⟨hd ▸ ⟨trivial, hb.every⟩, fun _ => hd ▸ rfl, fun _ => hd ▸ rfl⟩
  | unary op e note, he => by
    have hd := dropsPrintable e he.2
    obtain ⟨o, rfl, hn⟩ := he.1
    refine ⟨?_, fun _ => ?_, fun hp => by cases hp⟩ <;> rw [dropRedundant] <;>
      obtain h | ⟨-, x, note', hu, -, h⟩ :=
        dropUnary_cases (.text o.symbol) e.dropRedundant note <;> rw [h]
    · exact ⟨⟨o, rfl, hd.isAssign hn⟩, hd.every⟩
    · have hx := every_ungroup _ hd.every
      rw [hu] at hx
      exact hx.2
    · rfl
    · have hx := every_ungroup _ hd.every
      rw [hu] at hx
      obtain ⟨o', -, ho'⟩ := hx.1
      exact ho'
  | binary op l r note, he => by
    have hl := dropsPrintable l he.2.1
    have hr := dropsPrintable r he.2.2
    obtain ⟨o, rfl, hnl, hnr, hp⟩ := he.1
    refine ⟨?_, fun _ => ?_, fun hp => by cases hp⟩ <;> rw [dropRedundant] <;>
      obtain h | ⟨-, -, h | h | h⟩ :=
        dropBinary_cases (.text o.symbol) l.dropRedundant r.dropRedundant note <;> rw [h]
    · exact ⟨⟨o, rfl, hl.isAssign hnl, hr.isAssign hnr, fun ho => hl.isPrimary (hp ho)⟩,
        hl.every, hr.every⟩
    · exact hl.every
    · exact hr.every
    · exact every_number printable_one
    · rfl
    · exact hl.isAssign hnl
    · exact hr.isAssign hnr
    · rfl
  | assign name e note, he => ⟨⟨he.1, (dropsPrintable e he.2).every⟩, id, id⟩
  | call name args note, he => ⟨⟨he.1, dropsPrintableIn args he.2⟩, id, id⟩

theorem dropsPrintableIn : (args : List Expr) → EveryArgument Printable args →
    EveryArgument Printable (dropRedundantIn args)
  | [], _ => trivial
  | a :: rest, he => ⟨(dropsPrintable a he.1).every, dropsPrintableIn rest he.2⟩

end

/-- Dropping keeps a tree printable. -/
theorem printable_dropRedundant {e : Expr} (he : e.Every Printable) :
    e.dropRedundant.Every Printable :=
  (dropsPrintable e he).every

/-! ## Joining -/

theorem joinTerms_isAssign (e : Expr) : e.joinTerms.isAssign = e.isAssign := by
  cases e with
  | binary op l r note =>
    rw [joinTerms]
    obtain h | ⟨_, _, _, _, -, -, -, -, h⟩ := joinBinary_cases op l.joinTerms r.joinTerms note <;>
    · rw [h]
      rfl
  | _ => rfl

theorem joinTerms_isPrimary (e : Expr) : e.joinTerms.isPrimary = e.isPrimary := by
  cases e with
  | binary op l r note =>
    rw [joinTerms]
    obtain h | ⟨_, _, _, _, -, -, -, -, h⟩ := joinBinary_cases op l.joinTerms r.joinTerms note <;>
    · rw [h]
      rfl
  | _ => rfl

theorem keptByJoining_printable : KeptBy (fun e e' => e' = e.joinTerms) Printable where
  binary := by
    rintro op l l' r r' note ⟨o, rfl, hl, hr, hp⟩ rfl rfl
    exact ⟨o, rfl, (joinTerms_isAssign l).trans hl, (joinTerms_isAssign r).trans hr,
      fun ho => (joinTerms_isPrimary l).trans (hp ho)⟩
  unary := by
    rintro op e e' note ⟨o, rfl, he⟩ rfl
    exact ⟨o, rfl, (joinTerms_isAssign e).trans he⟩
  call h _ := h
  assign h _ := h
  group _ _ := trivial

/-- Joining keeps a tree printable. -/
theorem printable_joinTerms {e : Expr} (he : e.Every Printable) :
    e.joinTerms.Every Printable :=
  every_joinTerms keptByJoining_printable printable_two
    (fun _ => ⟨.mul, rfl, rfl, rfl, fun ho => by cases ho⟩) e he

/-! ## Optimizing -/

theorem printable_round {e e' : Expr} (he : e.Every Printable) (h : e.round = .ok e') :
    e'.Every Printable := by
  obtain ⟨e₁, h₁, rfl⟩ := exists_of_round h
  exact printable_joinTerms (printable_dropRedundant (printable_foldConstants he h₁))

/-- The optimizer keeps a tree printable. -/
theorem printable_optimize {e : Expr} (maxRounds : Int) (he : e.Every Printable) :
    (e.optimize maxRounds).Every Printable :=
  every_optimize printable_round printable_withNote maxRounds he

end TokenFormula.Expr
