import TokenFormula.Proofs.Expr.Reparse
import TokenFormula.Proofs.Expr.Settle
import TokenFormula.Proofs.Value.Fault

/-!
# Integers beyond the doubles

Sums, differences and products of integers are exact, so folding can come to an integer
beyond the largest double. Whether that one is finite is asked as of a double, and this
question fails. Nothing else in the passes does: what an operator or a function fails with
is a fault of its own, which leaves the tree as it is.

Results:
* `FoldsInRange`: folding gives no such integer at a node.
* `foldConstants_succeedsIff`: folding fails for such an integer only.
* `StartsRound`, `rounds_succeedsIff`: so do the rounds.
* `optimize_text_succeedsIff`: so does the optimizer on every formula text.
* `not_optimize_text_succeeds`: the text of a sum on which it does.
-/

namespace TokenFormula.Expr

/-! ## Results of folding -/

theorem isFinite_succeedsIff (v : Value) :
    SucceedsIff (· = .integerTooLarge)
      (∀ k, v = .num (.int k) → k.natAbs < Double.overflowLimit) v.isFinite := by
  cases v with
  | num n =>
    cases n with
    | real x => exact fun k h => by cases h
    | int k =>
      have hreal := Number.exists_toReal_int_iff k
      have hiff : (∀ j, Value.num (.int k) = .num (.int j) → j.natAbs < Double.overflowLimit) ↔
          k.natAbs < Double.overflowLimit := by simp
      refine SucceedsIff.congr (SucceedsIff.map (c := k.natAbs < Double.overflowLimit) ?_) hiff.symm
      cases h : (Number.int k).toReal with
      | ok x => exact hreal.mp ⟨x, h⟩
      | error f =>
        refine ⟨fun hk => ?_, Number.toReal_fault _ f h⟩
        obtain ⟨x, hx⟩ := hreal.mpr hk
        rw [h] at hx
        cases hx
  | _ => exact fun k h => by cases h

/-- A fault of the computation leaves the tree, and a result that is no integer beyond the
    doubles is looked at without a fault. -/
theorem foldedTo_succeedsIff {whole : Expr} {r : Except Fault Value}
    (hr : FailsIn (·.isOfCall) r) :
    SucceedsIff (· = .integerTooLarge)
      (∀ k, r = .ok (.num (.int k)) → k.natAbs < Double.overflowLimit) (foldedTo whole r) := by
  cases r with
  | error f =>
    rw [foldedTo, if_pos (hr f rfl)]
    exact fun k h => by cases h
  | ok v =>
    have hiff : (∀ k, v = .num (.int k) → k.natAbs < Double.overflowLimit) ↔
        ∀ k, (.ok v : Except Fault Value) = .ok (.num (.int k)) →
          k.natAbs < Double.overflowLimit := by
      simp only [Except.ok.injEq]
    refine SucceedsIff.congr ?_ hiff
    have hf := isFinite_succeedsIff v
    rw [foldedTo]
    cases h : v.isFinite with
    | error f =>
      rw [h] at hf
      exact hf
    | ok finite =>
      rw [h] at hf
      rw [ok_bind]
      split <;> exact hf

/-! ## Operators -/

/-- The integer that an operator gives for two integers exactly. The other operators work
    on doubles. -/
def exactResult? (op : Value) (m n : Int) : Option Int :=
  match op with
  | .text "+" => some (m + n)
  | .text "-" => some (m - n)
  | .text "*" => some (m * n)
  | _ => none

theorem arithmetic_eq_int_iff {onInt : Int → Int → Int} {onReal : Float → Float → Float}
    {a b : Number} {k : Int} :
    Number.arithmetic onInt onReal a b = .ok (.int k) ↔
      ∃ m n, a = .int m ∧ b = .int n ∧ onInt m n = k := by
  constructor
  · intro h
    unfold Number.arithmetic at h
    split at h
    · exact ⟨_, _, rfl, rfl, Number.int.inj (Except.ok.inj h)⟩
    · obtain ⟨x, -, h⟩ := bind_eq_ok h
      obtain ⟨y, -, h⟩ := bind_eq_ok h
      cases h
  · rintro ⟨m, n, rfl, rfl, rfl⟩
    rfl

theorem divide_ne_int (a b : Number) (k : Int) : a.divide b ≠ .ok (.int k) := by
  intro h
  unfold Number.divide at h
  split at h
  · split at h
    · cases h
    · split at h <;> cases h
  · obtain ⟨x, -, h⟩ := bind_eq_ok h
    obtain ⟨y, -, h⟩ := bind_eq_ok h
    split at h <;> cases h

theorem natAbs_lt_of_normalize_real {x : Float} {k : Int}
    (h : (Number.real x).normalize = .int k) : k.natAbs < Number.safeLimit.natAbs := by
  unfold Number.normalize at h
  dsimp only at h
  split at h
  · split at h
    · rename_i hlt
      obtain rfl := Number.int.inj h
      exact hlt
    · cases h
  · cases h

/-- A power is computed in doubles, so an integer that it gives is small. -/
theorem natAbs_lt_of_power {a b : Value} {k : Int} (h : power a b = .ok (.num (.int k))) :
    k.natAbs < Double.overflowLimit := by
  have hlarge : overflowedPower a b ≠ .ok (.num (.int k)) := by
    intro h
    obtain ⟨odd, -, h⟩ := bind_eq_ok h
    obtain ⟨negative, -, h⟩ := bind_eq_ok h
    cases h
  have hsafe : Number.safeLimit.natAbs ≤ Double.overflowLimit := by decide +kernel
  unfold power powerWith at h
  split at h
  · exact absurd h hlarge
  · cases h
  · exact absurd h hlarge
  · cases h
  · cases h
  · have hn := natAbs_lt_of_normalize_real (Value.num.inj (Except.ok.inj h))
    omega

theorem num_bind_eq_int_iff {r : Except Fault Number} {k : Int} :
    (do return Value.num (← r)) = Except.ok (.num (.int k)) ↔ r = .ok (.int k) := by
  constructor
  · exact map_num_eq_ok
  · rintro rfl
    rfl

theorem foldOperator_fault (op : Value) (a b : Number) :
    FailsIn (·.isOfCall) (foldOperator op a b) := by
  have hmap : ∀ {r : Except Fault Number}, FailsIn (·.isArithmetic) r →
      FailsIn (·.isOfCall) (do return Value.num (← r)) := fun h =>
    (h.mono Fault.isOfCall_of_isArithmetic).bind fun _ => .ok _
  unfold foldOperator
  split
  · exact hmap (Number.add_fault a b)
  · exact hmap (Number.sub_fault a b)
  · exact hmap (Number.mul_fault a b)
  · exact hmap (Number.divide_fault a b)
  · exact (power_num_fault a b).mono Fault.isOfCall_of_isArithmetic
  · exact .ok _

/-- Only exact operations on integers come to an integer beyond the doubles. -/
theorem foldOperator_inRange_iff {op : Value} {a b : Number} :
    (∀ k, foldOperator op a b = .ok (.num (.int k)) → k.natAbs < Double.overflowLimit) ↔
      ∀ m n k, a = .int m → b = .int n → exactResult? op m n = some k →
        k.natAbs < Double.overflowLimit := by
  have harith : ∀ (onInt : Int → Int → Int) (onReal : Float → Float → Float),
      (∀ k, (do return Value.num (← Number.arithmetic onInt onReal a b)) =
          Except.ok (.num (.int k)) → k.natAbs < Double.overflowLimit) ↔
        ∀ m n k, a = .int m → b = .int n → some (onInt m n) = some k →
          k.natAbs < Double.overflowLimit := by
    intro onInt onReal
    simp only [num_bind_eq_int_iff, arithmetic_eq_int_iff, Option.some.injEq]
    constructor
    · exact fun h m n k ha hb hk => h k ⟨m, n, ha, hb, hk⟩
    · rintro h k ⟨m, n, ha, hb, hk⟩
      exact h m n k ha hb hk
  unfold foldOperator exactResult?
  split
  · exact harith _ _
  · exact harith _ _
  · exact harith _ _
  · refine iff_of_true (fun k h => ?_) (by simp)
    exact absurd (num_bind_eq_int_iff.mp h) (divide_ne_int a b k)
  · exact iff_of_true (fun k h => natAbs_lt_of_power h) (by simp)
  · rename_i hadd hsub hmul _ _
    refine iff_of_true (fun k h => by cases h) fun m n k _ _ h => ?_
    split at h
    · exact absurd rfl hadd
    · exact absurd rfl hsub
    · exact absurd rfl hmul
    · cases h

/-! ## Nodes -/

/-- Folding comes to no integer beyond the doubles at the node: neither as the exact result
    of an operator nor as that of a function. -/
def FoldsInRange : Expr → Prop
  | binary op l r _ => ∀ l' r' m n k, l.foldConstants = .ok l' → r.foldConstants = .ok r' →
    l'.number? = some (.int m) → r'.number? = some (.int n) → exactResult? op m n = some k →
    k.natAbs < Double.overflowLimit
  | call name args _ => ∀ s f args' ns k, name = .text s →
    (mathMember? s).bind foldable? = some f → foldArguments args = .ok args' → args' ≠ [] →
    numbers? args' = some ns → f.apply (ns.map .num) = .ok (.num (.int k)) →
    k.natAbs < Double.overflowLimit
  | _ => True

/-- A call at the node has a text as its name. -/
def TextCalled : Expr → Prop
  | call name _ _ => ∃ s, name = .text s
  | _ => True

theorem foldBinary_succeedsIff (op : Value) (l r : Expr) (note : Option Note) :
    SucceedsIff (· = .integerTooLarge)
      (∀ m n k, l.number? = some (.int m) → r.number? = some (.int n) →
        exactResult? op m n = some k → k.natAbs < Double.overflowLimit)
      (foldBinary op l r note) := by
  unfold foldBinary
  dsimp only
  split
  · rename_i a b ha hb
    rw [ha, hb]
    simp only [Option.some.injEq]
    split
    · exact fun m n k _ _ h => by cases h
    · refine (foldedTo_succeedsIff (foldOperator_fault _ a b)).congr ?_
      exact foldOperator_inRange_iff
  · rename_i hnone
    exact fun m n k hm hn _ => absurd hn (hnone _ _ hm)

theorem foldCall_succeedsIff (s : String) (args : List Expr) (note : Option Note) :
    SucceedsIff (· = .integerTooLarge)
      (∀ f ns k, (mathMember? s).bind foldable? = some f → args ≠ [] →
        numbers? args = some ns → f.apply (ns.map .num) = .ok (.num (.int k)) →
        k.natAbs < Double.overflowLimit) (foldCall (.text s) args note) := by
  unfold foldCall
  dsimp only
  split
  · rename_i f a rest ns hf hns
    refine (foldedTo_succeedsIff (Builtin.apply_fault f _)).congr ⟨fun h g ms k hg _ hms => ?_,
      fun h k => h f ns k hf (List.cons_ne_nil a rest) hns⟩
    obtain rfl := Option.some.inj (hf.symm.trans hg)
    obtain rfl := Option.some.inj (hns.symm.trans hms)
    exact h k
  · rename_i hnone
    intro f ns k hf hne hns
    obtain ⟨a, rest, hargs⟩ := List.exists_cons_of_ne_nil hne
    exact absurd hns (hnone f a rest ns hf hargs)

/-! ## Folding -/

mutual

/-- Folding fails just where it comes to an integer beyond the doubles. -/
theorem foldConstants_succeedsIff : (e : Expr) → e.Every TextCalled →
    SucceedsIff (· = .integerTooLarge) (e.Every FoldsInRange) e.foldConstants
  | absent, _ | var .., _ | literal .., _ => trivial
  | group e _, he => (foldConstants_succeedsIff e he.2).map.congr (iff_of_eq (true_and _)).symm
  | assign _ e _, he => (foldConstants_succeedsIff e he.2).map.congr (iff_of_eq (true_and _)).symm
  | unary _ e _, he => (foldConstants_succeedsIff e he.2).map.congr (iff_of_eq (true_and _)).symm
  | binary op l r note, he => by
    have hbind := (foldConstants_succeedsIff l he.2.1).bind fun l' hl =>
      (foldConstants_succeedsIff r he.2.2).bind fun r' hr =>
        (foldBinary_succeedsIff op l' r' note).congr
          (d := FoldsInRange (binary op l r note)) ⟨?_, ?_⟩
    · exact hbind.congr ⟨fun ⟨hl, hr, hroot⟩ => ⟨hroot, hl, hr⟩,
        fun ⟨hroot, hl, hr⟩ => ⟨hl, hr, hroot⟩⟩
    · intro h l₁ r₁ m n k hl₁ hr₁
      obtain rfl := Except.ok.inj (hl.symm.trans hl₁)
      obtain rfl := Except.ok.inj (hr.symm.trans hr₁)
      exact h m n k
    · exact fun h m n k => h l' r' m n k hl hr
  | call name args note, he => by
    obtain ⟨⟨s, rfl⟩, hargs⟩ := he
    have hbind := (foldArguments_succeedsIff args hargs).bind fun args' ha =>
      (foldCall_succeedsIff s args' note).congr
        (d := FoldsInRange (call (.text s) args note)) ⟨?_, ?_⟩
    · exact hbind.congr and_comm
    · intro h s' f args₁ ns k hs hf ha₁
      obtain rfl := Value.text.inj hs
      obtain rfl := Except.ok.inj (ha.symm.trans ha₁)
      exact h f ns k hf
    · exact fun h f ns k hf => h s f args' ns k rfl hf ha

theorem foldArguments_succeedsIff : (args : List Expr) → EveryArgument TextCalled args →
    SucceedsIff (· = .integerTooLarge) (EveryArgument FoldsInRange args) (foldArguments args)
  | [], _ => trivial
  | a :: rest, he =>
    ((foldConstants_succeedsIff a he.1).bind fun _ _ =>
      (foldArguments_succeedsIff rest he.2).map)

end

/-! ## Rounds -/

theorem keptBy_textCalled (R : Expr → Expr → Prop) : KeptBy R TextCalled where
  binary _ _ _ := trivial
  unary _ _ := trivial
  call h _ := h
  assign _ _ := trivial
  group _ _ := trivial

theorem keptByFolding_textCalled : KeptByFolding TextCalled where
  children := keptBy_textCalled _
  finite _ := trivial
  negated _ := trivial
  truth _ := trivial

theorem keptByRules_textCalled : KeptByRules TextCalled where
  folding := keptByFolding_textCalled
  dropping := keptBy_textCalled _
  joining := keptBy_textCalled _
  one := trivial
  two := trivial
  product _ := trivial

theorem textCalled_of_parsed {e : Expr} (h : Parsed e) : TextCalled e := by
  cases e with
  | call name args note =>
    obtain ⟨s, hs, -⟩ := h
    exact ⟨s, hs⟩
  | _ => trivial

theorem textCalled_withNote {note : Option Note} (e : Expr) :
    TextCalled (e.withNote note) ↔ TextCalled e := by
  cases e <;> exact .rfl

/-- After folding, dropping and joining do not fail. -/
theorem round_succeedsIff {e : Expr} (he : e.Every TextCalled) :
    SucceedsIff (· = .integerTooLarge) (e.Every FoldsInRange) e.round :=
  (foldConstants_succeedsIff e he).map

/-- The trees from which at most this many rounds start: the first, and what a round makes
    of one if it changes it. -/
inductive StartsRound : Nat → Expr → Expr → Prop
  | first {n e} : StartsRound (n + 1) e e
  | next {n e e' r} : e.round = .ok e' → e'.same e = false → StartsRound n e' r →
      StartsRound (n + 1) e r

theorem textCalled_of_startsRound {n : Nat} {e r : Expr} (h : StartsRound n e r)
    (he : e.Every TextCalled) : r.Every TextCalled := by
  induction h with
  | first => exact he
  | next hround _ _ ih => exact ih (keptByRules_textCalled.every_round he hround)

/-- The rounds fail just where one starts from a tree whose folding fails. -/
theorem rounds_succeedsIff (n : Nat) : ∀ {e : Expr}, e.Every TextCalled →
    SucceedsIff (· = .integerTooLarge) (∀ r, StartsRound n e r → r.Every FoldsInRange)
      (rounds n e) := by
  induction n with
  | zero =>
    intro e _ r h
    cases h
  | succ n ih =>
    intro e he
    have hbind := (round_succeedsIff he).bind
      (d := ∀ e', e.round = .ok e' → e'.same e = false → ∀ r, StartsRound n e' r →
        r.Every FoldsInRange)
      (k := fun e' => if e'.same e then return e else rounds n e') ?_
    · refine hbind.congr ⟨?_, fun h => ⟨h e .first, fun e' hr hs r h' => h r (.next hr hs h')⟩⟩
      rintro ⟨hroot, hnext⟩ r h
      cases h with
      | first => exact hroot
      | next hround hsame h => exact hnext _ hround hsame r h
    · intro e' hround
      split
      · rename_i hsame
        intro e₁ hround₁ hsame₁
        obtain rfl := Except.ok.inj (hround.symm.trans hround₁)
        exact absurd hsame (Bool.eq_false_iff.mp hsame₁)
      · rename_i hsame
        refine (ih (keptByRules_textCalled.every_round he hround)).congr
          ⟨fun h e₁ hround₁ _ => ?_, fun h => h e' hround (Bool.eq_false_iff.mpr hsame)⟩
        obtain rfl := Except.ok.inj (hround.symm.trans hround₁)
        exact h

/-- So the optimizer fails just where a round does that it starts. -/
theorem optimize_succeedsIff {e : Expr} (maxRounds : Int) (he : e.Every TextCalled) :
    SucceedsIff (· = .integerTooLarge)
      (∀ r, StartsRound (max 1 maxRounds).toNat (e.withNote none) r → r.Every FoldsInRange)
      (e.optimize? maxRounds) :=
  (rounds_succeedsIff _ ((every_withNote textCalled_withNote).mpr he)).map

/-! ## Formula texts -/

theorem textCalled_parse (source : String) : (parse source).Every TextCalled :=
  every_mono (fun _ => textCalled_of_parsed) _ (parsed_parse source)

/-- On a formula text each round that is started fails just where folding comes to an
    integer beyond the doubles, and the optimizer gives up just where one of them does. -/
theorem optimize_text_succeedsIff (source : String) (maxRounds : Int) :
    (∀ e, StartsRound (max 1 maxRounds).toNat ((parse source).withNote none) e →
      SucceedsIff (· = .integerTooLarge) (e.Every FoldsInRange) e.round) ∧
    SucceedsIff (· = .integerTooLarge)
      (∀ e, StartsRound (max 1 maxRounds).toNat ((parse source).withNote none) e →
        e.Every FoldsInRange)
      ((parse source).optimize? maxRounds) := by
  have hplain : ((parse source).withNote none).Every TextCalled :=
    (every_withNote textCalled_withNote).mpr (textCalled_parse source)
  exact ⟨fun e h => round_succeedsIff (textCalled_of_startsRound h hplain),
    optimize_succeedsIff maxRounds (textCalled_parse source)⟩

/-! ## Sums of integers -/

/-- The text of a sum of two integers. -/
def sumText (m n : Nat) : String :=
  toString m ++ " + " ++ toString n

theorem parse_sumText {m n : Nat} (hm : m < Number.textLimit) (hn : n < Number.textLimit) :
    parse (sumText m n) =
      (binary (.text "+") (number (.int m)) (number (.int n)) none).noted := by
  have hleft := Number.isNumeral_int hm
  have hright := Number.isNumeral_int hn
  have hatom : ∀ cs : List Char,
      Source.Derives 9 [.number (String.ofList cs)] (.number (String.ofList cs)) := fun cs =>
    .atom (.number (String.ofList cs)) rfl rfl
  have hderives := Source.Joins.plus.derives ((hatom (Nat.toDigits 10 m)).mono (by decide))
    ((hatom (Nat.toDigits 10 n)).mono (by decide))
  refine parse_of_scans (hderives.mono (Nat.zero_le _)) ?_ ?_
  · have hscan := (hleft.scans _ (closes_blank _).ends_number).trans
      ((Source.scans_binary .add _).trans (hright.scans [] closes_nil.ends_number))
    simpa [sumText, BinaryOp.symbol, Source.markOf] using hscan
  · rw [ofTree, ofTree, ofTree, hleft.reads, hright.reads]
    rfl

/-- A sum beyond the doubles makes the optimizer give up. -/
theorem optimize_sumText {m n : Nat} (hm : m < Number.textLimit) (hn : n < Number.textLimit)
    (h : Double.overflowLimit ≤ m + n) (maxRounds : Int) :
    (parse (sumText m n)).optimize? maxRounds = .error .integerTooLarge := by
  let sum := binary (.text "+") (number (.int m)) (number (.int n)) none
  have hplain : (parse (sumText m n)).withNote none = sum := by
    rw [parse_sumText hm hn]
    rfl
  have hfails := optimize_succeedsIff maxRounds (textCalled_parse (sumText m n))
  rw [hplain] at hfails
  obtain ⟨k, hk⟩ : ∃ k, (max 1 maxRounds).toNat = k + 1 := ⟨(max 1 maxRounds).toNat - 1, by omega⟩
  have hlarge : ¬ ∀ e, StartsRound (max 1 maxRounds).toNat sum e → e.Every FoldsInRange := by
    intro hall
    rw [hk] at hall
    have hlt := (hall sum .first).1 _ _ m n (m + n) rfl rfl rfl rfl rfl
    omega
  cases hr : (parse (sumText m n)).optimize? maxRounds with
  | ok r =>
    rw [hr] at hfails
    exact absurd hfails hlarge
  | error f =>
    rw [hr] at hfails
    rw [hfails.2]

/-- The text of the sum of `10 ^ 309` and one is read without an error, and the optimizer
    gives up on it. -/
theorem not_optimize_text_succeeds :
    (parse (sumText (10 ^ 309) 1)).notedErrors = [] ∧
      (parse (sumText (10 ^ 309) 1)).optimize? 10 = .error .integerTooLarge := by
  have hm : 10 ^ 309 < Number.textLimit := by decide +kernel
  have hn : 1 < Number.textLimit := by decide +kernel
  refine ⟨?_, optimize_sumText hm hn (by decide +kernel) 10⟩
  rw [parse_sumText hm hn]
  exact noted_notedErrors

end TokenFormula.Expr
