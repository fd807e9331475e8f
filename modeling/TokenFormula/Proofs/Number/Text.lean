import TokenFormula.Proofs.Number.Normal
import TokenFormula.Proofs.Source.Numeral

/-!
# Numbers as text

The text of a finite number in normal form is a numeral of the grammar, behind a
minus for a negative one. An integer is read back from its digits; that a double
is read back from its shortest text is a condition here.

Results:
* `write_isPrinted`: the shape of the text of a double.
* `text_of_negative`: the text of a negative number.
* `exists_numeral`: the text of another number is one word, which is read as the
  number.
* `eq_of_toString_eq`: different integers have different texts.
-/

namespace TokenFormula

open Source

namespace Double

/-! ## The text of a double -/

/-- Characters of a printed numeral: it starts with a digit or with the letter of
    an exponent, and is no integer. -/
structure IsPrinted (cs : List Char) : Prop where
  numeric : ∀ c ∈ cs, isNumeric c = true
  start : ∀ c ∈ cs.head?, c.isDigit = true ∨ c = 'e'
  real : ∃ c ∈ cs, c = '.' ∨ c = 'e'

theorem IsPrinted.unsigned {cs : List Char} (h : IsPrinted cs) :
    ∀ c ∈ cs.head?, c ≠ '+' ∧ c ≠ '-' := by
  intro c hc
  obtain hd | rfl := h.start c hc
  · exact ⟨by rintro rfl; exact absurd hd (by decide), by rintro rfl; exact absurd hd (by decide)⟩
  · decide

theorem isDigit_significantDigits {d : Decimal} {c : Char} (h : c ∈ significantDigits d) :
    c.isDigit = true := by
  rw [significantDigits, List.mem_reverse] at h
  have h := (List.dropWhile_suffix _).mem h
  exact isDigit_toDigits (List.mem_reverse.mp h)

theorem isDigit_replicate {n : Nat} {c : Char} (h : c ∈ List.replicate n '0') :
    c.isDigit = true := by
  rw [List.eq_of_mem_replicate h]
  rfl

theorem isDigit_zero : ∀ c ∈ ['0'], c.isDigit = true :=
  List.all_eq_true.mp rfl

/-- Digits with a point among them. -/
theorem isPrinted_point {whole fraction : List Char} (hne : whole ≠ [])
    (hw : ∀ c ∈ whole, c.isDigit = true) (hf : ∀ c ∈ fraction, c.isDigit = true) :
    IsPrinted (whole ++ '.' :: fraction) where
  numeric c hc := by
    rw [List.mem_append, List.mem_cons] at hc
    obtain hc | rfl | hc := hc
    · exact isNumeric_of_isDigit (hw c hc)
    · decide
    · exact isNumeric_of_isDigit (hf c hc)
  start c hc := by
    cases whole with
    | nil => exact absurd rfl hne
    | cons d whole =>
      obtain rfl := Option.some.inj hc
      exact .inl (hw d List.mem_cons_self)
  real := ⟨'.', List.mem_append_right _ List.mem_cons_self, .inl rfl⟩

theorem isPrinted_positional {ds : List Char} (hd : ∀ c ∈ ds, c.isDigit = true) (e : Int) :
    IsPrinted (Number.layout.positional ds e) := by
  unfold Layout.positional
  split
  · refine isPrinted_point (List.cons_ne_nil '0' []) isDigit_zero fun c hc => ?_
    obtain hc | hc := List.mem_append.mp hc
    · exact isDigit_replicate hc
    · exact hd c hc
  · dsimp only
    split
    · rename_i hlen
      refine @isPrinted_point (ds ++ List.replicate (e.toNat + 1 - ds.length) '0') ['0'] ?_
        (fun c hc => ?_) isDigit_zero
      · intro hnil
        have := congrArg List.length hnil
        rw [List.length_append, List.length_replicate, List.length_nil] at this
        omega
      · obtain hc | hc := List.mem_append.mp hc
        · exact hd c hc
        · exact isDigit_replicate hc
    · rename_i hlen
      refine isPrinted_point ?_ (fun c hc => hd c (List.mem_of_mem_take hc))
        (fun c hc => hd c (List.mem_of_mem_drop hc))
      intro hnil
      have := congrArg List.length hnil
      rw [List.length_take, List.length_nil] at this
      omega

theorem isPrinted_scientific {ds : List Char} (hd : ∀ c ∈ ds, c.isDigit = true) (e : Int) :
    IsPrinted (Number.layout.scientific ds e) := by
  have htail : ∀ c ∈ 'e' :: (if e < 0 then '-' else '+') ::
      padLeft Number.layout.exponentDigits (decimalDigits e.natAbs), isNumeric c = true := by
    intro c hc
    rw [List.mem_cons, List.mem_cons] at hc
    obtain rfl | rfl | hc := hc
    · decide
    · split <;> decide
    · obtain hc | hc := List.mem_append.mp hc
      · exact isNumeric_of_isDigit (isDigit_replicate hc)
      · exact isNumeric_of_isDigit (isDigit_toDigits hc)
  have hreal (mantissa : List Char) : ∃ c ∈ mantissa ++ 'e' :: (if e < 0 then '-' else '+') ::
      padLeft Number.layout.exponentDigits (decimalDigits e.natAbs), c = '.' ∨ c = 'e' :=
    ⟨'e', List.mem_append_right _ List.mem_cons_self, .inr rfl⟩
  unfold Layout.scientific
  dsimp only
  split
  · exact ⟨htail, fun c hc => .inr (Option.some.inj hc).symm, hreal []⟩
  · rename_i d
    have hdigit := hd d List.mem_cons_self
    refine ⟨fun c hc => ?_, fun c hc => ?_, hreal [d]⟩
    · obtain hc | hc := List.mem_append.mp hc
      · exact isNumeric_of_isDigit (hd c hc)
      · exact htail c hc
    · obtain rfl := Option.some.inj hc
      exact .inl hdigit
  · rename_i d rest _
    have hdigit := hd d List.mem_cons_self
    refine ⟨fun c hc => ?_, fun c hc => ?_, hreal (d :: '.' :: rest)⟩
    · obtain hc | hc := List.mem_append.mp hc
      · rw [List.mem_cons, List.mem_cons] at hc
        obtain rfl | rfl | hc := hc
        · exact isNumeric_of_isDigit hdigit
        · decide
        · exact isNumeric_of_isDigit (hd c (List.mem_cons_of_mem d hc))
      · exact htail c hc
    · obtain rfl := Option.some.inj hc
      exact .inl hdigit

theorem isPrinted_writeDecimal (d : Decimal) : IsPrinted (Number.layout.writeDecimal d) := by
  have hd : ∀ c ∈ significantDigits d, c.isDigit = true :=
    fun c hc => isDigit_significantDigits hc
  unfold Layout.writeDecimal
  dsimp only
  split
  · exact isPrinted_positional hd _
  · exact isPrinted_scientific hd _

/-- The text of a finite double: a printed numeral, behind a minus if the sign is
    set. -/
theorem write_isPrinted {x : Float} {s : Bool} {m : Nat} {q : Int}
    (hx : exact x = .finite s m q) : ∃ cs, IsPrinted cs ∧
      Number.layout.write x = String.ofList (if s then '-' :: cs else cs) ∧
        (s = true → Number.layout.write (negate x) = String.ofList cs) := by
  have hn : exact (negate x) = .finite (!s) m q := by
    rw [exact_negate, hx]
    rfl
  refine ⟨if m = 0 then Number.layout.positional ['0'] 0
    else Number.layout.writeDecimal (shortest m q), ?_, ?_, ?_⟩
  · split
    · exact isPrinted_positional isDigit_zero 0
    · exact isPrinted_writeDecimal _
  · unfold Layout.write
    rw [hx]
  · rintro rfl
    unfold Layout.write
    rw [hn]
    rfl

end Double

namespace Number

/-! ## The text of a number -/

/-- The number is below zero. -/
def isNegative (n : Number) : Bool :=
  n.less (int 0)

/-- A finite number; an integer has at most as many digits as a text may have. -/
def IsWritable : Number → Prop
  | int n => n.natAbs < textLimit
  | real x => Double.isFinite x = true

/-- The shortest text of a double is read as the double. -/
def ReadsBack : Number → Prop
  | int _ => True
  | real x => Numeral.readReal? (layout.write x).toList = some x

theorem isNegative_int (k : Int) : (int k).isNegative = decide (k < 0) := by
  have hc : Double.compareScaled (decide (k < 0)) k.natAbs 0 false 0 0 = compare k 0 := by
    unfold Double.compareScaled
    show compare (Double.withSign _ k.natAbs * 1) 0 = _
    rw [Int.mul_one, withSign_natAbs]
  show (some (Double.compareScaled (decide (k < 0)) k.natAbs 0 false 0 0) == some .lt) = _
  rw [hc]
  by_cases h : k < 0
  · rw [Int.compare_eq_lt.mpr h, decide_eq_true h]
    rfl
  · rw [decide_eq_false h]
    cases hk : compare k 0 with
    | lt => exact absurd (Int.compare_eq_lt.mp hk) h
    | eq | gt => rfl

theorem isNegative_real {x : Float} {s : Bool} {m : Nat} {q : Int}
    (hx : Double.exact x = .finite s m q) (hm : m ≠ 0) : (real x).isNegative = s := by
  show ((Double.exact x).compare? (.finite false 0 0) == some .lt) = s
  rw [hx]
  show (some (compare (Double.withSign s m * 2 ^ (q - min q 0).toNat)
    (0 * 2 ^ (0 - min q 0).toNat)) == some .lt) = s
  rw [Int.zero_mul]
  have hp : (0 : Int) < 2 ^ (q - min q 0).toNat := Int.pow_pos (by decide)
  have hpos : (0 : Int) < (m : Int) * 2 ^ (q - min q 0).toNat := Int.mul_pos (by omega) hp
  cases s with
  | true =>
    have : Double.withSign true m * 2 ^ (q - min q 0).toNat < 0 := by
      show -(m : Int) * _ < 0
      rw [Int.neg_mul]
      omega
    rw [Int.compare_eq_lt.mpr this]
    rfl
  | false =>
    have : compare (Double.withSign false m * 2 ^ (q - min q 0).toNat) 0 = .gt :=
      Int.compare_eq_gt.mpr hpos
    rw [this]
    rfl

/-- A finite double in normal form has a mantissa. -/
theorem exists_exact {x : Float} (hn : (real x).isNormal = true) (hf : (real x).IsWritable) :
    ∃ s m q, Double.exact x = .finite s m q ∧ m ≠ 0 := by
  have hf : Double.isFinite x = true := hf
  unfold Double.isFinite at hf
  split at hf
  · rename_i s m q hx
    refine ⟨s, m, q, hx, ?_⟩
    rintro rfl
    have hi := integer?_eq_some (c := 0) hx (by rw [Nat.zero_mul, Nat.zero_mul])
    have hd : (real x).isNormal = decide (safeLimit.natAbs ≤ (Double.withSign s 0).natAbs) := by
      simp only [isNormal, hi]
    rw [hd, natAbs_withSign] at hn
    exact absurd hn (by decide)
  · cases hf

/-- An integer that has a finite double is far below the limit on digits. -/
theorem natAbs_lt_of_ofInt? {k : Int} {x : Float} (h : Double.ofInt? k = some x) :
    k.natAbs < textLimit := by
  have hlog : k.natAbs.log2 < 1026 := by
    by_cases hz : k.natAbs = 0
    · rw [hz]
      decide
    unfold Double.ofInt? at h
    split at h
    · cases h
    · rename_i ho
      unfold Double.overflows Double.quotientBits at ho
      rw [if_neg hz, beq_iff_eq] at ho
      -- A larger exponent would run into the pattern of infinity.
      have hq : (k.natAbs.log2 : Int) - 53 ≤ Double.quotientExponent k.natAbs 1 := by
        unfold Double.quotientExponent
        dsimp only
        rw [show Nat.log2 1 = 0 from rfl]
        split <;> omega
      dsimp only at ho
      generalize Double.roundQuotient _ _ = m at ho
      omega
  rw [textLimit]
  generalize hd : 4300 = digits
  calc k.natAbs < 2 ^ (k.natAbs.log2 + 1) := Nat.lt_log2_self
    _ ≤ 10 ^ (k.natAbs.log2 + 1) := Nat.pow_le_pow_left (by decide) _
    _ ≤ 10 ^ digits := Nat.pow_le_pow_right (by decide) (by omega)

theorem text_int {k : Int} (h : (int k).IsWritable) : (int k).text = .ok (toString k) := by
  show integerText k = _
  exact if_pos h

theorem text_real {x : Float} (hn : (real x).isNormal = true) (hf : (real x).IsWritable) :
    (real x).text = .ok (layout.write x) := by
  obtain ⟨s, m, q, hx, -⟩ := exists_exact hn hf
  unfold text
  rw [(normalize_eq_self_iff _).mpr hn]
  dsimp only
  unfold Double.Layout.write
  rw [hx]
  rfl

theorem isWritable_negate {n : Number} (h : n.IsWritable) : n.negate.IsWritable := by
  cases n with
  | int k =>
    show (-k).natAbs < textLimit
    rw [Int.natAbs_neg]
    exact h
  | real x =>
    have hf : Double.isFinite x = true := h
    show Double.isFinite (Double.negate x) = true
    unfold Double.isFinite at hf ⊢
    rw [Double.exact_negate]
    split at hf
    · rename_i hx
      rw [hx]
      rfl
    · cases hf

theorem isNegative_negate {n : Number} (hn : n.isNormal = true) (hw : n.IsWritable)
    (h : n.isNegative = true) : n.negate.isNegative = false := by
  cases n with
  | int k =>
    rw [isNegative_int, decide_eq_true_eq] at h
    show (int (-k)).isNegative = false
    rw [isNegative_int, decide_eq_false_iff_not]
    omega
  | real x =>
    obtain ⟨s, m, q, hx, hm⟩ := exists_exact hn hw
    rw [isNegative_real hx hm] at h
    subst h
    have hneg : Double.exact (Double.negate x) = .finite false m q := by
      rw [Double.exact_negate, hx]
      rfl
    exact isNegative_real hneg hm

/-- A negative number is written as a minus before the text of its negative. -/
theorem text_of_negative {n : Number} (hn : n.isNormal = true) (hw : n.IsWritable)
    (h : n.isNegative = true) : ∃ cs, n.negate.text = .ok (String.ofList cs) ∧
      n.text = .ok (String.ofList ('-' :: cs)) := by
  cases n with
  | int k =>
    rw [isNegative_int, decide_eq_true_eq] at h
    obtain ⟨j, rfl⟩ : ∃ j : Nat, k = Int.negSucc j := ⟨k.natAbs - 1, by omega⟩
    have hneg : (int (Int.negSucc j)).negate = int (Nat.succ j) := rfl
    have hw' := isWritable_negate hw
    rw [hneg] at hw' ⊢
    refine ⟨(Nat.succ j).repr.toList, ?_, ?_⟩
    · rw [text_int hw', String.ofList_toList]
      rfl
    · have hs : toString (Int.negSucc j) = "-" ++ (Nat.succ j).repr := rfl
      rw [text_int hw, hs, ← @String.ofList_toList ("-" ++ (Nat.succ j).repr),
        String.toList_append, show "-".toList = ['-'] from rfl, List.singleton_append]
  | real x =>
    obtain ⟨s, m, q, hx, hm⟩ := exists_exact hn hw
    rw [isNegative_real hx hm] at h
    subst h
    obtain ⟨cs, -, hwrite, hneg⟩ := Double.write_isPrinted hx
    refine ⟨cs, ?_, ?_⟩
    · rw [← hneg rfl]
      exact text_real ((isNormal_negate (real x)).trans hn) (isWritable_negate hw)
    · rw [text_real hn hw, hwrite]
      rfl

/-! ## Reading back -/

/-- The text is one word of the grammar, which is read as the number. -/
structure IsNumeral (cs : List Char) (n : Number) : Prop where
  start : ∃ d ds, cs = d :: ds ∧ d.isDigit = true
  scans : ∀ rest, Ends goesOn rest →
    Scans .operand (cs ++ rest) [.number (String.ofList cs)] .operator rest
  reads : readNumber (String.ofList cs) = .ok n

theorem isNumeral_int {k : Nat} (h : k < textLimit) : IsNumeral (Nat.toDigits 10 k) (int k) := by
  have hd : ∀ c ∈ Nat.toDigits 10 k, c.isDigit = true := fun c hc => isDigit_toDigits hc
  have hint : ((Nat.toDigits 10 k).any fun c => c == '.' || c == 'e' || c == 'E') = false := by
    rw [List.any_eq_false]
    intro c hc he
    have hc := hd c hc
    rw [Bool.or_eq_true, Bool.or_eq_true, beq_iff_eq, beq_iff_eq, beq_iff_eq] at he
    obtain (rfl | rfl) | rfl := he <;> exact absurd hc (by decide)
  have hlimit : k < 10 ^ Numeral.digitLimit := by
    rw [textLimit] at h
    rw [Numeral.digitLimit]
    exact h
  have hread : readNumber (String.ofList (Nat.toDigits 10 k)) = .ok (int k) := by
    unfold readNumber
    rw [String.toList_ofList]
    dsimp only
    rw [hint, readInteger_toDigits hlimit]
    rfl
  cases hds : Nat.toDigits 10 k with
  | nil => exact absurd hds Nat.toDigits_ne_nil
  | cons d ds =>
    rw [hds] at hd hread
    have hdigit := hd d List.mem_cons_self
    exact ⟨⟨d, ds, rfl, hdigit⟩, fun rest hr => scans_number hdigit
      (numberAt_of_digits (List.cons_ne_nil d ds) hd hr), hread⟩

theorem isNumeral_real {x : Float} {cs : List Char} (hn : (real x).isNormal = true)
    (hp : Double.IsPrinted cs) (h : Numeral.readReal? cs = some x) : IsNumeral cs (real x) := by
  have hat {rest : List Char} (hr : Ends goesOn rest) : numberAt (cs ++ rest) = cs :=
    numberAt_of_readReal? hp.numeric hp.unsigned h hr
  have hread : readNumber (String.ofList cs) = .ok (real x) := by
    have hreal : (cs.any fun c => c == '.' || c == 'e' || c == 'E') = true := by
      obtain ⟨c, hc, hpe⟩ := hp.real
      refine List.any_eq_true.mpr ⟨c, hc, ?_⟩
      obtain rfl | rfl := hpe <;> rfl
    unfold readNumber
    rw [String.toList_ofList]
    dsimp only
    rw [hreal, h]
    exact congrArg Except.ok ((normalize_eq_self_iff _).mpr hn)
  have hstart : ∃ d ds, cs = d :: ds ∧ d.isDigit = true := by
    cases hcs : cs with
    | nil =>
      obtain ⟨c, hc, -⟩ := hp.real
      rw [hcs] at hc
      cases hc
    | cons d ds =>
      refine ⟨d, ds, rfl, ?_⟩
      obtain hd | rfl := hp.start d (by rw [hcs]; rfl)
      · exact hd
      · have hnone := @hat [] (fun c hc => by cases hc)
        rw [hcs, List.append_nil] at hnone
        cases hnone
  refine ⟨hstart, fun rest hr => ?_, hread⟩
  obtain ⟨d, ds, rfl, hd⟩ := hstart
  exact scans_number hd (hat hr)

/-- The text of a number that is not negative is one word, which is read as the
    number. -/
theorem exists_numeral {n : Number} (hn : n.isNormal = true) (hw : n.IsWritable)
    (hr : n.ReadsBack) (h : n.isNegative = false) :
    ∃ cs, n.text = .ok (String.ofList cs) ∧ IsNumeral cs n := by
  cases n with
  | int k =>
    rw [isNegative_int, decide_eq_false_iff_not] at h
    obtain ⟨j, rfl⟩ := Int.eq_ofNat_of_zero_le (Int.not_lt.mp h)
    refine ⟨Nat.toDigits 10 j, ?_, isNumeral_int hw⟩
    rw [text_int hw, ← Nat.toList_repr, String.ofList_toList]
    rfl
  | real x =>
    obtain ⟨s, m, q, hx, hm⟩ := exists_exact hn hw
    rw [isNegative_real hx hm] at h
    subst h
    obtain ⟨cs, hp, hwrite, -⟩ := Double.write_isPrinted hx
    have hread : Numeral.readReal? (layout.write x).toList = some x := hr
    rw [hwrite, String.toList_ofList] at hread
    refine ⟨cs, ?_, isNumeral_real hn hp hread⟩
    rw [text_real hn hw, hwrite]
    rfl

/-! ## Different integers -/

theorem eq_of_repr_eq {m n : Nat} (h : m.repr = n.repr) : m = n := by
  have hdigits : Nat.toDigits 10 m = Nat.toDigits 10 n := by
    rw [← Nat.toList_repr, ← Nat.toList_repr, h]
  rw [← readDigits_toDigits m, hdigits, readDigits_toDigits]

/-- Another start than a digit is not that of the text of a natural number. -/
theorem repr_ne_of_head {c : Char} (hc : c.isDigit = false) (n : Nat) (rest : List Char) :
    n.repr.toList ≠ c :: rest := by
  intro h
  rw [Nat.toList_repr] at h
  have hd := isDigit_toDigits (n := n) (c := c) (h ▸ List.mem_cons_self ..)
  rw [hc] at hd
  cases hd

theorem eq_of_toString_eq : {m n : Int} → toString m = toString n → m = n
  | .ofNat m, .ofNat n, h => congrArg Int.ofNat (eq_of_repr_eq h)
  | .negSucc m, .negSucc n, h => by
    have h : "-" ++ (m + 1).repr = "-" ++ (n + 1).repr := h
    have := eq_of_repr_eq ((String.append_right_inj "-").mp h)
    rw [Nat.succ.inj this]
  | .ofNat m, .negSucc n, h => by
    have h : m.repr = "-" ++ (n + 1).repr := h
    exact absurd (by rw [h, String.toList_append]; rfl) (repr_ne_of_head (c := '-') rfl m _)
  | .negSucc m, .ofNat n, h => by
    have h : "-" ++ (m + 1).repr = n.repr := h
    exact absurd (by rw [← h, String.toList_append]; rfl) (repr_ne_of_head (c := '-') rfl n _)

theorem eq_toString_of_text {k : Int} {s : String} (h : (int k).text = .ok s) :
    s = toString k := by
  change integerText k = .ok s at h
  unfold integerText at h
  split at h
  · exact (Except.ok.inj h).symm
  · cases h

end Number
end TokenFormula
