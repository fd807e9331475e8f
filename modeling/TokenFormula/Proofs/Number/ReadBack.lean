import TokenFormula.Proofs.Number.Round
import TokenFormula.Proofs.Number.Text

/-!
# Doubles are read back from their text

The text of a double is a numeral for the decimal that is written, in one of two
layouts. The reader of numerals takes the digits and the place of the point from
it, and rounds the decimal, which gives the double.

Results:
* `Denotes`: a text is read as the double nearest to a rational.
* `denotes_writeDecimal`: the text of a decimal is read as the decimal.
* `Number.readsBack`: the text of a finite double in normal form is read as the
  double.
-/

namespace TokenFormula.Numeral

open Text Source Double

/-! ## Digits -/

theorem readDigits_start (cs : List Char) : ∀ start,
    readDigits start cs = start * 10 ^ cs.length + readDigits 0 cs := by
  induction cs with
  | nil => exact fun start => by simp [readDigits]
  | cons c cs ih =>
    intro start
    show readDigits (10 * start + (digitValue? c).getD 0) cs =
      _ + readDigits (10 * 0 + (digitValue? c).getD 0) cs
    rw [ih, ih (10 * 0 + _), List.length_cons, Nat.pow_succ]
    ring

theorem readDigits_append (as bs : List Char) :
    readDigits 0 (as ++ bs) = readDigits 0 as * 10 ^ bs.length + readDigits 0 bs := by
  rw [← readDigits_start]
  exact List.foldl_append

theorem readDigits_zeros (n : ℕ) : readDigits 0 (List.replicate n '0') = 0 := by
  induction n with
  | zero => rfl
  | succ n ih => exact ih

/-- Zeros at the end scale the number. -/
theorem readDigits_append_zeros (ds : List Char) (n : ℕ) :
    readDigits 0 (ds ++ List.replicate n '0') = readDigits 0 ds * 10 ^ n := by
  rw [readDigits_append, readDigits_zeros, List.length_replicate, Nat.add_zero]

/-- Zeros at the start change nothing. -/
theorem readDigits_zeros_append (n : ℕ) (ds : List Char) :
    readDigits 0 (List.replicate n '0' ++ ds) = readDigits 0 ds := by
  rw [readDigits_append, readDigits_zeros, Nat.zero_mul, Nat.zero_add]

/-! ## Parts of a numeral -/

/-- A numeral goes on after its digits with a point, an exponent or nothing. -/
theorem digitGroup_append {ds rest : List Char} (hd : ∀ c ∈ ds, c.isDigit = true)
    (hr : ∀ c ∈ rest, isNumeric c = true) (hends : Ends Text.isDigit rest) :
    digitGroup (ds ++ rest) = (ds, rest) := by
  have hu : ∀ c ∈ ds ++ rest, c ≠ '_' := by
    intro c hc
    refine ne_underscore_of_isNumeric ?_
    obtain hc | hc := List.mem_append.mp hc
    · exact isNumeric_of_isDigit (hd c hc)
    · exact hr c hc
  have htake : (ds ++ rest).takeWhile Text.isDigit = ds :=
    takeWhile_append_of_ends (fun c hc => isDigit_of_isDigit (hd c hc)) hends
  have hall := List.takeWhile_append_dropWhile (p := Text.isDigit) (l := ds ++ rest)
  rw [htake] at hall
  rw [digitGroup_eq _ hu, htake, List.append_cancel_left hall]

theorem ends_point (rest : List Char) : Ends Text.isDigit ('.' :: rest) := by
  rintro c hc
  obtain rfl := Option.some.inj hc
  decide

theorem ends_exponent (rest : List Char) : Ends Text.isDigit ('e' :: rest) := by
  rintro c hc
  obtain rfl := Option.some.inj hc
  decide

/-- A numeral with a point. -/
theorem splitPoint_point {whole fraction tail : List Char} (hw : ∀ c ∈ whole, c.isDigit = true)
    (hf : ∀ c ∈ fraction, c.isDigit = true) (ht : ∀ c ∈ tail, isNumeric c = true)
    (hends : Ends Text.isDigit tail) :
    splitPoint (whole ++ '.' :: (fraction ++ tail)) = (whole, fraction, tail) := by
  have hrest : ∀ c ∈ '.' :: (fraction ++ tail), isNumeric c = true := by
    intro c hc
    rw [List.mem_cons, List.mem_append] at hc
    obtain rfl | hc | hc := hc
    · decide
    · exact isNumeric_of_isDigit (hf c hc)
    · exact ht c hc
  unfold splitPoint
  rw [digitGroup_append hw hrest (ends_point _)]
  show (whole, (digitGroup (fraction ++ tail)).1, (digitGroup (fraction ++ tail)).2) = _
  rw [digitGroup_append hf ht hends]

/-- A numeral without a point, but with an exponent. -/
theorem splitPoint_exponent {whole rest : List Char} (hw : ∀ c ∈ whole, c.isDigit = true)
    (hr : ∀ c ∈ 'e' :: rest, isNumeric c = true) :
    splitPoint (whole ++ 'e' :: rest) = (whole, [], 'e' :: rest) := by
  unfold splitPoint
  rw [digitGroup_append hw hr (ends_exponent rest)]
  rfl

/-- The exponent that is written is read. -/
theorem exponentPart?_written (width : ℕ) (e : ℤ) :
    exponentPart? ('e' :: (if e < 0 then '-' else '+') :: padLeft width (decimalDigits e.natAbs)) =
      some e := by
  have hdigit : ∀ c ∈ padLeft width (decimalDigits e.natAbs), c.isDigit = true := by
    intro c hc
    obtain hc | hc := List.mem_append.mp hc
    · exact isDigit_replicate hc
    · exact isDigit_toDigits hc
  have hgroup : digitGroup (padLeft width (decimalDigits e.natAbs)) =
      (padLeft width (decimalDigits e.natAbs), []) := by
    have := @digitGroup_append _ [] hdigit (fun c hc => by cases hc) (fun c hc => by cases hc)
    rwa [List.append_nil] at this
  have hread : readDigits 0 (padLeft width (decimalDigits e.natAbs)) = e.natAbs := by
    rw [padLeft, readDigits_zeros_append]
    exact readDigits_toDigits _
  have hsign : splitSign ((if e < 0 then '-' else '+') :: padLeft width (decimalDigits e.natAbs)) =
      (decide (e < 0), padLeft width (decimalDigits e.natAbs)) := by
    by_cases he : e < 0
    · rw [if_pos he, decide_eq_true he]
      rfl
    · rw [if_neg he, decide_eq_false he]
      rfl
  rw [exponentPart?, if_pos (.inl rfl), hsign]
  dsimp only
  rw [hgroup]
  cases hds : padLeft width (decimalDigits e.natAbs) with
  | nil => exact absurd (List.append_eq_nil_iff.mp hds).2 Nat.toDigits_ne_nil
  | cons d ds =>
    dsimp only
    rw [← hds, hread, Number.withSign_natAbs]

/-! ## Texts that are read as a rational -/

/-- Behind either sign, or none for the positive one, the text is read as the
    double nearest to the rational: its digits, at most `count` of them, scaled. -/
def Denotes (cs : List Char) (v : ℚ) : Prop :=
  ∃ (digits count : ℕ) (scale : ℤ), digits < 10 ^ count ∧ (digits : ℚ) * 10 ^ scale = v ∧
    ∀ s, readReal? (if s then '-' :: cs else cs) = some (ofDecimal s digits count scale)

/-- A numeral denotes the number of its digits, scaled. -/
theorem denotes_of_parts {cs whole fraction tail : List Char} {e : ℤ} (hp : IsPrinted cs)
    (hs : splitPoint cs = (whole, fraction, tail)) (hne : whole ++ fraction ≠ [])
    (he : exponentPart? tail = some e) :
    Denotes cs (readDigits 0 (whole ++ fraction) * 10 ^ (e - fraction.length)) := by
  have hminus : ∀ c ∈ '-' :: cs, isNumeric c = true := by
    intro c hc
    obtain rfl | hc := List.mem_cons.mp hc
    · decide
    · exact hp.numeric c hc
  have hlt := readDigits_lt (whole ++ fraction) 0
  rw [Nat.zero_add, Nat.one_mul] at hlt
  refine ⟨readDigits 0 (whole ++ fraction), (whole ++ fraction).length, e - fraction.length, hlt,
    rfl, fun s => ?_⟩
  have hsplit : splitSign (trimMargin (if s then '-' :: cs else cs)) = (s, cs) := by
    cases s with
    | true => exact congrArg splitSign (trimMargin_eq hminus)
    | false =>
      exact (congrArg splitSign (trimMargin_eq hp.numeric)).trans (splitSign_eq hp.unsigned)
  unfold readReal?
  rw [hsplit]
  dsimp only
  rw [named?_eq_none hp.numeric, hs]
  dsimp only
  rw [if_neg (fun h => hne (List.isEmpty_iff.mp h)), he]
  rfl

theorem Denotes.congr {cs : List Char} {v w : ℚ} (h : Denotes cs v) (hv : v = w) :
    Denotes cs w :=
  hv ▸ h

theorem zpow_ten_mul (k : ℕ) (e : ℤ) : (10 : ℚ) ^ k * 10 ^ e = 10 ^ (k + e) := by
  rw [zpow_add₀ (by norm_num), zpow_natCast]

/-- A text with a point denotes its digits, scaled by the number of digits after the
    point. -/
theorem denotes_point {whole fraction : List Char} (hne : whole ≠ [])
    (hw : ∀ c ∈ whole, c.isDigit = true) (hf : ∀ c ∈ fraction, c.isDigit = true) :
    Denotes (whole ++ '.' :: fraction)
      (readDigits 0 (whole ++ fraction) * 10 ^ (-(fraction.length : ℤ))) := by
  have hs := @splitPoint_point _ _ [] hw hf (fun c hc => by cases hc) (fun c hc => by cases hc)
  rw [List.append_nil] at hs
  have hne' : whole ++ fraction ≠ [] := fun h => hne (List.append_eq_nil_iff.mp h).1
  exact (denotes_of_parts (isPrinted_point hne hw hf) hs hne' rfl).congr (by rw [zero_sub])

/-- The positional text of digits, the first with the decimal exponent `e`. -/
theorem denotes_positional {ds : List Char} (hne : ds ≠ []) (hd : ∀ c ∈ ds, c.isDigit = true)
    (e : ℤ) : Denotes (Number.layout.positional ds e)
      (readDigits 0 ds * 10 ^ (e + 1 - ds.length)) := by
  unfold Layout.positional
  split
  · have hf : ∀ c ∈ List.replicate (-e - 1).toNat '0' ++ ds, c.isDigit = true := by
      intro c hc
      obtain hc | hc := List.mem_append.mp hc
      · exact isDigit_replicate hc
      · exact hd c hc
    refine (denotes_point (List.cons_ne_nil '0' []) isDigit_zero hf).congr ?_
    rw [readDigits_append ['0'], readDigits_zeros_append, List.length_append,
      List.length_replicate, show readDigits 0 ['0'] = 0 from rfl, Nat.zero_mul, Nat.zero_add]
    congr 2
    omega
  · dsimp only
    split
    · rename_i hlen
      rw [if_pos (show Number.layout.pointZero = true from rfl)]
      have hw : ∀ c ∈ ds ++ List.replicate (e.toNat + 1 - ds.length) '0', c.isDigit = true := by
        intro c hc
        obtain hc | hc := List.mem_append.mp hc
        · exact hd c hc
        · exact isDigit_replicate hc
      refine (denotes_point (fun h => hne (List.append_eq_nil_iff.mp h).1) hw isDigit_zero).congr ?_
      rw [readDigits_append, readDigits_append_zeros, show readDigits 0 ['0'] = 0 from rfl,
        Nat.add_zero]
      push_cast
      rw [mul_assoc, mul_assoc, zpow_ten_mul, zpow_ten_mul]
      congr 2
      rw [List.length_singleton]
      omega
    · rename_i hlen
      have htake : ds.take (e.toNat + 1) ≠ [] := by
        intro hnil
        have := congrArg List.length hnil
        rw [List.length_take, List.length_nil] at this
        omega
      refine (denotes_point htake (fun c hc => hd c (List.mem_of_mem_take hc))
        (fun c hc => hd c (List.mem_of_mem_drop hc))).congr ?_
      rw [List.take_append_drop, List.length_drop]
      congr 2
      omega

/-- The text of digits in exponent form. -/
theorem denotes_scientific {ds : List Char} (hne : ds ≠ []) (hd : ∀ c ∈ ds, c.isDigit = true)
    (e : ℤ) : Denotes (Number.layout.scientific ds e)
      (readDigits 0 ds * 10 ^ (e + 1 - ds.length)) := by
  have hp := isPrinted_scientific hd e
  have htail := exponentPart?_written Number.layout.exponentDigits e
  have hnumeric : ∀ c ∈ 'e' :: (if e < 0 then '-' else '+') ::
      padLeft Number.layout.exponentDigits (decimalDigits e.natAbs), isNumeric c = true :=
    fun c hc => hp.numeric c (List.mem_append_right _ hc)
  match ds, hne with
  | [d], _ =>
    refine (denotes_of_parts hp (splitPoint_exponent hd hnumeric) (List.cons_ne_nil d [])
      htail).congr ?_
    rw [List.append_nil]
    congr 2
    rw [List.length_nil, List.length_singleton]
    omega
  | d :: d' :: rest, _ =>
    have hs := @splitPoint_point [d] (d' :: rest) _
      (fun c hc => hd c (List.mem_singleton.mp hc ▸ List.mem_cons_self))
      (fun c hc => hd c (List.mem_cons_of_mem d hc))
      hnumeric (ends_exponent _)
    refine (denotes_of_parts hp hs (List.cons_ne_nil d _) htail).congr ?_
    congr 2
    simp only [List.length_cons]
    omega

/-- The digits of a decimal are its significant ones and zeros. -/
theorem exists_decimalDigits (d : Decimal) :
    ∃ k, decimalDigits d.digits = significantDigits d ++ List.replicate k '0' := by
  have hsplit := List.takeWhile_append_dropWhile (p := (· == '0'))
    (l := (decimalDigits d.digits).reverse)
  have hzeros : (decimalDigits d.digits).reverse.takeWhile (· == '0') =
      List.replicate ((decimalDigits d.digits).reverse.takeWhile (· == '0')).length '0' :=
    List.eq_replicate_iff.mpr ⟨rfl, fun c hc =>
      beq_iff_eq.mp (List.all_eq_true.mp List.all_takeWhile c hc)⟩
  refine ⟨((decimalDigits d.digits).reverse.takeWhile (· == '0')).length, ?_⟩
  have := congrArg List.reverse hsplit
  rw [List.reverse_append, List.reverse_reverse, hzeros, List.reverse_replicate] at this
  exact this.symm

/-- The text of a decimal denotes its value. -/
theorem denotes_writeDecimal {d : Decimal} (h : d.digits ≠ 0) :
    Denotes (Number.layout.writeDecimal d) d.value := by
  obtain ⟨k, hk⟩ := exists_decimalDigits d
  have hread : readDigits 0 (significantDigits d) * 10 ^ k = d.digits := by
    rw [← readDigits_append_zeros, ← hk]
    exact readDigits_toDigits d.digits
  have hlen : (decimalDigits d.digits).length = (significantDigits d).length + k := by
    rw [hk, List.length_append, List.length_replicate]
  have hne : significantDigits d ≠ [] := by
    intro hnil
    rw [hnil] at hread
    exact h (by rw [← hread]; exact Nat.zero_mul _)
  have hd : ∀ c ∈ significantDigits d, c.isDigit = true :=
    fun c hc => isDigit_significantDigits hc
  have hvalue : (readDigits 0 (significantDigits d) : ℚ) *
      10 ^ (((decimalDigits d.digits).length : ℤ) - 1 + d.scale + 1 - (significantDigits d).length) =
        d.value := by
    rw [hlen, Decimal.value, ← hread, Nat.cast_mul, Nat.cast_pow, Nat.cast_ofNat, mul_assoc,
      zpow_ten_mul]
    congr 2
    push_cast
    ring
  unfold Layout.writeDecimal
  dsimp only
  split
  · exact (denotes_positional hne hd _).congr hvalue
  · exact (denotes_scientific hne hd _).congr hvalue

/-! ## Rounding what is read -/

/-- Near the doubles the reader rounds the decimal. -/
theorem ofDecimal_eq (s : Bool) {digits count : ℕ} {scale : ℤ} (hlt : digits < 10 ^ count)
    (hlow : 10 ^ (-400 : ℤ) < (digits : ℚ) * 10 ^ scale)
    (hhigh : (digits : ℚ) * 10 ^ scale < 10 ^ (400 : ℤ)) :
    ofDecimal s digits count scale =
      ofQuotient s (digits * 10 ^ scale.toNat) (10 ^ (-scale).toNat) := by
  have hp : (0 : ℚ) < 10 ^ scale := zpow_pos (by norm_num) scale
  have hpos : digits ≠ 0 := by
    rintro rfl
    rw [Nat.cast_zero, zero_mul] at hlow
    exact absurd hlow (zpow_pos (by norm_num) _).not_gt
  have hcount : ¬ (count : ℤ) + scale < -400 := by
    have : (10 : ℚ) ^ (-400 : ℤ) < 10 ^ ((count : ℤ) + scale) := by
      rw [← zpow_ten_mul]
      refine hlow.trans (mul_lt_mul_of_pos_right ?_ hp)
      exact_mod_cast hlt
    have := (zpow_lt_zpow_iff_right₀ (by norm_num)).mp this
    omega
  have hlog : ¬ 400 < (digits.log2 / 4 : ℤ) + scale := by
    have hpow : 10 ^ (digits.log2 / 4) ≤ digits :=
      calc 10 ^ (digits.log2 / 4) ≤ (2 ^ 4) ^ (digits.log2 / 4) :=
            Nat.pow_le_pow_left (by decide) _
        _ = 2 ^ (4 * (digits.log2 / 4)) := (Nat.pow_mul ..).symm
        _ ≤ 2 ^ digits.log2 := Nat.pow_le_pow_right (by decide) (by omega)
        _ ≤ digits := Nat.log2_self_le hpos
    have : (10 : ℚ) ^ (((digits.log2 / 4 : ℕ) : ℤ) + scale) < 10 ^ (400 : ℤ) := by
      rw [← zpow_ten_mul]
      refine (mul_le_mul_of_nonneg_right ?_ hp.le).trans_lt hhigh
      exact_mod_cast hpow
    have := (zpow_lt_zpow_iff_right₀ (by norm_num)).mp this
    omega
  unfold ofDecimal
  dsimp only
  rw [if_neg (by rintro (h | h); exacts [hpos h, hcount h]), if_neg hlog]

/-- A text that denotes a rational which rounds to a double is read as the double. -/
theorem Denotes.readReal?_eq {cs : List Char} {v : ℚ} (h : Denotes cs v) {x : Float} {s : Bool}
    {m : ℕ} {q : ℤ} (hx : exact x = .finite s m q) (hm : m ≠ 0) (hv : RoundsTo m q v) :
    readReal? (if s then '-' :: cs else cs) = some x := by
  have hc : (Exact.finite s m q).Canonical := hx ▸ canonical_exact x
  obtain ⟨digits, count, scale, hlt, rfl, hread⟩ := h
  obtain ⟨hlow, hhigh⟩ := hv.bounds hc hm
  have hvalue : ((digits * 10 ^ scale.toNat : ℕ) : ℚ) / (10 ^ (-scale).toNat : ℕ) =
      digits * 10 ^ scale := by
    have := zpow_eq_div (b := 10) (by norm_num) scale
    rw [Nat.cast_ofNat] at this
    rw [this, Nat.cast_mul, mul_div_assoc]
  rw [hread, ofDecimal_eq s hlt hlow hhigh]
  refine congrArg some (exact_injective ?_)
  rw [hx]
  exact RoundsTo.exact_ofQuotient hc hm (by positivity) (by rw [hvalue]; exact hv)

end TokenFormula.Numeral

namespace TokenFormula.Number

/-- The text of a finite number in normal form is read as the number. -/
theorem readsBack {n : Number} (hn : n.isNormal = true) (hw : n.IsWritable) : n.ReadsBack := by
  cases n with
  | int k => trivial
  | real x =>
    obtain ⟨s, m, q, hx, hm⟩ := exists_exact hn hw
    have hround := Double.roundsTo_shortest hm q
    have hdigits : (Double.shortest m q).digits ≠ 0 := by
      intro h
      have := hround.pos hm
      rw [Double.Decimal.value, h, Nat.cast_zero, zero_mul] at this
      exact lt_irrefl _ this
    show Numeral.readReal? (layout.write x).toList = some x
    unfold Double.Layout.write
    rw [hx]
    dsimp only
    rw [if_neg hm, String.toList_ofList]
    exact (Numeral.denotes_writeDecimal hdigits).readReal?_eq hx hm hround

end TokenFormula.Number
