import TokenFormula.Proofs.Number.Normal
import TokenFormula.Proofs.Source.Scan
import TokenFormula.Source.Literal

/-!
# Numerals

A numeral without blanks, sign and underscores is one word for the lexer if the
reader of numbers accepts it, and digits are read as the number that they write.

Results:
* `readInteger_toDigits`: the digits of a natural number are read as it.
* `numberAt_of_readReal?`: the lexer takes the whole of a numeral that is read
  as a double.
* `scans_number`: it is scanned as one word.
-/

namespace TokenFormula.Source

open Text Numeral

/-! ## Characters -/

/-- The characters of numerals that are printed. -/
def isNumeric (c : Char) : Bool :=
  c.isDigit || c == '.' || c == 'e' || c == '+' || c == '-'

theorem toNat_of_isDigit {c : Char} (h : c.isDigit = true) : 48 ≤ c.toNat ∧ c.toNat ≤ 57 := by
  simp only [Char.isDigit, Bool.and_eq_true, decide_eq_true_eq, ge_iff_le,
    UInt32.le_iff_toNat_le] at h
  exact h

theorem isAlpha_of_isDigit {c : Char} (h : c.isDigit = true) : c.isAlpha = false := by
  have hc : c.val.toNat ≤ 57 := (toNat_of_isDigit h).2
  have hbelow (d : Char) (hd : 57 < d.val.toNat) : ¬ d.val ≤ c.val := fun h =>
    absurd (UInt32.le_iff_toNat_le.mp h) (by omega)
  have hupper : c.isUpper = false := decide_eq_false fun h => hbelow 'A' (by decide) h.1
  have hlower : c.isLower = false := by
    show (decide ('a'.val ≤ c.val) && _) = false
    rw [decide_eq_false (hbelow 'a' (by decide)), Bool.false_and]
  show (c.isUpper || c.isLower) = false
  rw [hupper, hlower, Bool.or_false]

theorem digitValue?_of_isDigit {c : Char} (h : c.isDigit = true) :
    digitValue? c = some (c.toNat - 48) := by
  have hc := toNat_of_isDigit h
  unfold digitValue?
  dsimp only
  rw [if_pos (by omega), if_pos (by omega)]

theorem isDigit_of_isDigit {c : Char} (h : c.isDigit = true) : Text.isDigit c = true := by
  rw [Text.isDigit, digitValue?_of_isDigit h]
  rfl

theorem isNumeric_cases {c : Char} (h : isNumeric c = true) :
    c.isDigit = true ∨ c = '.' ∨ c = 'e' ∨ c = '+' ∨ c = '-' := by
  simpa only [isNumeric, Bool.or_eq_true, beq_iff_eq, or_assoc] using h

theorem isBlank_of_isNumeric {c : Char} (h : isNumeric c = true) : isBlank c = false := by
  obtain h | rfl | rfl | rfl | rfl := isNumeric_cases h
  · have hc := toNat_of_isDigit h
    unfold isBlank
    simp only [Bool.or_eq_false_iff, Bool.and_eq_false_iff, decide_eq_false_iff_not,
      beq_eq_false_iff_ne]
    omega
  all_goals decide

theorem ne_underscore_of_isNumeric {c : Char} (h : isNumeric c = true) : c ≠ '_' := by
  rintro rfl
  exact absurd h (by decide)

/-- The name of no number has only such characters. -/
theorem toLower_ne_of_isNumeric {c : Char} (h : isNumeric c = true) : c.toLower ≠ 'n' := by
  obtain h | rfl | rfl | rfl | rfl := isNumeric_cases h
  · have hc := toNat_of_isDigit h
    intro hn
    unfold Char.toLower at hn
    split at hn
    · rename_i hu
      have h1 := UInt32.le_iff_toNat_le.mp hu.1
      have h2 : 'A'.val.toNat = 65 := rfl
      have h3 : c.val.toNat ≤ 57 := hc.2
      omega
    · subst hn
      exact absurd h (by decide)
  all_goals decide

theorem trimMargin_eq {cs : List Char} (h : ∀ c ∈ cs, isNumeric c = true) :
    trimMargin cs = cs := by
  have hm {ds : List Char} (hd : ∀ c ∈ ds, isNumeric c = true) : ds.dropWhile isMargin = ds := by
    cases ds with
    | nil => rfl
    | cons c ds =>
      refine List.dropWhile_cons_of_neg ?_
      rw [isMargin, isBlank_of_isNumeric (hd c List.mem_cons_self)]
      exact Bool.false_ne_true
  rw [trimMargin, hm h, hm fun c hc => h c (List.mem_reverse.mp hc), List.reverse_reverse]

theorem named?_eq_none {cs : List Char} (h : ∀ c ∈ cs, isNumeric c = true) :
    named? cs = none := by
  have hn : ¬ 'n' ∈ cs.map Char.toLower := by
    intro hm
    obtain ⟨c, hc, he⟩ := List.mem_map.mp hm
    exact toLower_ne_of_isNumeric (h c hc) he
  unfold named?
  dsimp only
  rw [if_neg, if_neg]
  · intro he
    rw [he] at hn
    exact hn (by decide)
  · rintro (he | he) <;>
    · rw [he] at hn
      exact hn (by decide)

/-! ## Groups of digits -/

theorem moreDigits_eq (cs : List Char) (h : ∀ c ∈ cs, c ≠ '_') :
    moreDigits cs = (cs.takeWhile Text.isDigit, cs.dropWhile Text.isDigit) := by
  induction cs with
  | nil => rfl
  | cons c cs ih =>
    have hc : c ≠ '_' := h c List.mem_cons_self
    have ih := ih fun d hd => h d (List.mem_cons_of_mem c hd)
    rw [moreDigits]
    · split
      · rename_i hd
        rw [ih, List.takeWhile_cons_of_pos hd, List.dropWhile_cons_of_pos hd]
      · rename_i hd
        rw [List.takeWhile_cons_of_neg hd, List.dropWhile_cons_of_neg hd]
    · exact fun _ _ he _ => hc he

theorem digitGroup_eq (cs : List Char) (h : ∀ c ∈ cs, c ≠ '_') :
    digitGroup cs = (cs.takeWhile Text.isDigit, cs.dropWhile Text.isDigit) := by
  cases cs with
  | nil => rfl
  | cons c cs =>
    rw [digitGroup]
    split
    · rename_i hd
      rw [moreDigits_eq cs fun d hd => h d (List.mem_cons_of_mem c hd),
        List.takeWhile_cons_of_pos hd, List.dropWhile_cons_of_pos hd]
    · rename_i hd
      rw [List.takeWhile_cons_of_neg hd, List.dropWhile_cons_of_neg hd]

theorem splitSign_eq {cs : List Char} (h : ∀ c ∈ cs.head?, c ≠ '+' ∧ c ≠ '-') :
    splitSign cs = (false, cs) := by
  cases cs with
  | nil => rfl
  | cons c cs =>
    have hc := h c rfl
    rw [splitSign]
    · exact fun _ he => hc.2 (List.cons.inj he).1
    · exact fun _ he => hc.1 (List.cons.inj he).1

/-! ## Integers -/

theorem isDigit_toDigits {n : Nat} {c : Char} (h : c ∈ Nat.toDigits 10 n) : c.isDigit = true :=
  Nat.isDigit_of_mem_toDigits (by decide) (by decide) h

theorem isNumeric_of_isDigit {c : Char} (h : c.isDigit = true) : isNumeric c = true := by
  simp [isNumeric, h]

theorem readDigits_toDigits (n : Nat) : readDigits 0 (Nat.toDigits 10 n) = n := by
  have hfold (cs : List Char) : (∀ c ∈ cs, c.isDigit = true) → ∀ start,
      readDigits start cs = Nat.ofDigitChars 10 cs start := by
    induction cs with
    | nil => exact fun _ _ => rfl
    | cons c cs ih =>
      intro h start
      have hc := digitValue?_of_isDigit (h c List.mem_cons_self)
      show readDigits (10 * start + (digitValue? c).getD 0) cs = _
      rw [ih (fun d hd => h d (List.mem_cons_of_mem c hd)), hc]
      rfl
  rw [hfold _ (fun c hc => isDigit_toDigits hc), Nat.ofDigitChars_ten_toDigits]

/-- The digits of a natural number are read as it, unless there are too many. -/
theorem readInteger_toDigits {n : Nat} (h : n < 10 ^ digitLimit) :
    readInteger (Nat.toDigits 10 n) = .ok n := by
  have hd : ∀ c ∈ Nat.toDigits 10 n, c.isDigit = true := fun c hc => isDigit_toDigits hc
  have hnum : ∀ c ∈ Nat.toDigits 10 n, isNumeric c = true :=
    fun c hc => isNumeric_of_isDigit (hd c hc)
  have hlen : (Nat.toDigits 10 n).length ≤ digitLimit :=
    (Nat.length_toDigits_le_iff (by decide) (by decide)).mpr h
  have hsign : ∀ c ∈ (Nat.toDigits 10 n).head?, c ≠ '+' ∧ c ≠ '-' := by
    intro c hc
    have := hd c (List.mem_of_mem_head? hc)
    exact ⟨by rintro rfl; exact absurd this (by decide),
      by rintro rfl; exact absurd this (by decide)⟩
  have hall : (Nat.toDigits 10 n).takeWhile Text.isDigit = Nat.toDigits 10 n := by
    have := @takeWhile_append_of_ends _ _ [] (fun c hc => isDigit_of_isDigit (hd c hc))
      (fun c hc => by cases hc)
    rwa [List.append_nil] at this
  have hnone : (Nat.toDigits 10 n).dropWhile Text.isDigit = [] := by
    have := List.takeWhile_append_dropWhile (p := Text.isDigit) (l := Nat.toDigits 10 n)
    rw [hall] at this
    exact List.append_cancel_left (this.trans (List.append_nil _).symm)
  have hgroup : digitGroup (Nat.toDigits 10 n) = (Nat.toDigits 10 n, []) := by
    rw [digitGroup_eq _ (fun c hc => ne_underscore_of_isNumeric (hnum c hc)), hall, hnone]
  unfold readInteger
  rw [trimMargin_eq hnum, splitSign_eq hsign]
  dsimp only
  rw [hgroup]
  cases hds : Nat.toDigits 10 n with
  | nil => exact absurd hds Nat.toDigits_ne_nil
  | cons d ds =>
    dsimp only
    rw [if_neg (by rw [← hds]; exact Nat.not_lt.mpr hlen), ← hds, readDigits_toDigits]
    rfl

theorem digitValue?_le {c : Char} {v : Nat} (h : digitValue? c = some v) : v ≤ 9 := by
  unfold digitValue? at h
  dsimp only at h
  split at h
  · split at h
    · obtain rfl := Option.some.inj h
      omega
    · cases h
  · obtain ⟨z, hz, rfl⟩ := Option.map_eq_some_iff.mp h
    have := Array.find?_some hz
    rw [Bool.and_eq_true, decide_eq_true_eq, decide_eq_true_eq] at this
    omega

theorem readDigits_lt (cs : List Char) : ∀ start,
    readDigits start cs < (start + 1) * 10 ^ cs.length := by
  induction cs with
  | nil =>
    intro start
    show start < (start + 1) * 1
    omega
  | cons c cs ih =>
    intro start
    have hv : (digitValue? c).getD 0 ≤ 9 := by
      cases hc : digitValue? c with
      | none => exact Nat.zero_le 9
      | some v => exact digitValue?_le hc
    calc readDigits (10 * start + (digitValue? c).getD 0) cs
        < (10 * start + (digitValue? c).getD 0 + 1) * 10 ^ cs.length := ih _
      _ ≤ (10 * (start + 1)) * 10 ^ cs.length := Nat.mul_le_mul_right _ (by omega)
      _ = (start + 1) * 10 ^ (c :: cs).length := by
        rw [List.length_cons, Nat.pow_succ, Nat.mul_comm 10, Nat.mul_assoc, Nat.mul_comm 10]

/-- An integer that is read has no more digits than a text may have. -/
theorem natAbs_lt_of_readInteger {cs : List Char} {k : Int} (h : readInteger cs = .ok k) :
    k.natAbs < Number.textLimit := by
  unfold readInteger at h
  dsimp only at h
  split at h
  · cases h
  · cases h
  · rename_i ds _ _
    split at h
    · cases h
    · rename_i hlen
      rw [← Except.ok.inj h, Number.natAbs_withSign]
      have hlt := readDigits_lt ds 0
      have hle := Nat.pow_le_pow_right (show 0 < 10 by decide) (Nat.not_lt.mp hlen)
      rw [Nat.zero_add, Nat.one_mul] at hlt
      rw [digitLimit] at hle
      rw [Number.textLimit]
      exact Nat.lt_of_lt_of_le hlt hle

/-! ## Numerals with a point or an exponent -/

/-- What may follow a numeral without becoming part of it. -/
def goesOn (c : Char) : Bool :=
  Text.isDigit c || c == '.' || c == 'e' || c == 'E'

theorem ends_isDigit {rest : List Char} (h : Ends goesOn rest) : Ends Text.isDigit rest := by
  intro c hc
  have := h c hc
  simp only [goesOn, Bool.or_eq_false_iff] at this
  exact this.1.1.1

theorem takeWhile_append_of_stop {kind : Char → Bool} (cs : List Char) {rest : List Char}
    (hr : Ends kind rest) : (cs ++ rest).takeWhile kind = cs.takeWhile kind := by
  have hcs := List.takeWhile_append_dropWhile (p := kind) (l := cs)
  have hends : Ends kind (cs.dropWhile kind ++ rest) := by
    intro c hc
    cases hd : cs.dropWhile kind with
    | nil =>
      rw [hd] at hc
      exact hr c hc
    | cons d ds =>
      rw [hd] at hc
      have := List.head?_dropWhile_not kind cs
      rw [hd] at this
      obtain rfl := Option.some.inj hc
      exact this
  have htake : ∀ c ∈ cs.takeWhile kind, kind c = true := List.all_eq_true.mp List.all_takeWhile
  calc (cs ++ rest).takeWhile kind
      = (cs.takeWhile kind ++ (cs.dropWhile kind ++ rest)).takeWhile kind := by
        rw [← List.append_assoc, hcs]
    _ = cs.takeWhile kind := takeWhile_append_of_ends htake hends

theorem drop_of_append {cs a b : List Char} (h : a ++ b = cs) (rest : List Char) :
    (cs ++ rest).drop a.length = b ++ rest := by
  rw [← h, List.append_assoc]
  exact List.drop_left

/-- The sign at the start of an exponent. -/
def leadingSign : List Char → List Char
  | s :: _ => if s = '+' ∨ s = '-' then [s] else []
  | [] => []

theorem exponentAt_cons (c : Char) (cs : List Char) : exponentAt (c :: cs) =
    if c = 'e' ∨ c = 'E' then
      if ((cs.drop (leadingSign cs).length).takeWhile Text.isDigit).isEmpty then []
      else c :: leadingSign cs ++ (cs.drop (leadingSign cs).length).takeWhile Text.isDigit
    else [] := rfl

/-- Both readers split the same sign off, if something follows it. -/
theorem splitSign_cases (cs : List Char) : ∃ negative sign body,
    splitSign cs = (negative, body) ∧ cs = sign ++ body ∧
      (body ≠ [] → ∀ rest, leadingSign (cs ++ rest) = sign) := by
  unfold splitSign
  split
  · exact ⟨_, ['-'], _, rfl, rfl, fun _ _ => rfl⟩
  · exact ⟨_, ['+'], _, rfl, rfl, fun _ _ => rfl⟩
  · rename_i hm hp
    refine ⟨_, [], _, rfl, rfl, fun hne rest => ?_⟩
    cases cs with
    | nil => exact absurd rfl hne
    | cons d ds =>
      refine if_neg ?_
      rintro (rfl | rfl)
      · exact hp ds rfl
      · exact hm ds rfl

theorem exponentAt_of_ends {rest : List Char} (hr : Ends goesOn rest) : exponentAt rest = [] := by
  cases rest with
  | nil => rfl
  | cons c rest =>
    have hc := hr c rfl
    simp only [goesOn, Bool.or_eq_false_iff, beq_eq_false_iff_ne] at hc
    rw [exponentAt_cons, if_neg]
    rintro (he | he)
    · exact hc.1.2 he
    · exact hc.2 he

/-- The exponent of a numeral is taken as a whole. -/
theorem exponentAt_append {cs : List Char} {k : Int} (hu : ∀ c ∈ cs, c ≠ '_')
    (h : exponentPart? cs = some k) {rest : List Char} (hr : Ends goesOn rest) :
    exponentAt (cs ++ rest) = cs := by
  cases cs with
  | nil => exact exponentAt_of_ends hr
  | cons c cs =>
    rw [exponentPart?] at h
    split at h
    · rename_i he
      obtain ⟨negative, sign, body, hsplit, hcs, hsign⟩ := splitSign_cases cs
      have hbody : ∀ d ∈ body, d ≠ '_' := by
        intro d hd
        refine hu d (List.mem_cons_of_mem c ?_)
        rw [hcs]
        exact List.mem_append_right sign hd
      rw [hsplit] at h
      dsimp only at h
      rw [digitGroup_eq _ hbody] at h
      split at h
      · cases h
      · cases h
      · rename_i ds hne hg
        obtain ⟨htake, hdrop⟩ := Prod.mk.inj hg
        have hall := List.takeWhile_append_dropWhile (p := Text.isDigit) (l := body)
        rw [htake, hdrop, List.append_nil] at hall
        subst hall
        have hsign := hsign (fun hnil => hne hnil) rest
        rw [List.cons_append, exponentAt_cons, if_pos he, hsign, drop_of_append hcs.symm,
          takeWhile_append_of_stop _ (ends_isDigit hr), htake, if_neg, List.cons_append, ← hcs]
        exact fun hempty => hne (List.isEmpty_iff.mp hempty)
    · cases h

/-- What the reader splits off before the exponent, the lexer takes first. -/
theorem splitPoint_cases {cs whole fraction tail : List Char} (hu : ∀ c ∈ cs, c ≠ '_')
    (h : splitPoint cs = (whole, fraction, tail)) (hne : whole ++ fraction ≠ []) :
    ∃ mantissa, cs = mantissa ++ tail ∧ mantissa ≠ [] ∧
      ∀ rest, Ends goesOn rest → mantissaAt (cs ++ rest) = mantissa := by
  have hcs := List.takeWhile_append_dropWhile (p := Text.isDigit) (l := cs)
  unfold splitPoint at h
  rw [digitGroup_eq _ hu] at h
  dsimp only at h
  split at h
  · rename_i b hb
    have hub : ∀ c ∈ b, c ≠ '_' := by
      intro c hc
      refine hu c ?_
      rw [← hcs, hb]
      exact List.mem_append_right _ (List.mem_cons_of_mem _ hc)
    rw [digitGroup_eq _ hub] at h
    cases h
    have hbs := List.takeWhile_append_dropWhile (p := Text.isDigit) (l := b)
    refine ⟨cs.takeWhile Text.isDigit ++ '.' :: b.takeWhile Text.isDigit, ?_, by simp, ?_⟩
    · rw [List.append_assoc, List.cons_append, hbs, ← hb, hcs]
    · intro rest hr
      unfold mantissaAt
      dsimp only
      rw [takeWhile_append_of_stop _ (ends_isDigit hr), drop_of_append hcs, hb,
        List.cons_append]
      show (if _ then [] else _) = _
      rw [takeWhile_append_of_stop _ (ends_isDigit hr), if_neg]
      intro hempty
      rw [Bool.and_eq_true, List.isEmpty_iff, List.isEmpty_iff] at hempty
      rw [hempty.1, hempty.2] at hne
      exact hne rfl
  · rename_i hpoint
    cases h
    rw [List.append_nil] at hne
    refine ⟨cs.takeWhile Text.isDigit, hcs.symm, hne, ?_⟩
    intro rest hr
    unfold mantissaAt
    dsimp only
    rw [takeWhile_append_of_stop _ (ends_isDigit hr), drop_of_append hcs]
    split
    · rename_i r hr'
      cases ha : cs.dropWhile Text.isDigit with
      | nil =>
        rw [ha, List.nil_append] at hr'
        rw [hr'] at hr
        exact absurd (hr '.' rfl) (by decide)
      | cons a as =>
        rw [ha] at hr'
        obtain ⟨rfl, -⟩ := List.cons.inj hr'
        exact absurd ha (hpoint as)
    · rfl

/-- The lexer takes the whole of a numeral that is read as a double. -/
theorem numberAt_of_readReal? {cs : List Char} {x : Float}
    (hc : ∀ c ∈ cs, isNumeric c = true) (hs : ∀ c ∈ cs.head?, c ≠ '+' ∧ c ≠ '-')
    (h : readReal? cs = some x) {rest : List Char} (hr : Ends goesOn rest) :
    numberAt (cs ++ rest) = cs := by
  have hu : ∀ c ∈ cs, c ≠ '_' := fun c hm => ne_underscore_of_isNumeric (hc c hm)
  unfold readReal? at h
  rw [trimMargin_eq hc, splitSign_eq hs] at h
  dsimp only at h
  rw [named?_eq_none hc] at h
  dsimp only at h
  split at h
  · cases h
  · rename_i hne
    obtain ⟨k, hk, -⟩ := Option.map_eq_some_iff.mp h
    have hsplit : splitPoint cs = ((splitPoint cs).1, (splitPoint cs).2.1, (splitPoint cs).2.2) :=
      rfl
    obtain ⟨mantissa, hcs, hm, hat⟩ := splitPoint_cases hu hsplit
      fun hnil => hne (by rw [hnil]; rfl)
    have htail : ∀ c ∈ (splitPoint cs).2.2, c ≠ '_' := by
      intro c hmem
      refine hu c ?_
      rw [hcs]
      exact List.mem_append_right mantissa hmem
    unfold numberAt
    dsimp only
    rw [hat rest hr, if_neg (fun hempty => hm (List.isEmpty_iff.mp hempty)),
      drop_of_append hcs.symm, exponentAt_append htail hk hr]
    exact hcs.symm

/-- The lexer takes the whole of an integer. -/
theorem numberAt_of_digits {cs : List Char} (hne : cs ≠ []) (hd : ∀ c ∈ cs, c.isDigit = true)
    {rest : List Char} (hr : Ends goesOn rest) : numberAt (cs ++ rest) = cs := by
  have htake : (cs ++ rest).takeWhile Text.isDigit = cs :=
    takeWhile_append_of_ends (fun c hc => isDigit_of_isDigit (hd c hc)) (ends_isDigit hr)
  have hmantissa : mantissaAt (cs ++ rest) = cs := by
    unfold mantissaAt
    dsimp only
    rw [htake, List.drop_left]
    split
    · exact absurd (hr '.' rfl) (by decide)
    · rfl
  unfold numberAt
  dsimp only
  rw [hmantissa, if_neg (fun hempty => hne (List.isEmpty_iff.mp hempty)), List.drop_left,
    exponentAt_of_ends hr, List.append_nil]

/-! ## Numbers -/

theorem isNormal_readNumber {s : String} {n : Number} (h : readNumber s = .ok n) :
    n.isNormal = true := by
  unfold readNumber at h
  dsimp only at h
  split at h
  · split at h
    · rw [← Except.ok.inj h]
      exact Number.isNormal_normalize _
    · cases h
  · split at h
    · rw [← Except.ok.inj h]
      rfl
    · cases h
    · cases h

/-! ## Scanning -/

/-- A numeral that the lexer takes as a whole is scanned as one word. -/
theorem scans_number {c : Char} {cs rest : List Char} (hc : c.isDigit = true)
    (hn : numberAt (c :: cs ++ rest) = c :: cs) :
    Scans .operand (c :: cs ++ rest) [.number (String.ofList (c :: cs))] .operator rest := by
  have hstart : startsName c = false := by
    cases hs : startsName c with
    | false => rfl
    | true =>
      simp only [startsName, isAlpha_of_isDigit hc, Bool.false_or, Bool.or_eq_true,
        beq_iff_eq] at hs
      rcases hs with rfl | rfl <;> exact absurd hc (by decide)
  have hlayout : isLayout c = false := by
    cases hl : isLayout c with
    | false => rfl
    | true =>
      simp only [isLayout, Bool.or_eq_true, beq_iff_eq] at hl
      rcases hl with (((rfl | rfl) | rfl) | rfl) | rfl <;> exact absurd hc (by decide)
  have hword : wordAt? (c :: cs ++ rest) = some (.number (String.ofList (c :: cs))) := by
    unfold wordAt?
    rw [List.cons_append] at hn ⊢
    rw [hn, nameAt, if_neg (Bool.eq_false_iff.mp hstart)]
    rfl
  have hw : lexemeAt? .operand (c :: cs ++ rest) =
      some (.number (String.ofList (c :: cs))) := by
    unfold lexemeAt? expectedAt?
    simp only [hword, Lexeme.resolve]
  exact .word hlayout hw String.toList_ofList .stop

end TokenFormula.Source
