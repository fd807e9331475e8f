import TokenFormula.Proofs.Source.Numeral

/-!
# Words in front of looser texts

What a scanner takes from the start of a text depends on the text only as far as
the word goes and on what could go on it. So it takes the same in front of any text
that goes on no further: the same text with blanks put into it, or a text that
starts with a separator.

Results:
* `Looser`: texts that go on no further than others.
* `nameAt_spelled`, `numberAt_spelled`: names and numbers are found again in front
  of looser texts.
* `quotedAt?_append`: quoted texts are found again in front of any text.
-/

namespace TokenFormula.Source

/-! ## Looser texts -/

/-- A character that no word goes on with: a blank or a semicolon. -/
def isSeparator (c : Char) : Bool :=
  isLayout c || c == ';'

/-- The second text goes on no further than the first: what it starts with, up to a
    separator, the first starts with as well. -/
def Looser (rest rest' : List Char) : Prop :=
  ∀ u, (∀ c ∈ u, isSeparator c = false) → u <+: rest' → u <+: rest

theorem isSeparator_of_isLayout {c : Char} (h : isLayout c = true) : isSeparator c = true := by
  rw [isSeparator, h, Bool.true_or]

/-- A separator is not of a kind that none of the six is of. -/
theorem not_of_isSeparator {kind : Char → Bool}
    (h : [' ', '\t', '\x0c', '\r', '\n', ';'].all (!kind ·) = true) (c : Char)
    (hc : isSeparator c = true) : kind c = false := by
  have hnot : (!kind c) = true := by
    simp only [isSeparator, isLayout, Bool.or_eq_true, beq_iff_eq] at hc
    refine List.all_eq_true.mp h c ?_
    rcases hc with ((((rfl | rfl) | rfl) | rfl) | rfl) | rfl <;> decide
  exact Bool.not_eq_true' _ ▸ hnot

theorem Looser.refl (rest : List Char) : Looser rest rest :=
  fun _ _ h => h

theorem looser_separator {c : Char} (hc : isSeparator c = true) (rest rest' : List Char) :
    Looser rest (c :: rest') := by
  intro u hu h
  cases u with
  | nil => exact List.nil_prefix
  | cons d u =>
    obtain rfl := (List.cons_prefix_cons.mp h).1
    rw [hu d List.mem_cons_self] at hc
    cases hc

/-- Blanks that are put in front. -/
theorem looser_blanks {blanks : List Char} (h : ∀ c ∈ blanks, isLayout c = true)
    (rest : List Char) : Looser rest (blanks ++ rest) := by
  cases blanks with
  | nil => exact .refl rest
  | cons c blanks =>
    exact looser_separator (isSeparator_of_isLayout (h c List.mem_cons_self)) _ _

/-- The same may stand in front of both. -/
theorem Looser.append {rest rest' : List Char} (h : Looser rest rest') (v : List Char) :
    Looser (v ++ rest) (v ++ rest') := by
  intro u hu hp
  by_cases hl : u.length ≤ v.length
  · exact (List.prefix_of_prefix_length_le hp (List.prefix_append v rest') hl).trans
      (List.prefix_append v rest)
  · obtain ⟨w, rfl⟩ := List.prefix_of_prefix_length_le (List.prefix_append v rest') hp (by omega)
    rw [List.prefix_append_right_inj] at hp ⊢
    exact h w (fun c hc => hu c (List.mem_append_right v hc)) hp

/-- What stands in front of both may be left out. -/
theorem Looser.tail {c : Char} (hc : isSeparator c = false) {rest rest' : List Char}
    (h : Looser (c :: rest) (c :: rest')) : Looser rest rest' := by
  intro u hu hp
  refine (List.prefix_cons_inj c).mp (h (c :: u) ?_ ((List.prefix_cons_inj c).mpr hp))
  rw [List.forall_mem_cons]
  exact ⟨hc, hu⟩

/-- A kind of characters without separators does not start a looser text either. -/
theorem Looser.ends {kind : Char → Bool} (hkind : ∀ c, isSeparator c = true → kind c = false)
    {rest rest' : List Char} (h : Looser rest rest') (hr : Ends kind rest) : Ends kind rest' := by
  intro c hc
  cases hs : isSeparator c with
  | true => exact hkind c hs
  | false =>
    have hp : [c] <+: rest' := by
      cases rest' with
      | nil => cases hc
      | cons d r =>
        obtain rfl := Option.some.inj hc
        exact ⟨r, rfl⟩
    obtain ⟨r, rfl⟩ := h [c] (by simpa using hs) hp
    exact hr c rfl

theorem isDigit_of_isSeparator (c : Char) (h : isSeparator c = true) : Text.isDigit c = false :=
  not_of_isSeparator (by decide) c h

theorem continuesName_of_isSeparator (c : Char) (h : isSeparator c = true) :
    continuesName c = false :=
  not_of_isSeparator (by decide) c h

theorem ends_of_takeWhile {kind : Char → Bool} {rest : List Char}
    (h : rest.takeWhile kind = []) : Ends kind rest := by
  intro c hc
  cases rest with
  | nil => cases hc
  | cons d r =>
    obtain rfl := Option.some.inj hc
    cases hd : kind d with
    | false => rfl
    | true =>
      rw [List.takeWhile_cons_of_pos hd] at h
      cases h

theorem takeWhile_eq_nil_of_ends {kind : Char → Bool} {rest : List Char} (h : Ends kind rest) :
    rest.takeWhile kind = [] :=
  @takeWhile_append_of_ends kind [] rest nofun h

/-- A run of characters of one kind is found again. -/
theorem takeWhile_spelled {kind : Char → Bool}
    (hkind : ∀ c, isSeparator c = true → kind c = false) {u rest rest' : List Char}
    (h : (u ++ rest).takeWhile kind = u) (hr : Looser rest rest') :
    (u ++ rest').takeWhile kind = u := by
  have hu : ∀ c ∈ u, kind c = true := by
    rw [← h]
    exact List.all_eq_true.mp List.all_takeWhile
  rw [List.takeWhile_append_of_pos hu, List.append_right_eq_self] at h
  exact takeWhile_append_of_ends hu (hr.ends hkind (ends_of_takeWhile h))

theorem prefix_of_drop {u v cs : List Char} (hu : u <+: cs) (hv : v <+: cs.drop u.length) :
    u ++ v <+: cs := by
  obtain ⟨tail, rfl⟩ := hu
  rw [List.drop_left] at hv
  exact (List.prefix_append_right_inj u).mpr hv

/-! ## Names -/

theorem prefix_nameAt (cs : List Char) : nameAt cs <+: cs := by
  cases cs with
  | nil => exact List.nil_prefix
  | cons c cs =>
    rw [nameAt]
    split
    · exact List.prefix_cons_inj c |>.mpr (List.takeWhile_prefix _)
    · exact List.nil_prefix

/-- Only the first character decides whether a name starts. -/
theorem eq_nil_of_prefix_nameAt {u cs : List Char} (hu : u <+: cs) (hne : u ≠ [])
    (h : nameAt cs = []) (rest : List Char) : nameAt (u ++ rest) = [] := by
  obtain ⟨v, rfl⟩ := hu
  cases u with
  | nil => exact absurd rfl hne
  | cons c u =>
    rw [List.cons_append, nameAt] at h ⊢
    split at h
    · cases h
    · rename_i hc
      rw [if_neg hc]

/-- A name is found again. -/
theorem nameAt_spelled {u rest rest' : List Char} (hne : u ≠ []) (h : nameAt (u ++ rest) = u)
    (hr : Looser rest rest') : nameAt (u ++ rest') = u := by
  cases u with
  | nil => exact absurd rfl hne
  | cons c u =>
    rw [List.cons_append, nameAt] at h ⊢
    split at h
    · rename_i hc
      rw [if_pos hc, takeWhile_spelled continuesName_of_isSeparator (List.cons.inj h).2 hr]
    · cases h

/-! ## Numbers -/

/-- The digits and the point of a number with a point. -/
theorem mantissaAt_point {whole : List Char} (hw : ∀ c ∈ whole, Text.isDigit c = true)
    (rest : List Char) : mantissaAt (whole ++ '.' :: rest) =
      if whole.isEmpty && (rest.takeWhile Text.isDigit).isEmpty then []
      else whole ++ '.' :: rest.takeWhile Text.isDigit := by
  have hpoint : Ends Text.isDigit ('.' :: rest) := by
    intro c hc
    obtain rfl := Option.some.inj hc
    decide
  rw [mantissaAt, takeWhile_append_of_ends hw hpoint]
  dsimp only
  rw [List.drop_left]
  rfl

/-- The digits of a number without a point. -/
theorem mantissaAt_whole {whole rest : List Char} (hw : ∀ c ∈ whole, Text.isDigit c = true)
    (hr : Ends Text.isDigit rest) (hp : Ends (· == '.') rest) :
    mantissaAt (whole ++ rest) = whole := by
  rw [mantissaAt, takeWhile_append_of_ends hw hr]
  dsimp only
  rw [List.drop_left]
  split
  · exact absurd (hp '.' rfl) (by decide)
  · rfl

/-- A text that starts with a character. -/
theorem exists_of_not_ends {c : Char} {rest : List Char} (h : ¬ Ends (· == c) rest) :
    ∃ r, rest = c :: r := by
  cases rest with
  | nil => exact absurd nofun h
  | cons d r =>
    refine ⟨r, ?_⟩
    by_cases hd : d = c
    · rw [hd]
    · refine absurd (fun e he => ?_) h
      obtain rfl := Option.some.inj he
      exact beq_eq_false_iff_ne.mpr hd

/-- A text is its leading digits and the rest. -/
theorem exists_digits (cs : List Char) : ∃ whole rest, cs = whole ++ rest ∧
    (∀ c ∈ whole, Text.isDigit c = true) ∧ Ends Text.isDigit rest := by
  refine ⟨cs.takeWhile Text.isDigit, cs.dropWhile Text.isDigit,
    List.takeWhile_append_dropWhile.symm, List.all_eq_true.mp List.all_takeWhile, ?_⟩
  intro c hc
  have := List.head?_dropWhile_not Text.isDigit cs
  rw [hc] at this
  exact this

/-- Where a text starts with a point before no digit, no number starts, and neither
    does one in a looser text. -/
theorem mantissaAt_lonePoint {r rest' : List Char} (hr : Ends Text.isDigit r)
    (hl : Looser ('.' :: r) rest') : mantissaAt rest' = [] := by
  have hends : Ends Text.isDigit rest' := by
    refine hl.ends isDigit_of_isSeparator fun c hc => ?_
    obtain rfl := Option.some.inj hc
    decide
  by_cases hp : Ends (· == '.') rest'
  · exact @mantissaAt_whole [] rest' nofun hends hp
  · obtain ⟨r', rfl⟩ := exists_of_not_ends hp
    have hends' := (hl.tail (by decide)).ends isDigit_of_isSeparator hr
    have h := @mantissaAt_point [] nofun r'
    rwa [takeWhile_eq_nil_of_ends hends'] at h

/-- The mantissa is found again. -/
theorem mantissaAt_spelled {u rest rest' : List Char} (h : mantissaAt (u ++ rest) = u)
    (hr : Looser rest rest') : mantissaAt (u ++ rest') = u := by
  obtain ⟨whole, tail, he, hw, hends⟩ := exists_digits (u ++ rest)
  by_cases hp : Ends (· == '.') tail
  · -- No point: the mantissa is the digits.
    rw [he, mantissaAt_whole hw hends hp] at h
    subst h
    obtain rfl := List.append_cancel_left he
    exact mantissaAt_whole hw (hr.ends isDigit_of_isSeparator hends)
      (hr.ends (not_of_isSeparator (by decide)) hp)
  · obtain ⟨r, rfl⟩ := exists_of_not_ends hp
    rw [he, mantissaAt_point hw] at h
    split at h
    · -- A lone point is no number, and none starts there in the looser text.
      rename_i hempty
      rw [Bool.and_eq_true, List.isEmpty_iff, List.isEmpty_iff] at hempty
      obtain ⟨rfl, hr0⟩ := hempty
      subst h
      obtain rfl := he
      exact mantissaAt_lonePoint (ends_of_takeWhile hr0) hr
    · rename_i hne
      subst h
      rw [List.append_assoc, List.append_cancel_left_eq, List.cons_append] at he
      have hf := takeWhile_spelled isDigit_of_isSeparator (by rw [(List.cons.inj he).2]) hr
      rw [List.append_assoc, List.cons_append, mantissaAt_point hw, hf, if_neg hne]

theorem prefix_mantissaAt (cs : List Char) : mantissaAt cs <+: cs := by
  obtain ⟨whole, rest, rfl, hw, hends⟩ := exists_digits cs
  by_cases hp : Ends (· == '.') rest
  · rw [mantissaAt_whole hw hends hp]
    exact List.prefix_append _ _
  · obtain ⟨r, rfl⟩ := exists_of_not_ends hp
    rw [mantissaAt_point hw]
    split
    · exact List.nil_prefix
    · exact (List.prefix_append_right_inj whole).mpr
        ((List.prefix_cons_inj '.').mpr (List.takeWhile_prefix _))

/-- The sign is found again in front of a digit. -/
theorem leadingSign_append (cs : List Char) {d : Char} (hd : Text.isDigit d = true)
    (ds : List Char) : leadingSign (leadingSign cs ++ d :: ds) = leadingSign cs := by
  have hdigit : leadingSign (d :: ds) = [] := by
    refine if_neg ?_
    rintro (rfl | rfl) <;> exact absurd hd (by decide)
  cases cs with
  | nil => exact hdigit
  | cons c cs =>
    by_cases hc : c = '+' ∨ c = '-'
    · rw [leadingSign, if_pos hc]
      exact if_pos hc
    · rw [leadingSign, if_neg hc]
      exact hdigit

theorem isSeparator_leadingSign {cs : List Char} :
    ∀ c ∈ leadingSign cs, isSeparator c = false := by
  intro c hc
  cases cs with
  | nil => cases hc
  | cons d cs =>
    rw [leadingSign] at hc
    split at hc
    · rename_i hd
      obtain rfl := List.mem_singleton.mp hc
      rcases hd with rfl | rfl <;> decide
    · cases hc

/-- A letter, a sign and at least one digit are an exponent. -/
theorem exponentAt_of_digit {e d : Char} (he : e = 'e' ∨ e = 'E') (hd : Text.isDigit d = true)
    (r ds : List Char) : exponentAt (e :: (leadingSign r ++ d :: ds)) =
      e :: (leadingSign r ++ (d :: ds).takeWhile Text.isDigit) := by
  rw [exponentAt_cons, if_pos he, leadingSign_append r hd, List.drop_left,
    List.takeWhile_cons_of_pos hd]
  rfl

theorem prefix_leadingSign (cs : List Char) : leadingSign cs <+: cs := by
  cases cs with
  | nil => exact List.nil_prefix
  | cons c cs =>
    rw [leadingSign]
    split
    · exact List.prefix_cons_inj c |>.mpr List.nil_prefix
    · exact List.nil_prefix

/-- There is no exponent, or the text starts with a letter, a sign and a digit. -/
theorem exponentAt_cases (cs : List Char) : exponentAt cs = [] ∨
    ∃ e r d ds, (e = 'e' ∨ e = 'E') ∧ Text.isDigit d = true ∧
      cs = e :: (leadingSign r ++ d :: ds) := by
  cases cs with
  | nil => exact .inl rfl
  | cons e cs =>
    have hcs := List.prefix_iff_eq_append.mp (prefix_leadingSign cs)
    rw [exponentAt_cons]
    split
    · rename_i he
      split
      · exact .inl rfl
      · rename_i hne
        obtain ⟨d, ds, hds⟩ := List.exists_cons_of_ne_nil fun h => hne (List.isEmpty_iff.mpr h)
        obtain ⟨r, hdrop⟩ := List.takeWhile_prefix (l := cs.drop (leadingSign cs).length)
          Text.isDigit
        have hall : ∀ c ∈ d :: ds, Text.isDigit c = true := by
          rw [← hds]
          exact List.all_eq_true.mp List.all_takeWhile
        rw [hds] at hdrop
        refine .inr ⟨e, cs, d, ds ++ r, he, hall d List.mem_cons_self, ?_⟩
        exact congrArg (e :: ·) (hcs.symm.trans (congrArg (leadingSign cs ++ ·) hdrop.symm))
    · exact .inl rfl

theorem prefix_exponentAt (cs : List Char) : exponentAt cs <+: cs := by
  obtain h | ⟨e, r, d, ds, he, hd, rfl⟩ := exponentAt_cases cs
  · rw [h]
    exact List.nil_prefix
  · rw [exponentAt_of_digit he hd]
    exact (List.prefix_cons_inj e).mpr
      ((List.prefix_append_right_inj _).mpr (List.takeWhile_prefix _))

/-- The exponent is found again. -/
theorem exponentAt_spelled {u rest rest' : List Char} (h : exponentAt (u ++ rest) = u)
    (hr : Looser rest rest') : exponentAt (u ++ rest') = u := by
  obtain hnil | ⟨e, r, d, ds, he, hd, hcs⟩ := exponentAt_cases (u ++ rest)
  · -- No exponent starts: the looser text would start with one as the text does.
    obtain rfl : [] = u := hnil.symm.trans h
    obtain h' | ⟨e, r, d, ds, he, hd, rfl⟩ := exponentAt_cases rest'
    · exact h'
    · have hp : e :: (leadingSign r ++ [d]) <+: rest := by
        refine hr _ (fun c hc => ?_) ⟨ds, by simp⟩
        rw [List.mem_cons, List.mem_append, List.mem_singleton] at hc
        rcases hc with rfl | hc | rfl
        · rcases he with rfl | rfl <;> decide
        · exact isSeparator_leadingSign c hc
        · cases hs : isSeparator c with
          | false => rfl
          | true =>
            rw [isDigit_of_isSeparator c hs] at hd
            cases hd
      obtain ⟨tail, rfl⟩ := hp
      rw [List.nil_append, List.cons_append, List.append_assoc, List.singleton_append,
        exponentAt_of_digit he hd] at h
      cases h
  · rw [hcs, exponentAt_of_digit he hd] at h
    subst h
    rw [List.cons_append, List.append_assoc, List.cons_eq_cons, List.append_cancel_left_eq] at hcs
    have hspelled := takeWhile_spelled isDigit_of_isSeparator (by rw [hcs.2]) hr
    rw [List.takeWhile_cons_of_pos hd] at hspelled ⊢
    rw [List.cons_append, List.append_assoc, List.cons_append, exponentAt_of_digit he hd]
    exact congrArg (fun digits => e :: (leadingSign r ++ digits)) hspelled

theorem numberAt_eq (cs : List Char) : numberAt cs =
    if (mantissaAt cs).isEmpty then []
    else mantissaAt cs ++ exponentAt (cs.drop (mantissaAt cs).length) := rfl

theorem prefix_numberAt (cs : List Char) : numberAt cs <+: cs := by
  rw [numberAt_eq]
  split
  · exact List.nil_prefix
  · exact prefix_of_drop (prefix_mantissaAt cs) (prefix_exponentAt _)

/-- The number is found again. -/
theorem numberAt_spelled {u rest rest' : List Char} (h : numberAt (u ++ rest) = u)
    (hr : Looser rest rest') : numberAt (u ++ rest') = u := by
  rw [numberAt_eq] at h
  split at h
  · rename_i hm
    subst h
    have hm' := mantissaAt_spelled (List.isEmpty_iff.mp hm) hr
    rw [numberAt_eq, hm']
    rfl
  · rename_i hne
    generalize hm : mantissaAt (u ++ rest) = m at h hne
    generalize he : exponentAt ((u ++ rest).drop m.length) = e at h
    subst h
    rw [List.append_assoc] at hm he ⊢
    rw [List.drop_left] at he
    rw [numberAt_eq, mantissaAt_spelled hm (hr.append e), if_neg hne, List.drop_left,
      exponentAt_spelled he hr]

/-! ## Quoted texts -/

theorem quotedRest?_of_ne {quote c : Char} (hc : c ≠ '\\') (cs : List Char) :
    quotedRest? quote (c :: cs) =
      if c = quote then some [c] else (quotedRest? quote cs).map (c :: ·) := by
  rw [quotedRest?, if_neg hc]
  exact fun _ _ h _ => hc h

/-- The rest of a quoted text ends with its closing quote, whatever follows. -/
theorem quotedRest?_append {quote : Char} (hq : quote ≠ '\\') (rest cs : List Char) :
    ∀ u, quotedRest? quote cs = some u → u <+: cs ∧ quotedRest? quote (u ++ rest) = some u := by
  induction cs using quotedRest?.induct quote with
  | case1 =>
    intro u h
    cases h
  | case2 cs =>
    intro u h
    rw [quotedRest?, if_pos rfl] at h
    cases h
  | case3 c cs hc ih =>
    intro u h
    rw [quotedRest?, if_neg hc] at h
    obtain ⟨v, hv, rfl⟩ := Option.map_eq_some_iff.mp h
    obtain ⟨hp, he⟩ := ih v hv
    refine ⟨(List.prefix_cons_inj _).mpr ((List.prefix_cons_inj _).mpr hp), ?_⟩
    rw [List.cons_append, List.cons_append, quotedRest?, if_neg hc, he]
    rfl
  | case4 cs _ =>
    intro u h
    rw [quotedRest?_of_ne hq, if_pos rfl] at h
    obtain rfl := Option.some.inj h
    refine ⟨(List.prefix_cons_inj quote).mpr List.nil_prefix, ?_⟩
    rw [List.singleton_append, quotedRest?_of_ne hq, if_pos rfl]
  | case5 cs hcs hne =>
    intro u h
    rw [quotedRest?, if_neg hne, if_pos rfl] at h
    · cases h
    · exact hcs
  | case6 c cs _ hne hc ih =>
    intro u h
    rw [quotedRest?_of_ne hc, if_neg hne] at h
    obtain ⟨v, hv, rfl⟩ := Option.map_eq_some_iff.mp h
    obtain ⟨hp, he⟩ := ih v hv
    refine ⟨(List.prefix_cons_inj c).mpr hp, ?_⟩
    rw [List.cons_append, quotedRest?_of_ne hc, if_neg hne, he]
    rfl

/-- A quoted text starts with a quote and is found again, whatever follows. -/
theorem quotedAt?_append {cs u : List Char} (h : quotedAt? cs = some u) (rest : List Char) :
    u <+: cs ∧ quotedAt? (u ++ rest) = some u ∧ nameAt (u ++ rest) = [] ∧
      numberAt (u ++ rest) = [] := by
  cases cs with
  | nil => cases h
  | cons c cs =>
    rw [quotedAt?] at h
    split at h
    · rename_i hc
      obtain ⟨v, hv, rfl⟩ := Option.map_eq_some_iff.mp h
      have hne : c ≠ '\\' := by
        rintro rfl
        exact absurd hc (by decide)
      obtain ⟨hp, he⟩ := quotedRest?_append hne rest cs v hv
      refine ⟨(List.prefix_cons_inj c).mpr hp, ?_, ?_⟩
      · rw [List.cons_append, quotedAt?, if_pos hc, he]
        rfl
      · rcases hc with rfl | rfl <;> exact ⟨rfl, rfl⟩
    · cases h

end TokenFormula.Source
