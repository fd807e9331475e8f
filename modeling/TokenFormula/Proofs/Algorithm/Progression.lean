import TokenFormula.Proofs.Algorithm.Range
import TokenFormula.Proofs.Algorithm.Series
import TokenFormula.Proofs.Number.Quotient
import TokenFormula.Proofs.Number.Text

/-!
# Series over integers

The number of values of a range is the floor of a rounded quotient, which can be
one too great, or far off beyond `2^53`. Over integers this does no harm: a count
within a limit of at most `2^53` is never too small, and values beyond the last
one are cut off. Different integers have different texts, and so the tokens have
different ids and names.

Results:
* `progression`: the integers of a range.
* `values_ofInts`: the values of a range over integers.
* `IsProgression`: the integers `first + k · step` up to `last`, in order.
* `series_ofInts`: the values and the tokens of a range over integers.
-/

namespace TokenFormula

/-! ## Progressions -/

/-- The integers `first`, `first + step`, … up to `last`. -/
def progression (first last step : Int) : List Int :=
  (List.range ((last - first) / step + 1).toNat).map fun k : Nat => first + k * step

/-- The list holds all `first + k · step` up to `last`, in increasing order. -/
structure IsProgression (first last step : Int) (zs : List Int) : Prop where
  mem_iff : ∀ z, z ∈ zs ↔ z ≤ last ∧ ∃ k : Nat, z = first + k * step
  increasing : zs.Pairwise (· < ·)

section Progression

variable (first last : Int) {step : Int}

theorem lt_count_iff (hstep : 0 < step) (k : Nat) :
    k < ((last - first) / step + 1).toNat ↔ first + k * step ≤ last := by
  have h := Int.le_ediv_iff_mul_le (a := k) (b := last - first) hstep
  omega

theorem isProgression_progression (hstep : 0 < step) :
    IsProgression first last step (progression first last step) where
  mem_iff z := by
    unfold progression
    simp only [List.mem_map, List.mem_range, lt_count_iff first last hstep]
    constructor
    · rintro ⟨k, hk, rfl⟩
      exact ⟨hk, k, rfl⟩
    · rintro ⟨hz, k, rfl⟩
      exact ⟨k, hz, rfl⟩
  increasing := by
    unfold progression
    rw [List.pairwise_map]
    refine List.pairwise_lt_range.imp fun {i j} hij => ?_
    have := Int.mul_lt_mul_of_pos_right (Int.ofNat_lt.mpr hij) hstep
    omega

/-- Only an empty list can be longer than its limit, a negative one. -/
theorem length_le_iff {zs : List Int} {limit : Int}
    (h : zs = [] ∨ (zs.length : Int) ≤ limit) :
    (zs.length : Int) ≤ limit ↔ zs ≠ [] ∨ 0 ≤ limit := by
  obtain rfl | h := h
  · simp
  · have : (0 : Int) ≤ limit := by omega
    exact iff_of_true h (.inr this)

end Progression

/-! ## Values of a range over integers -/

namespace IterationRange

/-- The range over integers. -/
def ofInts (first last step : Int) : IterationRange :=
  ⟨.int first, .int last, .int step⟩

section Integers

variable {first last step limit : Int}

theorem value_ofInts (k : Nat) :
    (ofInts first last step).value k = .ok (.int (first + k * step)) := rfl

/-- The values from a place on are those of the progression, at most `n` of them: the
    guard on the last value ends the loop where the progression ends. -/
theorem valuesFrom_ofInts (hstep : 0 < step) (n : Nat) : ∀ k,
    (ofInts first last step).valuesFrom k n =
      .ok ((List.range' k (min n (((last - first) / step + 1).toNat - k))).map
        fun j : Nat => .int (first + j * step)) := by
  induction n with
  | zero => intro k; rw [valuesFrom, Nat.zero_min]; rfl
  | succ n ih =>
    intro k
    have hless : (ofInts first last step).last.less (.int (first + k * step)) =
        decide (last < first + k * step) := Number.less_int ..
    have hcount := lt_count_iff first last hstep k
    rw [valuesFrom, value_ofInts, ok_bind, hless]
    by_cases h : last < first + k * step
    · rw [decide_eq_true h, if_pos rfl, show ((last - first) / step + 1).toNat - k = 0 by omega,
        Nat.min_zero]
      rfl
    · rw [decide_eq_false h, if_neg Bool.false_ne_true, ih (k + 1), ok_bind, pure_eq_ok,
        show min (n + 1) (((last - first) / step + 1).toNat - k) =
          min n (((last - first) / step + 1).toNat - (k + 1)) + 1 by omega,
        List.range'_succ, List.map_cons]

/-- The count is not below the number of values, if it is at most `2^53`. -/
theorem le_count {c : Int} (hstep : 0 < step) (hle : first ≤ last)
    (h : (ofInts first last step).count = .ok c) (hc : c ≤ Number.safeLimit) :
    (last - first) / step + 1 ≤ c := by
  unfold count ofInts at h
  obtain ⟨length, hlength, h⟩ := bind_eq_ok h
  obtain rfl : Number.int (last - first) = length := Except.ok.inj hlength
  obtain ⟨quotient, hquotient, h⟩ := bind_eq_ok h
  obtain ⟨k, hk, h⟩ := bind_eq_ok h
  obtain rfl : k + 1 = c := Except.ok.inj h
  -- The integer to compare with is the exact quotient, but no more than `2^53`: a count
  -- beyond that is excluded by `hc`.
  obtain ⟨n, hn⟩ := Int.eq_ofNat_of_zero_le (Int.ediv_nonneg (Int.sub_nonneg_of_le hle) hstep.le)
  have hmul : (min n (2 ^ 53) : ℕ) * step ≤ last - first := calc
    ((min n (2 ^ 53) : ℕ) : Int) * step ≤ (last - first) / step * step :=
      Int.mul_le_mul_of_nonneg_right (by omega) hstep.le
    _ ≤ last - first := Int.ediv_mul_le _ hstep.ne'
  have := Number.le_floor_of_divide_int hstep (Nat.min_le_right n _) hmul hquotient hk
  rw [Number.safeLimit] at hc
  omega

/-- The values of a range over integers are the progression, and there are no more
    than the limit allows. -/
theorem values_ofInts (hlimit : limit ≤ Number.safeLimit) {ns : List Number}
    (h : (ofInts first last step).values limit = .ok ns) :
    0 < step ∧ ns = (progression first last step).map .int ∧
      (ns = [] ∨ (ns.length : Int) ≤ limit) := by
  obtain ⟨hpos, hloop, hcount⟩ := exists_of_values h
  have hstep : 0 < step := of_decide_eq_true ((Number.less_int 0 step).symm.trans hpos)
  rw [valuesFrom_ofInts hstep, Nat.sub_zero] at hloop
  have hless : (ofInts first last step).last.less (ofInts first last step).first =
      decide (last < first) := Number.less_int ..
  refine ⟨hstep, ?_⟩
  by_cases hempty : last < first
  · have hnone : (last - first) / step < 0 := Int.ediv_neg_of_neg_of_pos (by omega) hstep
    have hzero : ((last - first) / step + 1).toNat = 0 := by omega
    rw [hzero, Nat.min_zero] at hloop
    obtain rfl := Except.ok.inj hloop
    rw [progression, hzero]
    exact ⟨rfl, .inl rfl⟩
  · obtain ⟨c, hc, hcl, hlooked⟩ := hcount (hless.trans (decide_eq_false hempty))
    have hle := le_count hstep (Int.not_lt.mp hempty) hc (by omega)
    rw [hlooked, Nat.min_eq_right (by omega)] at hloop
    obtain rfl := Except.ok.inj hloop
    have hpos : 0 ≤ (last - first) / step := Int.ediv_nonneg (by omega) (by omega)
    rw [progression, List.range_eq_range', List.map_map, List.length_map, List.length_range']
    exact ⟨rfl, .inr (by omega)⟩

end Integers

end IterationRange

/-! ## Names of tokens -/

/-- The name of a token ends with the digits of its integer; a word in front of them
    tells the negative ones. -/
theorem eq_of_displayName {algorithmName s : String} {k : Int}
    (h : displayName algorithmName (.int k) = .ok s) :
    s = Text.lower (String.ofList (Text.joinBlanks '-' algorithmName.toList)) ++
      ((if k < 0 then "-minus-" else "-") ++ k.natAbs.repr) := by
  unfold displayName at h
  dsimp only at h
  rw [Number.less_int] at h
  by_cases hk : k < 0
  · rw [decide_eq_true hk, if_pos rfl, Number.magnitude] at h
    obtain ⟨t, ht, h⟩ := bind_eq_ok h
    obtain rfl := Except.ok.inj h
    rw [if_pos hk, Number.eq_toString_of_text ht, String.append_assoc]
    rfl
  · rw [decide_eq_false hk, if_neg Bool.false_ne_true] at h
    obtain ⟨t, ht, h⟩ := bind_eq_ok h
    obtain rfl := Except.ok.inj h
    obtain ⟨m, rfl⟩ := Int.eq_ofNat_of_zero_le (Int.not_lt.mp hk)
    rw [if_neg hk, Number.eq_toString_of_text ht, String.append_assoc]
    rfl

/-- No digits follow the word minus in place of a digit. -/
theorem minus_ne_digits (m n : Nat) : "-minus-" ++ m.repr ≠ "-" ++ n.repr := by
  intro h
  have h : "-" ++ ("minus-" ++ m.repr) = "-" ++ n.repr := by
    rw [← h, ← String.append_assoc]
    rfl
  have h := (String.append_right_inj "-").mp h
  exact absurd (by rw [← h, String.toList_append]; rfl)
    (Number.repr_ne_of_head (c := 'm') rfl n ("inus-".toList ++ m.repr.toList))

theorem eq_of_displayName_eq {algorithmName s : String} {j k : Int}
    (hj : displayName algorithmName (.int j) = .ok s)
    (hk : displayName algorithmName (.int k) = .ok s) : j = k := by
  have h := (eq_of_displayName hj).symm.trans (eq_of_displayName hk)
  have h := (String.append_right_inj _).mp h
  by_cases hj0 : j < 0 <;> by_cases hk0 : k < 0
  · rw [if_pos hj0, if_pos hk0, String.append_right_inj] at h
    have := Number.eq_of_repr_eq h
    omega
  · rw [if_pos hj0, if_neg hk0] at h
    exact absurd h (minus_ne_digits _ _)
  · rw [if_neg hj0, if_pos hk0] at h
    exact absurd h.symm (minus_ne_digits _ _)
  · rw [if_neg hj0, if_neg hk0, String.append_right_inj] at h
    have := Number.eq_of_repr_eq h
    omega

namespace Algorithm

theorem eq_of_tokenId_eq {a : Algorithm} {s : String} {j k : Int}
    (hj : a.tokenId (.int j) = .ok s) (hk : a.tokenId (.int k) = .ok s) : j = k := by
  obtain ⟨t, ht, hj⟩ := bind_eq_ok hj
  obtain ⟨u, hu, hk⟩ := bind_eq_ok hk
  obtain rfl := Except.ok.inj hj
  have h := (String.append_right_inj _).mp (Except.ok.inj hk)
  rw [Number.eq_toString_of_text ht, Number.eq_toString_of_text hu] at h
  exact (Number.eq_of_toString_eq h).symm

/-- The token is for the iteration value and has its id; without an error it also
    has its name. -/
structure IsTokenOf (a : Algorithm) (n : Number) (t : Token) : Prop where
  iteration_eq : t.iteration = n
  id_eq : a.tokenId n = .ok t.id
  displayName_eq : t.error? = none → displayName a.name n = .ok t.displayName

theorem IsTokenOf.eq_of_id_eq {a : Algorithm} {j k : Int} {t u : Token}
    (ht : a.IsTokenOf (.int j) t) (hu : a.IsTokenOf (.int k) u) (h : t.id = u.id) :
    t.iteration = u.iteration := by
  have hid := ht.id_eq
  rw [h] at hid
  rw [ht.iteration_eq, hu.iteration_eq, eq_of_tokenId_eq hid hu.id_eq]

theorem IsTokenOf.eq_of_displayName_eq {a : Algorithm} {j k : Int} {t u : Token}
    (ht : a.IsTokenOf (.int j) t) (hu : a.IsTokenOf (.int k) u) (hte : t.error? = none)
    (hue : u.error? = none) (h : t.displayName = u.displayName) : t.iteration = u.iteration := by
  have hname := ht.displayName_eq hte
  rw [h] at hname
  rw [ht.iteration_eq, hu.iteration_eq,
    TokenFormula.eq_of_displayName_eq hname (hu.displayName_eq hue)]

theorem isTokenOf_token {a : Algorithm} {settings : Settings} {modes : Modes} {n : Number}
    {t : Token} (h : (a.token settings modes n).1 = .ok t) : a.IsTokenOf n t := by
  unfold token at h
  split at h
  · cases h
  · rename_i id hid
    split at h
    · obtain ⟨name, hname, h⟩ := bind_eq_ok (mapError_eq_ok h)
      obtain ⟨value, -, h⟩ := bind_eq_ok h
      obtain rfl := Except.ok.inj h
      exact ⟨rfl, hid, fun _ => hname⟩
    · split at h
      · cases h
      · obtain ⟨s, -, h⟩ := bind_eq_ok (mapError_eq_ok h)
        obtain rfl := Except.ok.inj h
        exact ⟨rfl, hid, nofun⟩
    · cases h

section Series

variable {a : Algorithm} {ns : List Number} {ts : List Token}

theorem iterations_of_forall₂ (h : List.Forall₂ a.IsTokenOf ns ts) :
    ts.map Token.iteration = ns ∧ ∀ t ∈ ts, a.IsTokenOf t.iteration t := by
  induction h with
  | nil => exact ⟨rfl, nofun⟩
  | cons ht _ ih =>
    obtain ⟨hmap, hall⟩ := ih
    rw [List.map_cons, ht.iteration_eq, hmap]
    refine ⟨rfl, List.forall_mem_cons.mpr ⟨?_, hall⟩⟩
    rw [ht.iteration_eq]
    exact ht

/-- What tells the iteration values of some tokens apart is different for all of them. -/
theorem nodup_map_filter {f : Token → String} {p : Token → Bool}
    (hts : (ts.map Token.iteration).Nodup)
    (hf : ∀ t ∈ ts, ∀ u ∈ ts, p t = true → p u = true → f t = f u → t.iteration = u.iteration) :
    ((ts.filter p).map f).Nodup := by
  rw [List.Nodup, List.pairwise_map] at hts ⊢
  refine (hts.filter p).imp_of_mem fun {t u} ht hu hne heq => ?_
  obtain ⟨ht, hpt⟩ := List.mem_filter.mp ht
  obtain ⟨hu, hpu⟩ := List.mem_filter.mp hu
  exact hne (hf t ht u hu hpt hpu heq)

/-- Tokens of different integers have different ids, and different names where
    there is no error. -/
theorem nodup_of_forall₂ {zs : List Int} (hzs : zs.Nodup)
    (h : List.Forall₂ a.IsTokenOf (zs.map .int) ts) :
    (ts.map Token.id).Nodup ∧
      ((ts.filter (·.error?.isNone)).map Token.displayName).Nodup := by
  obtain ⟨hmap, hall⟩ := iterations_of_forall₂ h
  have hnodup : (ts.map Token.iteration).Nodup := by
    rw [hmap]
    exact hzs.map fun j k hjk => Number.int.inj hjk
  have hint : ∀ t ∈ ts, ∃ k : Int, a.IsTokenOf (.int k) t := by
    intro t ht
    have hmem : t.iteration ∈ zs.map .int := hmap ▸ List.mem_map_of_mem ht
    obtain ⟨k, -, hk⟩ := List.mem_map.mp hmem
    exact ⟨k, hk ▸ hall t ht⟩
  constructor
  · have hid := nodup_map_filter (f := Token.id) (p := fun _ => true) hnodup
      fun t ht u hu _ _ heq => by
        obtain ⟨j, hj⟩ := hint t ht
        obtain ⟨k, hk⟩ := hint u hu
        exact hj.eq_of_id_eq hk heq
    rwa [List.filter_true] at hid
  · refine nodup_map_filter hnodup fun t ht u hu hpt hpu heq => ?_
    obtain ⟨j, hj⟩ := hint t ht
    obtain ⟨k, hk⟩ := hint u hu
    exact hj.eq_of_displayName_eq hk (Option.isNone_iff_eq_none.mp hpt)
      (Option.isNone_iff_eq_none.mp hpu) heq

/-- The values of a range over integers are its progression. They are no more than a
    limit of at most `2^53` allows, unless there are none and the limit is negative.
    The tokens of the range have these iteration values, different ids and, where there
    is no error, different names; a series that is switched off has no tokens. -/
theorem series_ofInts {first last step limit : Int} (hlimit : limit ≤ Number.safeLimit) :
    (∀ ns, (IterationRange.ofInts first last step).values limit = .ok ns →
      ∃ zs, ns = zs.map .int ∧ IsProgression first last step zs ∧
        ((zs.length : Int) ≤ limit ↔ zs ≠ [] ∨ 0 ≤ limit)) ∧
    ∀ (a : Algorithm) (settings : Settings) (modes : Modes) (g : TokenGeneration)
      (ts : List Token), a.generation? = some g →
      g.range = IterationRange.ofInts first last step → settings.maxIterations = limit →
      (a.tokens settings modes).1 = .ok ts →
      (g.enabled = true →
        (IterationRange.ofInts first last step).values limit = .ok (ts.map Token.iteration)) ∧
      (g.enabled = false → ts = []) ∧
      (ts.map Token.id).Nodup ∧
      ((ts.filter (·.error?.isNone)).map Token.displayName).Nodup := by
  constructor
  · intro ns h
    obtain ⟨hstep, rfl, hlength⟩ := IterationRange.values_ofInts hlimit h
    rw [List.map_eq_nil_iff, List.length_map] at hlength
    exact ⟨_, rfl, isProgression_progression first last hstep, length_le_iff hlength⟩
  · intro a settings modes g ts hg hrange hsettings hts
    unfold tokens at hts
    rw [hg] at hts
    dsimp only at hts
    by_cases henabled : g.enabled = true
    · rw [if_pos henabled, hrange, hsettings] at hts
      split at hts
      · cases hts
      · rename_i ns hns
        obtain ⟨hstep, rfl, -⟩ := IterationRange.values_ofInts hlimit hns
        have htokens := (tokensOf_eq_ok_iff a settings modes _ ts).mp hts
        have hall : List.Forall₂ a.IsTokenOf _ ts :=
          htokens.imp fun _ _ => isTokenOf_token
        rw [(iterations_of_forall₂ hall).1]
        have hincreasing := (isProgression_progression first last hstep).increasing
        exact ⟨fun _ => hns, fun h => absurd henabled (Bool.eq_false_iff.mp h),
          nodup_of_forall₂ (hincreasing.imp fun h => Int.ne_of_lt h) hall⟩
    · rw [if_neg henabled] at hts
      obtain rfl := Except.ok.inj hts
      exact ⟨fun h => absurd h henabled, fun _ => rfl, List.nodup_nil, List.nodup_nil⟩

end Series

/-- A series over -1, 0 and 1 of one formula. -/
def seriesAcrossZero (text : String) : Algorithm :=
  { ofTexts "dimension" [] [("F1", text)] with
    generation? := some ⟨true, IterationRange.ofInts (-1) 1 1⟩ }

set_option maxRecDepth 10000 in
/-- The series of `n` over -1, 0 and 1 has three tokens. -/
theorem series_ofInts_across_zero :
    Settings.default.maxIterations ≤ Number.safeLimit ∧
      ∃ ts, ((seriesAcrossZero "n").tokens Settings.default []).1 = .ok ts ∧
        ts.map Token.iteration = [.int (-1), .int 0, .int 1] ∧ (ts.map Token.id).Nodup ∧
        ((ts.filter (·.error?.isNone)).map Token.displayName).Nodup := by
  have hlimit : Settings.default.maxIterations ≤ Number.safeLimit := by decide
  have hvalues : (IterationRange.ofInts (-1) 1 1).values Settings.default.maxIterations =
      .ok [.int (-1), .int 0, .int 1] := rfl
  have htoken : ∀ n ∈ [Number.int (-1), .int 0, .int 1],
      ∃ t, ((seriesAcrossZero "n").token Settings.default [] n).1 = .ok t := by
    have hsmall : ∀ k ∈ [-1, 0, (1 : Int)], k.natAbs < Number.safeLimit.natAbs := by decide
    have hruns : ∀ k ∈ [-1, 0, (1 : Int)], ∃ r, ((seriesAcrossZero "n").run Settings.default
        (.num (.int k)) [] []).1 = .ok r ∧ r.final = .num (.int k) := by
      intro k hk
      rw [run_num (n := .int k) (Number.safeLimit_lt_textLimit (hsmall k hk)) rfl]
      exact ⟨_, rfl, rfl⟩
    intro n hn
    obtain ⟨k, hk, rfl⟩ := List.mem_map.mp (show n ∈ [-1, 0, 1].map Number.int from hn)
    obtain ⟨r, hr, hfinal⟩ := hruns k hk
    refine (exists_token_iff (.inl ⟨r, hr⟩)).mpr fun q hq => ?_
    rw [hr] at hq
    obtain rfl := Except.ok.inj hq
    rw [hfinal]
    exact ⟨(Value.hasText_int k).mpr (Number.safeLimit_lt_textLimit (hsmall k hk)),
      fun h => absurd h (by decide)⟩
  obtain ⟨ts, hts⟩ := (exists_tokensOf_iff _ _ _ _).mpr htoken
  have htokens : ((seriesAcrossZero "n").tokens Settings.default []).1 = .ok ts := by
    rw [tokens_eq_tokensOf rfl rfl hvalues]
    exact hts
  obtain ⟨hiteration, -, hid, hname⟩ :=
    (@series_ofInts (-1) 1 1 _ hlimit).2 _ _ [] _ ts rfl rfl rfl htokens
  have hmap := hvalues.symm.trans (hiteration rfl)
  exact ⟨hlimit, ts, htokens, (Except.ok.inj hmap).symm, hid, hname⟩

/-- The limit is not looked at for an empty range, which so has more values than a
    negative limit allows. -/
theorem not_series_ofInts :
    (-1 : Int) ≤ Number.safeLimit ∧
      ¬ ∀ ns, (IterationRange.ofInts 1 0 1).values (-1) = .ok ns → (ns.length : Int) ≤ -1 := by
  refine ⟨by decide, fun h => ?_⟩
  have := h [] rfl
  exact absurd this (by decide)

end Algorithm

end TokenFormula
