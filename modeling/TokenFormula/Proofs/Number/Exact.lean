import TokenFormula.Number.Basic

/-!
# A double is determined by its exact value

The logical model of doubles unpacks the bits into a sign, a mantissa and an
exponent, computes there, rounds and packs the result. The exact value of a
double is read off the same bits, so each determines the other, and what an
operation does to the exact value says what it does to the double.

Results:
* `exact_injective`: two doubles with the same exact value are equal.
* `exact_pack`: a value in canonical form is that of its packed double.
* `exact_negate`: negation turns the sign of the exact value.
-/

namespace TokenFormula.Double

open Float.Model Float.Model.UnpackedFloat

/-! ## Parts of a bit pattern -/

section Bits

variable (b : BitVec Format.binary64.numBits)

theorem toNat_unpackMantissa : (unpackMantissa b).toNat = b.toNat % 2 ^ 52 := by
  simp [unpackMantissa, BitVec.extractLsb_toNat]

theorem toNat_unpackExponent : (unpackExponent b).toNat = b.toNat / 2 ^ 52 % 2 ^ 11 := by
  simp [unpackExponent, BitVec.extractLsb_toNat, Nat.shiftRight_eq_div_pow]

theorem toNat_unpackSign : (unpackSign b).toNat = b.toNat / 2 ^ 63 := by
  have h : b.toNat < 2 ^ 64 := b.isLt
  show (b.extractLsb 63 63).toNat = _
  rw [BitVec.extractLsb_toNat, Nat.shiftRight_eq_div_pow]
  omega

end Bits

theorem toNat_append {n k : Nat} (x : BitVec n) (y : BitVec k) :
    (x ++ y).toNat = x.toNat * 2 ^ k + y.toNat := by
  rw [BitVec.toNat_append, ← Nat.shiftLeft_add_eq_or_of_lt y.isLt, Nat.shiftLeft_eq]

theorem toNat_packComponents (s : Sign) (e : BitVec 11) (m : BitVec 52) :
    (packComponents Format.binary64 s e m).toNat =
      s.toBitVec.toNat * 2 ^ 63 + e.toNat * 2 ^ 52 + m.toNat := by
  show (s.toBitVec ++ e ++ m).toNat = _
  rw [toNat_append, toNat_append]
  omega

/-! ## Exact values and unpacked values -/

/-- The sign of an unpacked value. -/
def signOf (negative : Bool) : Sign :=
  if negative then .negative else .positive

theorem toNat_signOf (negative : Bool) :
    (signOf negative).toBitVec.toNat = if negative then 1 else 0 := by
  cases negative <;> rfl

theorem neg_signOf (negative : Bool) : -signOf negative = signOf (!negative) := by
  cases negative <;> rfl

namespace Exact

/-- The unpacked value that stands for the exact one. -/
def unpacked : Exact → UnpackedFloat
  | nan => .notANumber
  | infinite s => .infinity (signOf s)
  | finite s m q => if h : m = 0 then .zero (signOf s) else .finite (signOf s) m q (Nat.pos_of_ne_zero h)

theorem unpacked_finite {s : Bool} {m : Nat} {q : Int} (h : m ≠ 0) :
    (finite s m q).unpacked = .finite (signOf s) m q (Nat.pos_of_ne_zero h) :=
  dif_neg h

/-- The mantissa and the exponent are those of a double. -/
def Canonical : Exact → Prop
  | finite _ m q =>
    m < 2 ^ 52 ∧ q = -1074 ∨ 2 ^ 52 ≤ m ∧ m < 2 ^ 53 ∧ -1074 ≤ q ∧ q ≤ 971
  | _ => True

/-- The value with its sign turned. -/
def neg : Exact → Exact
  | nan => nan
  | infinite s => infinite (!s)
  | finite s m q => finite (!s) m q

theorem neg_neg (v : Exact) : v.neg.neg = v := by
  cases v <;> simp [neg]

theorem unpacked_neg (v : Exact) : v.neg.unpacked = v.unpacked.neg := by
  cases v with
  | nan => rfl
  | infinite s => exact congrArg UnpackedFloat.infinity (neg_signOf s).symm
  | finite s m q =>
    by_cases h : m = 0
    · rw [neg, unpacked, unpacked, dif_pos h, dif_pos h, ← neg_signOf]
      rfl
    · rw [neg, unpacked_finite h, unpacked_finite h, ← neg_signOf]
      rfl

theorem Canonical.neg {v : Exact} (h : v.Canonical) : v.neg.Canonical := by
  cases v with
  | nan | infinite => trivial
  | finite s m q => exact h

theorem canonical_ofBits (b : Nat) : (ofBits b).Canonical := by
  unfold ofBits
  dsimp only
  split
  · split <;> trivial
  · split
    · left
      exact ⟨Nat.mod_lt _ (by decide), rfl⟩
    · right
      have := Nat.mod_lt b (show 2 ^ 52 > 0 by decide)
      have := Nat.mod_lt (b / 2 ^ 52) (show 2 ^ 11 > 0 by decide)
      omega

end Exact

theorem exact_eq (x : Float) : exact x = .ofBits x.toModel.toBits.toBitVec.toNat := rfl

theorem canonical_exact (x : Float) : (exact x).Canonical :=
  Exact.canonical_ofBits _

theorem ofBitVec_unpackSign (b : BitVec Format.binary64.numBits) :
    Sign.ofBitVec (unpackSign b) = signOf (b.toNat / 2 ^ 63 == 1) := by
  have hs := toNat_unpackSign b
  have h : b.toNat < 2 ^ 64 := b.isLt
  rw [← hs]
  generalize unpackSign b = v
  have hv : v = 0#1 ∨ v = 1#1 := by
    have := v.isLt
    rcases (by omega : v.toNat = 0 ∨ v.toNat = 1) with h | h
    · exact .inl (BitVec.eq_of_toNat_eq h)
    · exact .inr (BitVec.eq_of_toNat_eq h)
  obtain rfl | rfl := hv <;> rfl

theorem finite_congr {s : Sign} {m m' : Nat} {q q' : Int} {h : 0 < m} {h' : 0 < m'}
    (hm : m = m') (hq : q = q') :
    UnpackedFloat.finite s m q h = UnpackedFloat.finite s m' q' h' := by
  subst hm hq
  rfl

/-- Unpacking reads the exact value. -/
theorem unpack_ofBits (b : BitVec Format.binary64.numBits) :
    UnpackedFloat.unpack Format.binary64 b = (Exact.ofBits b.toNat).unpacked := by
  have hones : unpackExponent b = -1#11 ↔ b.toNat / 2 ^ 52 % 2 ^ 11 = 2047 := by
    rw [← BitVec.toNat_inj, toNat_unpackExponent]
    rfl
  have hzero : unpackExponent b = 0#11 ↔ b.toNat / 2 ^ 52 % 2 ^ 11 = 0 := by
    rw [← BitVec.toNat_inj, toNat_unpackExponent]
    rfl
  have hnone : unpackMantissa b = 0#52 ↔ b.toNat % 2 ^ 52 = 0 := by
    rw [← BitVec.toNat_inj, toNat_unpackMantissa]
    rfl
  unfold UnpackedFloat.unpack Exact.ofBits
  dsimp only
  rw [ofBitVec_unpackSign]
  by_cases hE : unpackExponent b = -1#11
  · rw [if_pos hE, if_pos (hones.mp hE)]
    by_cases hM : unpackMantissa b = 0#52
    · rw [if_pos hM, if_pos (hnone.mp hM)]
      rfl
    · rw [if_neg hM, if_neg (mt hnone.mpr hM)]
      rfl
  · rw [if_neg hE, if_neg (mt hones.mpr hE)]
    by_cases hZ : unpackExponent b = 0#11
    · rw [if_pos hZ, if_pos (hzero.mp hZ)]
      by_cases hM : unpackMantissa b = 0#52
      · rw [dif_pos hM, Exact.unpacked, dif_pos (hnone.mp hM)]
      · rw [dif_neg hM, Exact.unpacked_finite (mt hnone.mpr hM)]
        refine finite_congr (toNat_unpackMantissa b) ?_
        rw [hZ]
        rfl
    · rw [if_neg hZ, if_neg (mt hzero.mpr hZ), Exact.unpacked_finite (by omega)]
      refine finite_congr ?_ ?_
      · rw [toNat_append, toNat_unpackMantissa]
        rfl
      · rw [toNat_unpackExponent]
        show _ - ((1023 : Int) + 52) = _
        omega

theorem unpack_eq (x : Float) : x.toModel.unpack = (exact x).unpacked :=
  unpack_ofBits _

/-! ## Packing -/

namespace Exact

/-- The bit pattern of a canonical value. -/
def bits : Exact → Nat
  | nan => 0x7FF8000000000000
  | infinite s => (if s then 1 else 0) * 2 ^ 63 + 2047 * 2 ^ 52
  | finite s m q =>
    (if s then 1 else 0) * 2 ^ 63 +
      (if m < 2 ^ 52 then m else (q + 1075).toNat * 2 ^ 52 + (m - 2 ^ 52))

theorem ofBits_add (s : Bool) {r : Nat} (hr : r < 2 ^ 63) :
    ofBits ((if s then 1 else 0) * 2 ^ 63 + r) =
      if r / 2 ^ 52 = 2047 then (if r % 2 ^ 52 = 0 then infinite s else nan)
      else if r / 2 ^ 52 = 0 then finite s (r % 2 ^ 52) (-1074)
      else finite s (2 ^ 52 + r % 2 ^ 52) ((r / 2 ^ 52 : Nat) - 1075) := by
  have hs : ((if s then 1 else 0) * 2 ^ 63 + r) / 2 ^ 63 = if s then 1 else 0 := by
    cases s <;> simp only [Bool.false_eq_true, if_true, if_false] <;> omega
  have he : ((if s then 1 else 0) * 2 ^ 63 + r) / 2 ^ 52 % 2 ^ 11 = r / 2 ^ 52 := by
    cases s <;> simp only [Bool.false_eq_true, if_true, if_false] <;> omega
  have hf : ((if s then 1 else 0) * 2 ^ 63 + r) % 2 ^ 52 = r % 2 ^ 52 := by
    cases s <;> simp only [Bool.false_eq_true, if_true, if_false] <;> omega
  unfold ofBits
  simp only [hs, he, hf]
  cases s <;> rfl

theorem ofBits_bits {v : Exact} (h : v.Canonical) : ofBits v.bits = v := by
  cases v with
  | nan => rfl
  | infinite s => cases s <;> rfl
  | finite s m q =>
    show ofBits ((if s then 1 else 0) * 2 ^ 63 +
      (if m < 2 ^ 52 then m else (q + 1075).toNat * 2 ^ 52 + (m - 2 ^ 52))) = _
    obtain ⟨hm, rfl⟩ | ⟨hm, hm', hq, hq'⟩ := h
    · rw [if_pos hm, ofBits_add s (by omega), if_neg (by omega), if_pos (by omega),
        Nat.mod_eq_of_lt hm]
    · obtain ⟨k, hk⟩ : ∃ k : Nat, q = k - 1075 := ⟨(q + 1075).toNat, by omega⟩
      have hk' : (q + 1075).toNat = k := by omega
      obtain ⟨f, rfl⟩ : ∃ f, m = 2 ^ 52 + f := ⟨m - 2 ^ 52, by omega⟩
      have hd : (k * 2 ^ 52 + f) / 2 ^ 52 = k := by omega
      have hr : (k * 2 ^ 52 + f) % 2 ^ 52 = f := by omega
      rw [if_neg (show ¬2 ^ 52 + f < 2 ^ 52 by omega), hk', Nat.add_sub_cancel_left,
        ofBits_add s (by omega), hd, hr, if_neg (by omega), if_neg (by omega), hk]

end Exact

theorem log2_eq {m : Nat} (h : 2 ^ 52 ≤ m) (h' : m < 2 ^ 53) : m.log2 = 52 := by
  have := (Nat.le_log2 (by omega)).mpr h
  have := (Nat.log2_lt (by omega)).mpr h'
  omega

/-- Packing a finite value writes its biased exponent and its mantissa behind the sign. -/
theorem pack_finite {s : Sign} {m : Nat} {q : Int} (h : 0 < m) :
    UnpackedFloat.pack Format.binary64 (.finite s m q h) =
      if 2048 ≤ (q + 1023 + 52).toNat + 1 then packedInfinity Format.binary64 s
      else if m.log2 + 1 = 53 then
        packComponents Format.binary64 s (.ofNat 11 (q + 1023 + 52).toNat) (.ofNat 52 m)
      else packComponents Format.binary64 s 0#11 (.ofNat 52 m) := rfl

theorem toNat_pack {v : Exact} (h : v.Canonical) :
    (UnpackedFloat.pack Format.binary64 v.unpacked).toNat = v.bits := by
  cases v with
  | nan => rfl
  | infinite s => cases s <;> rfl
  | finite s m q =>
    by_cases h0 : m = 0
    · subst h0
      rw [Exact.unpacked, dif_pos rfl]
      obtain ⟨-, rfl⟩ | ⟨h, -⟩ := h
      · cases s <;> rfl
      · exact absurd h (by decide)
    · rw [Exact.unpacked_finite h0, pack_finite]
      obtain ⟨hm, rfl⟩ | ⟨hm, hm', hq, hq'⟩ := h
      · have hl : m.log2 < 52 := (Nat.log2_lt h0).mpr hm
        rw [if_neg (by decide), if_neg (by omega), toNat_packComponents, toNat_signOf]
        show _ = (if s then 1 else 0) * 2 ^ 63 + (if m < 2 ^ 52 then m else _)
        rw [if_pos hm, BitVec.toNat_ofNat]
        show _ + 0 * 2 ^ 52 + m % 2 ^ 52 = _
        omega
      · rw [if_neg (by omega), if_pos (by rw [log2_eq hm hm']), toNat_packComponents,
          toNat_signOf]
        show _ + (q + 1023 + 52).toNat % 2 ^ 11 * 2 ^ 52 + m % 2 ^ 52 =
          (if s then 1 else 0) * 2 ^ 63 +
            (if m < 2 ^ 52 then m else (q + 1075).toNat * 2 ^ 52 + (m - 2 ^ 52))
        rw [if_neg (show ¬m < 2 ^ 52 by omega)]
        omega

/-- A value in canonical form is that of its packed double. -/
theorem exact_pack {v : Exact} (h : v.Canonical) :
    exact (.ofModel (Float.Model.pack v.unpacked)) = v := by
  rw [exact_eq]
  show Exact.ofBits (UnpackedFloat.pack Format.binary64 v.unpacked).toNat = v
  rw [toNat_pack h, Exact.ofBits_bits h]

/-! ## Doubles and exact values -/

theorem bits_ofBits {b : BitVec 64} (h : Format.binary64.Valid b) :
    (Exact.ofBits b.toNat).bits = b.toNat := by
  have hb : b.toNat < 2 ^ 64 := b.isLt
  have hs : (if (b.toNat / 2 ^ 63 == 1) = true then 1 else 0) = b.toNat / 2 ^ 63 := by
    split
    · rename_i h1
      exact (beq_iff_eq.mp h1).symm
    · rename_i h1
      rw [beq_iff_eq] at h1
      omega
  unfold Exact.ofBits
  dsimp only
  split
  · rename_i he
    split
    · show (if (b.toNat / 2 ^ 63 == 1) = true then 1 else 0) * 2 ^ 63 + 2047 * 2 ^ 52 = _
      rw [hs]
      omega
    · rename_i hf
      have hE : unpackExponent (show BitVec Format.binary64.numBits from b) = -1#11 :=
        BitVec.toNat_inj.mp ((toNat_unpackExponent _).trans he)
      have hM : unpackMantissa (show BitVec Format.binary64.numBits from b) ≠ 0#52 := fun hz =>
        hf ((toNat_unpackMantissa _).symm.trans (congrArg BitVec.toNat hz))
      rw [h.eq_packedNaN hE hM]
      rfl
  · split
    · show (if (b.toNat / 2 ^ 63 == 1) = true then 1 else 0) * 2 ^ 63 +
        (if b.toNat % 2 ^ 52 < 2 ^ 52 then b.toNat % 2 ^ 52 else _) = _
      rw [hs, if_pos (Nat.mod_lt _ (by decide))]
      omega
    · show (if (b.toNat / 2 ^ 63 == 1) = true then 1 else 0) * 2 ^ 63 +
        (if 2 ^ 52 + b.toNat % 2 ^ 52 < 2 ^ 52 then _
          else ((b.toNat / 2 ^ 52 % 2 ^ 11 : Nat) - 1075 + 1075 : Int).toNat * 2 ^ 52 +
            (2 ^ 52 + b.toNat % 2 ^ 52 - 2 ^ 52)) = _
      rw [hs, if_neg (show ¬2 ^ 52 + b.toNat % 2 ^ 52 < 2 ^ 52 by omega)]
      omega

/-- Two doubles with the same exact value are equal. -/
theorem exact_injective {x y : Float} (h : exact x = exact y) : x = y := by
  obtain ⟨⟨bx, hx⟩⟩ := x
  obtain ⟨⟨by', hy⟩⟩ := y
  have h := congrArg Exact.bits h
  rw [exact_eq, exact_eq, bits_ofBits hx, bits_ofBits hy, BitVec.toNat_inj] at h
  obtain rfl := UInt64.toBitVec_inj.mp h
  rfl

/-- Packing what was unpacked gives the double back. -/
theorem ofModel_pack_exact (x : Float) : .ofModel (Float.Model.pack (exact x).unpacked) = x :=
  exact_injective (exact_pack (canonical_exact x))

theorem exact_negate (x : Float) : exact (negate x) = (exact x).neg := by
  show exact (.ofModel (Float.Model.pack x.toModel.unpack.neg)) = _
  rw [unpack_eq, ← Exact.unpacked_neg, exact_pack (canonical_exact x).neg]

theorem negate_negate (x : Float) : negate (negate x) = x := by
  refine exact_injective ?_
  rw [exact_negate, exact_negate, Exact.neg_neg]

end TokenFormula.Double
