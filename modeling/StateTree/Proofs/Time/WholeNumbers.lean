import Mathlib.Tactic.NormNum
import Mathlib.Tactic.Ring
import StateTree.Time.Snapshot

/-!
# `StateTree.Proofs.Time.WholeNumbers`: whole numbers as binary numbers

A binary number of 64 bits has a mantissa of 53 bits. A whole number below `2 ^ 53` is made one by
zeros at its end, and no bit that is not such a zero is lost on the way, neither when it is rounded
nor when its whole part is taken.

- `shiftToExponent_exact`: zeros are taken off a mantissa without loss.
- `roundWithAccuracy_exact`: so a mantissa of 53 bits with zeros behind it is not rounded.
- `unpack_pack`: a number with a mantissa of 53 bits is stored as it is.
- `unpack_ofNat`: the mantissa of a whole number.
- `wholePart_ofInt`: the whole part of a whole number.
-/

set_option autoImplicit false

namespace StateTree.Time

open Float.Model
open Float.Model.UnpackedFloat

variable {mantissa : Nat} {exponent : Int}

/-! ### Zeros at the end of a mantissa -/

/-- Zeros behind a number make it longer by as many bits. Zero itself gets no longer, which is why
it is excluded. -/
theorem log2_mul_two_pow (h : mantissa ≠ 0) (zeros : Nat) :
    (mantissa * 2 ^ zeros).log2 = mantissa.log2 + zeros := by
  rw [Nat.log2_eq_iff (Nat.mul_ne_zero h (Nat.two_pow_pos zeros).ne')]
  obtain ⟨hlow, hhigh⟩ := (Nat.log2_eq_iff h).1 rfl
  constructor
  · rw [Nat.pow_add]
    exact Nat.mul_le_mul_right _ hlow
  · rw [Nat.add_right_comm, Nat.pow_add]
    exact Nat.mul_lt_mul_of_pos_right hhigh (Nat.two_pow_pos zeros)

/-- Zeros are shifted out bit by bit, and nothing is left of them to round. The two flags are of
the bits that were shifted out. -/
theorem shiftRight_exact (mantissa zeros : Nat) :
    (⟨mantissa * 2 ^ zeros, false, false⟩ : ExtendedMantissa) >>> zeros =
      ⟨mantissa, false, false⟩ := by
  induction zeros generalizing mantissa with
  | zero =>
    rw [Nat.pow_zero, Nat.mul_one]
    rfl
  | succ zeros ih =>
    -- On the number of zeros: each step of the shift takes one away and loses nothing, as the
    -- last bit is a zero.
    have hstep : ∀ extended : ExtendedMantissa,
        extended >>> (zeros + 1) = (extended >>> zeros).shiftRightOne := fun _ => rfl
    have hsplit : mantissa * 2 ^ (zeros + 1) = 2 * mantissa * 2 ^ zeros := by ring
    rw [hstep, hsplit, ih]
    simp [ExtendedMantissa.shiftRightOne]

/-- Zeros at the end of a mantissa are as good as a greater exponent: shifting them out adds to
the exponent what it takes from the mantissa. -/
theorem shiftToExponent_exact (mantissa zeros : Nat) (exponent : Int) :
    shiftToExponent (mantissa * 2 ^ zeros) (exponent - zeros) .exact exponent =
      (⟨mantissa, false, false⟩, exponent) := by
  have hzeros : (exponent - (exponent - zeros)).toNat = zeros := by omega
  unfold shiftToExponent
  simp only [hzeros]
  exact Prod.ext (shiftRight_exact mantissa zeros) (by simp)

/-- A mantissa has 53 bits, of which the first is not stored. -/
theorem mantissaBits_binary64 : Format.binary64.mantissaBits = 53 :=
  rfl

/-- A mantissa of 53 bits keeps its exponent, however many zeros stand behind it. The bound
excludes numbers that are too small to have all their bits. -/
theorem targetExponent_eq (hmantissa : mantissa.log2 = 52) (hexponent : -1074 ≤ exponent)
    (zeros : Nat) :
    Format.binary64.targetExponent (totalExponent (mantissa * 2 ^ zeros) (exponent - zeros)) =
      exponent := by
  have hne : mantissa ≠ 0 := by
    rintro rfl
    simp at hmantissa
  simp only [Format.targetExponent, totalExponent, mantissaBits_binary64, Format.minExponent,
    log2_mul_two_pow hne, hmantissa]
  norm_num
  omega

/-- A mantissa of 53 bits with zeros behind it is not rounded. Nothing is lost where a whole
number is made a binary number. -/
theorem roundWithAccuracy_exact (hmantissa : mantissa.log2 = 52) (hexponent : -1074 ≤ exponent)
    (hpos : 0 < mantissa) (sign : Sign) (zeros : Nat) :
    roundWithAccuracy Format.binary64 sign (mantissa * 2 ^ zeros) (exponent - zeros) .exact =
      .finite sign mantissa exponent hpos := by
  have hshift : ∀ zeros : Nat,
      shiftToTargetExponent Format.binary64 (mantissa * 2 ^ zeros) (exponent - zeros) .exact =
        (⟨mantissa, false, false⟩, exponent) := by
    intro zeros
    rw [shiftToTargetExponent, targetExponent_eq hmantissa hexponent]
    exact shiftToExponent_exact mantissa zeros exponent
  -- The second shift is for a mantissa that rounding has made longer, which has not happened.
  have hagain := hshift 0
  rw [Nat.pow_zero, Nat.mul_one, Int.natCast_zero, Int.sub_zero] at hagain
  have hrounded : (ExtendedMantissa.mk mantissa false false).roundedMantissa = mantissa := rfl
  unfold roundWithAccuracy
  rw [hshift zeros]
  dsimp only
  rw [hrounded, hagain]
  dsimp only
  rw [dif_neg hpos.ne']

/-! ### Storing a number -/

/-- The sign is read back from the first bit, whatever is stored behind it. -/
theorem ofBitVec_unpackSign {format : Format} (sign : Sign) (exponentBits mantissaBits) :
    Sign.ofBitVec (unpackSign (packComponents format sign exponentBits mantissaBits)) = sign := by
  have hbit : unpackSign (packComponents format sign exponentBits mantissaBits) =
      sign.toBitVec := by
    ext i hi
    obtain rfl : i = 0 := by omega
    unfold unpackSign
    simp [packComponents, BitVec.getLsbD_append, BitVec.getElem_append]
  rw [hbit]
  cases sign <;> rfl

/-- A stored exponent that marks neither zero nor infinity is one of a number whose mantissa has a
first bit in front of those that are stored. -/
theorem exists_unpack_eq (bits : BitVec Format.binary64.numBits)
    (hgreatest : unpackExponent bits ≠ -1#11) (hleast : unpackExponent bits ≠ 0#11) :
    ∃ hpos, UnpackedFloat.unpack Format.binary64 bits =
      .finite (Sign.ofBitVec (unpackSign bits)) (1#1 ++ unpackMantissa bits).toNat
        ((unpackExponent bits).toNat - (Format.binary64.exponentBias + (52 : Nat) : Int)) hpos := by
  -- The first bit alone makes the mantissa positive.
  have hpos : 0 < (1#1 ++ unpackMantissa bits).toNat := by
    rw [BitVec.toNat_append]
    exact Nat.lt_of_lt_of_le (by decide) Nat.left_le_or
  refine ⟨hpos, ?_⟩
  unfold UnpackedFloat.unpack
  dsimp only
  rw [if_neg hgreatest, if_neg hleast]

/-- A number with a mantissa of 53 bits is stored as it is. The bounds are those of the exponents
that can be stored. -/
theorem unpack_pack (hmantissa : mantissa.log2 = 52) (hfirst : -1074 ≤ exponent)
    (hlast : exponent ≤ 971) (hpos : 0 < mantissa) (sign : Sign) :
    (Float.Model.pack (.finite sign mantissa exponent hpos)).unpack =
      .finite sign mantissa exponent hpos := by
  obtain ⟨hlow, hhigh⟩ := (Nat.log2_eq_iff hpos.ne').1 hmantissa
  -- What is stored of the exponent is neither the least nor the greatest number of its bits, which
  -- mark zero and infinity.
  obtain ⟨stored, rfl, hleast, hgreatest⟩ : ∃ stored : Nat,
      exponent = stored - 1075 ∧ 1 ≤ stored ∧ stored ≤ 2046 :=
    ⟨(exponent + 1075).toNat, by omega, by omega, by omega⟩
  -- It is stored as three pieces: the sign, the exponent and the other bits of the mantissa.
  have hpack : UnpackedFloat.pack Format.binary64 (.finite sign mantissa (stored - 1075) hpos) =
      packComponents Format.binary64 sign (BitVec.ofNat 11 stored) (BitVec.ofNat 52 mantissa) := by
    have hbiased : ((stored : Int) - 1075 + (Format.binary64.exponentBias : Nat) +
        (Format.binary64.mantissaBitsWithoutImplicit : Nat)).toNat = stored := by
      simp only [Format.exponentBias]
      norm_num
      omega
    unfold UnpackedFloat.pack
    dsimp only
    rw [hbiased, hmantissa, mantissaBits_binary64]
    rw [if_neg (by norm_num; omega), if_pos (by norm_num)]
  have hexponentBits : (BitVec.ofNat 11 stored).toNat = stored := by
    rw [BitVec.toNat_ofNat, Nat.mod_eq_of_lt (by omega)]
  have hmarks : ∀ mark : BitVec 11, mark.toNat ≠ stored → BitVec.ofNat 11 stored ≠ mark :=
    fun mark hmark heq => hmark (by rw [← heq, hexponentBits])
  -- The first bit of the mantissa is not stored, since it is known.
  have hmantissaBits : (1#1 ++ BitVec.ofNat 52 mantissa).toNat = mantissa := by
    have hrest : mantissa % 2 ^ 52 = mantissa - 2 ^ 52 := by omega
    rw [BitVec.toNat_append, BitVec.toNat_ofNat, BitVec.toNat_ofNat, hrest,
      ← Nat.shiftLeft_add_eq_or_of_lt (by omega)]
    simp
    omega
  show UnpackedFloat.unpack Format.binary64
    (UnpackedFloat.pack Format.binary64 (.finite sign mantissa (stored - 1075) hpos)) = _
  obtain ⟨_, hunpack⟩ := exists_unpack_eq
    (packComponents Format.binary64 sign (BitVec.ofNat 11 stored) (BitVec.ofNat 52 mantissa))
    (by rw [unpackExponent_packComponents]; exact hmarks _ (by simp; omega))
    (by rw [unpackExponent_packComponents]; exact hmarks _ (by simp; omega))
  rw [hpack, hunpack, UnpackedFloat.finite.injEq, unpackExponent_packComponents,
    unpackMantissa_packComponents, ofBitVec_unpackSign]
  refine ⟨rfl, hmantissaBits, ?_⟩
  rw [hexponentBits]
  simp only [Format.exponentBias]
  norm_num

/-! ### Whole numbers -/

/-- The mantissa of a whole number is the number with zeros behind it, as many as make it 53 bits
long. Zero has no first bit, and is excluded. -/
theorem unpack_ofNat {n : Nat} (hpos : 0 < n) (hn : n < 2 ^ 53) :
    ∃ (zeros : Nat) (hscaled : 0 < n * 2 ^ zeros), zeros ≤ 52 ∧ (n * 2 ^ zeros).log2 = 52 ∧
      (Float.ofNat n).toModel.unpack = .finite .positive (n * 2 ^ zeros) (-zeros) hscaled := by
  have hlog : n.log2 < 53 := (Nat.log2_lt hpos.ne').2 hn
  obtain ⟨zeros, hzeros⟩ : ∃ zeros, n.log2 + zeros = 52 := ⟨52 - n.log2, by omega⟩
  have hscaled : 0 < n * 2 ^ zeros := Nat.mul_pos hpos (Nat.two_pow_pos zeros)
  have hmantissa : (n * 2 ^ zeros).log2 = 52 := by rw [log2_mul_two_pow hpos.ne', hzeros]
  have hexact : ∀ behind : Nat, roundWithAccuracy Format.binary64 .positive
      (n * 2 ^ zeros * 2 ^ behind) (-zeros - behind) .exact =
        .finite .positive (n * 2 ^ zeros) (-zeros) hscaled :=
    roundWithAccuracy_exact hmantissa (by omega) hscaled .positive
  have hunpack : (Float.Model.pack (.finite .positive (n * 2 ^ zeros) (-zeros) hscaled)).unpack =
      .finite .positive (n * 2 ^ zeros) (-zeros) hscaled :=
    unpack_pack hmantissa (by omega) (by omega) hscaled .positive
  refine ⟨zeros, hscaled, by omega, hmantissa, ?_⟩
  -- Rounding to this exponent takes nothing off.
  have hround : UnpackedFloat.ofNat Format.binary64 n =
      roundWithAccuracy Format.binary64 .positive (n * 2 ^ zeros) (-zeros) .exact := by
    have hsign : compare (n : Int) 0 = .gt := by
      rw [Int.compare_eq_gt]
      omega
    have htarget : Format.binary64.targetExponent (totalExponent n 0) = -zeros := by
      simp only [Format.targetExponent, totalExponent, mantissaBits_binary64, Format.minExponent]
      norm_num
      omega
    have hshift : ((0 : Int) - -(zeros : Int)).toNat = zeros := by omega
    simp only [UnpackedFloat.ofNat, UnpackedFloat.ofInt, UnpackedFloat.normalize, hsign,
      UnpackedFloat.round, Int.toNat_natCast, htarget, decreaseExponent, hshift, Nat.shiftLeft_eq]
    rw [Int.zero_sub]
  have hbare := hexact 0
  rw [Nat.pow_zero, Nat.mul_one, Int.natCast_zero, Int.sub_zero] at hbare
  -- The number is converted as a word, and then taken times one.
  have hone : (Float.Model.ofBits 0x3FF0000000000000).unpack =
      .finite .positive (2 ^ 52) (-52) (by decide) := rfl
  have hfloat : Float.ofNat n = .ofModel (.pack (UnpackedFloat.mul Format.binary64
      (Float.Model.pack (UnpackedFloat.ofNat Format.binary64 n)).unpack
      (Float.Model.ofBits 0x3FF0000000000000).unpack)) := by
    have hword : n.toUInt64.toNat = n := by
      rw [Nat.toUInt64, UInt64.toNat_ofNat', Nat.mod_eq_of_lt (by omega)]
    show Float.ofScientific n false 0 = _
    rw [Float.ofScientific, dif_pos ⟨hn, by decide⟩]
    show Float.ofModel (.pack (UnpackedFloat.mul Format.binary64
      (Float.Model.pack (UnpackedFloat.ofNat Format.binary64 n.toUInt64.toNat)).unpack
      (Float.Model.ofBits 0x3FF0000000000000).unpack)) = _
    rw [hword]
  rw [hfloat, hround, hbare, hunpack, hone]
  show (Float.Model.pack (roundWithAccuracy Format.binary64 .positive
    (n * 2 ^ zeros * 2 ^ 52) (-zeros - (52 : Nat)) .exact)).unpack = _
  rw [hexact, hunpack]

/-- The whole part of a number whose mantissa is a whole number with zeros behind it. The zeros
are what the exponent takes off again. -/
theorem wholePart_of_unpack {x : Float} {sign : Sign} {n zeros : Nat}
    {hscaled : 0 < n * 2 ^ zeros} (hn : n < 2 ^ 53)
    (h : x.toModel.unpack = .finite sign (n * 2 ^ zeros) (-zeros) hscaled) :
    wholePart x = sign.apply n := by
  have hdecrease : decreaseExponent (n * 2 ^ zeros) (-zeros) 0 =
      (n * 2 ^ zeros, -(zeros : Int)) := by
    simp [decreaseExponent]
  have hshift := shiftToExponent_exact n zeros 0
  rw [Int.zero_sub] at hshift
  -- The exponent only takes back the zeros that were put behind the number, so nothing is
  -- rounded.
  have hwhole : roundToInt sign (n * 2 ^ zeros) (-zeros) = sign.apply n := by
    simp only [roundToInt, hdecrease, hshift]
  have hbound : (sign.apply n).natAbs < 2 ^ 53 := by
    cases sign with
    | negative => simpa [Sign.apply] using hn
    | positive => simpa [Sign.apply] using hn
  have hleast : Int64.minValue.toInt = -2 ^ 63 := by decide
  have hgreatest : Int64.maxValue.toInt = 2 ^ 63 - 1 := by decide
  show (Int64.ofIntClamp (UnpackedFloat.toInt _ _ x.toModel.unpack)).toInt = _
  rw [h]
  show (Int64.ofIntClamp (roundToInt sign (n * 2 ^ zeros) (-zeros))).toInt = _
  rw [hwhole, Int64.ofIntClamp, dif_pos (by omega), dif_pos (by omega), Int64.toInt_ofIntLE]

/-- A whole number of up to 53 bits is finite as a binary number and has itself as its whole part.
It is what `Instant.wholePart_millis` needs. -/
theorem wholePart_ofInt {n : Int} (h : n.natAbs < 2 ^ 53) :
    (Float.ofInt n).isFinite = true ∧ wholePart (Float.ofInt n) = n := by
  have hfinite : ∀ {x : Float} {sign mantissa exponent hpos},
      x.toModel.unpack = .finite sign mantissa exponent hpos → x.isFinite = true := by
    intro x sign mantissa exponent hpos hx
    show UnpackedFloat.isFinite x.toModel.unpack = true
    rw [hx]
    rfl
  -- A negative number is made from a positive one, so its sign is put to what is known of that
  -- one.
  cases n with
  | ofNat n =>
    rcases Nat.eq_zero_or_pos n with rfl | hpos
    · decide
    · obtain ⟨zeros, hscaled, -, -, hunpack⟩ := unpack_ofNat hpos h
      have hunpack : (Float.ofInt (.ofNat n)).toModel.unpack =
          .finite .positive (n * 2 ^ zeros) (-zeros) hscaled := hunpack
      exact ⟨hfinite hunpack, wholePart_of_unpack h hunpack⟩
  | negSucc n =>
    obtain ⟨zeros, hscaled, hzeros, hmantissa, hunpack⟩ := unpack_ofNat n.succ_pos h
    have hnegated : (Float.ofInt (.negSucc n)).toModel.unpack =
        .finite .negative ((n + 1) * 2 ^ zeros) (-zeros) hscaled := by
      show (Float.Model.pack (UnpackedFloat.neg (Float.ofNat (n + 1)).toModel.unpack)).unpack = _
      rw [hunpack]
      exact unpack_pack hmantissa (by omega) (by omega) hscaled .negative
    exact ⟨hfinite hnegated, wholePart_of_unpack h hnegated⟩

end StateTree.Time
