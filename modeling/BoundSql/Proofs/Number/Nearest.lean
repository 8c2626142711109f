import Mathlib.Algebra.Group.Nat.Defs
import BoundSql.Number.Decimal

/-!
# The nearest floating-point number to a large integer

A floating-point number has 53 bits for its significand, so an integer of 64 bits whose highest bit is
set loses eleven of them: it becomes the nearest multiple of 2048, and half-way the one with the even
factor.

Main statements: `floatOfInt_eq_iff` and `floatOfInt_beq_iff`: two such integers become the same number,
or numbers that compare as equal, exactly if they have the same nearest multiple. They rest on
`ofNat_of_large`, which follows the conversion, on `unpack_floatOfInt`, by which nothing is lost in the
64 bits, and on `compare_multiple`.
-/

namespace BoundSql.Number

open Float.Model Float.Model.UnpackedFloat

/-- The factor of the multiple of 2048 nearest to an integer, even if two are equally near. -/
def nearestFactor (n : Nat) : Nat :=
  match compare (n % 2048) 1024 with
  | .lt => n / 2048
  | .eq => n / 2048 + n / 2048 % 2
  | .gt => n / 2048 + 1

/-- Adding almost one half makes rounding down round to the nearest; with an odd factor below, one half
rounds up. -/
theorem nearestFactor_eq (n : Nat) : nearestFactor n = (n + 1023 + n / 2048 % 2) / 2048 := by
  unfold nearestFactor
  split
  · rename_i hlt
    rw [Nat.compare_eq_lt] at hlt
    omega
  · rename_i heq
    rw [Nat.compare_eq_eq] at heq
    omega
  · rename_i hgt
    rw [Nat.compare_eq_gt] at hgt
    omega

/-- The factor of a large integer has 53 bits, or it is the least number with 54. -/
theorem nearestFactor_bounds {n : Nat} (hlow : 0x8000000000000000 ≤ n)
    (hhigh : n < 0x10000000000000000) :
    2 ^ 52 ≤ nearestFactor n ∧ nearestFactor n ≤ 2 ^ 53 := by
  rw [nearestFactor_eq]
  omega

/-- The greatest integer of 64 bits is rounded up. -/
example : nearestFactor 0xffffffffffffffff = 0x20000000000000 := by decide

/-- Every large integer has a neighbour with the same nearest multiple. -/
theorem exists_ne_nearestFactor_eq {n : Nat} (hlow : 0x8000000000000000 ≤ n)
    (hhigh : n < 0x10000000000000000) :
    ∃ m, m ≠ n ∧ 0x8000000000000000 ≤ m ∧ m < 0x10000000000000000 ∧
      nearestFactor m = nearestFactor n := by
  have hneighbour :
      (n + 1 < 0x10000000000000000 ∧ nearestFactor (n + 1) = nearestFactor n) ∨
        (0x8000000000000000 ≤ n - 1 ∧ nearestFactor (n - 1) = nearestFactor n) := by
    simp only [nearestFactor_eq]
    omega
  -- The neighbour above has the same multiple, or the one below has.
  rcases hneighbour with ⟨hnext, hsame⟩ | ⟨hprevious, hsame⟩
  · exact ⟨n + 1, by omega, by omega, hnext, hsame⟩
  · exact ⟨n - 1, by omega, hprevious, by omega, hsame⟩

/-! ## Rounding -/

/-- After shifts, the bits that went out last and before are known from the remainder. -/
theorem shiftRight_exact (n k : Nat) :
    ExtendedMantissa.mk n false false >>> (k + 1) =
      ⟨n / 2 ^ (k + 1), n / 2 ^ k % 2 != 0, n % 2 ^ k != 0⟩ := by
  -- One more shift moves the last bit out, and the one before joins the remainder.
  induction k with
  | zero =>
    show ExtendedMantissa.shiftRightOne ⟨n, false, false⟩ = _
    simp [ExtendedMantissa.shiftRightOne, Nat.mod_one]
  | succ k ih =>
    show ExtendedMantissa.shiftRightOne (ExtendedMantissa.mk n false false >>> (k + 1)) = _
    have hhalf : n / 2 ^ (k + 1) / 2 = n / 2 ^ (k + 1 + 1) := by
      rw [Nat.div_div_eq_div_mul, ← Nat.pow_succ]
    have hsplit : n % 2 ^ (k + 1) = n % 2 ^ k + 2 ^ k * (n / 2 ^ k % 2) := Nat.mod_pow_succ
    rw [ih, ExtendedMantissa.shiftRightOne, hhalf, hsplit]
    rcases Nat.mod_two_eq_zero_or_one (n / 2 ^ k) with hbit | hbit <;> simp [hbit]

/-- Rounding after eleven shifts gives the factor of the nearest multiple. -/
theorem roundedMantissa_shiftRight (n : Nat) :
    (ExtendedMantissa.mk n false false >>> 11).roundedMantissa = nearestFactor n := by
  have hbit : n / 2 ^ 10 % 2 = n % 2048 / 1024 := by omega
  have hrest : n % 2 ^ 10 = n % 2048 % 1024 := by omega
  rw [shiftRight_exact n 10, hbit, hrest, nearestFactor]
  have hmod : n % 2048 < 2048 := Nat.mod_lt _ (by decide)
  rcases Nat.lt_trichotomy (n % 2048) 1024 with hlt | heq | hgt
  · -- below the middle: the last bit is not set, so the factor stays
    have hround : n % 2048 / 1024 = 0 := by omega
    have hsticky : n % 2048 % 1024 = n % 2048 := by omega
    rw [Nat.compare_eq_lt.2 hlt, hround, hsticky]
    cases n % 2048 <;> rfl
  · -- in the middle: the factor is rounded to an even one
    rw [heq]
    rfl
  · -- above the middle: the last bit is set, and so is one below it
    have hround : n % 2048 / 1024 = 1 := by omega
    have hsticky : n % 2048 % 1024 ≠ 0 := by omega
    rw [Nat.compare_eq_gt.2 hgt, hround, bne_iff_ne.2 hsticky]
    rfl

/-- A multiple of 2048 with a factor of 53 bits, or the one after all of these. -/
def multiple (factor : Nat) (h : 0 < factor) : UnpackedFloat :=
  if factor < 2 ^ 53 then .finite .positive factor 11 h
  else .finite .positive (2 ^ 52) 12 (by decide)

theorem multiple_of_lt {factor : Nat} (hfits : factor < 2 ^ 53) (hpos : 0 < factor) :
    multiple factor hpos = .finite .positive factor 11 hpos :=
  if_pos hfits

theorem multiple_of_le {factor : Nat} (hlong : 2 ^ 53 ≤ factor) (hpos : 0 < factor) :
    multiple factor hpos = .finite .positive (2 ^ 52) 12 (by decide) :=
  if_neg (Nat.not_lt_of_le hlong)

/-- A significand is to end 52 bits below its highest one, unless that is too small for a normal
number. -/
theorem targetExponent_of_log2 {n bits : Nat} (hlog : n.log2 = bits) {e : Int}
    (hnormal : -1074 ≤ (bits : Int) + e - 52) :
    Format.binary64.targetExponent (totalExponent n e) = bits + e - 52 := by
  have hmantissa : (Format.binary64.mantissaBits : Int) = 53 := by decide
  have hleast : Format.binary64.minExponent = -1074 := by decide
  rw [Format.targetExponent, totalExponent, hlog, hmantissa, hleast]
  omega

/-- A significand that is long enough loses the bits beyond the first 53. -/
theorem shiftToTargetExponent_of_log2 {n shift : Nat} (hlog : n.log2 = shift + 52) {e : Int}
    (he : 0 ≤ e) :
    shiftToTargetExponent .binary64 n e .exact =
      (ExtendedMantissa.mk n false false >>> shift, e + shift) := by
  have htarget := targetExponent_of_log2 hlog (e := e) (by omega)
  have hamount : (((shift + 52 : Nat) : Int) + e - 52 - e).toNat = shift := by omega
  rw [shiftToTargetExponent, htarget, shiftToExponent, hamount]
  rfl

/-- A rounded significand of 54 bits is `2 ^ 53`, which needs one more shift. -/
theorem shiftToTargetExponent_factor {factor : Nat} (hleast : 2 ^ 52 ≤ factor)
    (hmost : factor ≤ 2 ^ 53) :
    shiftToTargetExponent .binary64 factor 11 .exact =
      if factor < 2 ^ 53 then (⟨factor, false, false⟩, 11) else (⟨2 ^ 52, false, false⟩, 12) := by
  split
  · rename_i hfits
    have hlog : factor.log2 = 0 + 52 := (Nat.log2_eq_iff (by omega)).2 ⟨hleast, hfits⟩
    exact shiftToTargetExponent_of_log2 hlog (by decide)
  · obtain rfl : factor = 2 ^ 53 := by omega
    have hlog : (2 ^ 53).log2 = 1 + 52 := Nat.log2_two_pow
    exact shiftToTargetExponent_of_log2 hlog (by decide)

/-- Rounding an integer whose highest bit is the one for `2 ^ 63` gives its nearest multiple. -/
theorem roundWithAccuracy_of_large {n : Nat} (hlow : 0x8000000000000000 ≤ n)
    (hhigh : n < 0x10000000000000000) (hpos : 0 < nearestFactor n) :
    roundWithAccuracy .binary64 .positive n 0 .exact = multiple (nearestFactor n) hpos := by
  have hlog : n.log2 = 11 + 52 := (Nat.log2_eq_iff (by omega)).2 ⟨hlow, hhigh⟩
  have hshift : shiftToTargetExponent .binary64 n 0 .exact =
      (ExtendedMantissa.mk n false false >>> 11, 11) :=
    shiftToTargetExponent_of_log2 hlog (by decide)
  obtain ⟨hleast, hmost⟩ := nearestFactor_bounds hlow hhigh
  -- Eleven bits go out, and one more if rounding up has made the significand too long.
  unfold roundWithAccuracy
  rw [hshift]
  dsimp only
  rw [roundedMantissa_shiftRight, shiftToTargetExponent_factor hleast hmost]
  rcases Nat.lt_or_ge (nearestFactor n) (2 ^ 53) with hfits | hlong
  · rw [if_pos hfits, multiple_of_lt hfits]
    exact dif_neg (Nat.ne_of_gt hpos)
  · rw [if_neg (Nat.not_lt_of_le hlong), multiple_of_le hlong]
    rfl

/-- Such an integer becomes its nearest multiple. -/
theorem ofNat_of_large {n : Nat} (hlow : 0x8000000000000000 ≤ n)
    (hhigh : n < 0x10000000000000000) (hpos : 0 < nearestFactor n) :
    UnpackedFloat.ofNat .binary64 n = multiple (nearestFactor n) hpos := by
  have hlog : n.log2 = 11 + 52 := (Nat.log2_eq_iff (by omega)).2 ⟨hlow, hhigh⟩
  have hcompare : compare (n : Int) 0 = .gt := by
    rw [Int.compare_eq_gt]
    omega
  have htarget : Format.binary64.targetExponent (totalExponent n 0) = 11 :=
    targetExponent_of_log2 hlog (by decide)
  have hdecrease : decreaseExponent n 0 11 = (n, 0) := by simp [decreaseExponent]
  rw [UnpackedFloat.ofNat, UnpackedFloat.ofInt, UnpackedFloat.normalize, hcompare]
  dsimp only
  rw [Int.toNat_natCast, UnpackedFloat.round, htarget, hdecrease]
  exact roundWithAccuracy_of_large hlow hhigh hpos

/-! ## Sixty-four bits -/

theorem toNat_packComponents (exponent : BitVec 11) (mantissa : BitVec 52) :
    (packComponents .binary64 .positive exponent mantissa).toNat =
      exponent.toNat * 2 ^ 52 + mantissa.toNat := by
  have hsign : Sign.positive.toBitVec.toNat = 0 := rfl
  rw [packComponents, BitVec.toNat_append, BitVec.toNat_append, hsign,
    ← Nat.shiftLeft_add_eq_or_of_lt mantissa.isLt, Nat.zero_shiftLeft, Nat.zero_or, Nat.shiftLeft_eq]

/-- A number with all of its 53 bits in use, as 64 bits. The highest of the 53 is not stored. -/
theorem pack_finite {significand : Nat} (biased : Nat) (hpos : 0 < significand)
    (hleast : 2 ^ 52 ≤ significand) (hmost : significand < 2 ^ 53) (hhigh : biased < 2046) :
    UnpackedFloat.pack .binary64 (.finite .positive significand (biased - 1074) hpos) =
      packComponents .binary64 .positive (BitVec.ofNat 11 (biased + 1))
        (BitVec.ofNat 52 significand) := by
  have hlog : significand.log2 = 52 := (Nat.log2_eq_iff (by omega)).2 ⟨hleast, hmost⟩
  have hbias : (Format.binary64.exponentBias : Int) = 1023 := by decide
  have hbiased :
      ((biased : Int) - 1074 + Format.binary64.exponentBias + (52 : Nat)).toNat = biased + 1 := by
    rw [hbias]
    omega
  unfold UnpackedFloat.pack
  simp only [hlog, hbiased]
  rw [if_neg (by omega), if_pos (by decide)]

/-- The sign bit of a positive number is not set. -/
theorem unpackSign_packComponents_positive (exponent : BitVec 11) (mantissa : BitVec 52) :
    unpackSign (packComponents .binary64 .positive exponent mantissa) = 0#1 := by
  have hbound : (packComponents .binary64 .positive exponent mantissa).toNat < 2 ^ 63 := by
    rw [toNat_packComponents]
    omega
  apply BitVec.eq_of_toNat_eq
  unfold unpackSign
  rw [BitVec.toNat_cast, BitVec.extractLsb_toNat, Nat.shiftRight_eq_div_pow]
  show (packComponents .binary64 .positive exponent mantissa).toNat / 2 ^ 63 % 2 = 0
  rw [Nat.div_eq_of_lt hbound]

/-- Such a number is read back from its 64 bits. -/
theorem unpack_pack_finite {significand : Nat} (biased : Nat) (hpos : 0 < significand)
    (hleast : 2 ^ 52 ≤ significand) (hmost : significand < 2 ^ 53) (hhigh : biased < 2046) :
    UnpackedFloat.unpack .binary64
        (UnpackedFloat.pack .binary64 (.finite .positive significand (biased - 1074) hpos)) =
      .finite .positive significand (biased - 1074) hpos := by
  have hexponent : (BitVec.ofNat 11 (biased + 1)).toNat = biased + 1 := by
    rw [BitVec.toNat_ofNat]
    omega
  have hspecial : BitVec.ofNat 11 (biased + 1) ≠ -1#11 := by
    intro h
    have hsame := congrArg BitVec.toNat h
    have hones : (-1#11).toNat = 2047 := by decide
    omega
  have hsmall : BitVec.ofNat 11 (biased + 1) ≠ 0#11 := by
    intro h
    have hsame := congrArg BitVec.toNat h
    have hzero : (0#11).toNat = 0 := by decide
    omega
  -- The bit in front of the 52 that are stored is the highest of the significand.
  have hsignificand : (1#1 ++ BitVec.ofNat 52 significand).toNat = significand := by
    have hone : (1#1).toNat = 1 := by decide
    rw [BitVec.toNat_append, hone, ← Nat.shiftLeft_add_eq_or_of_lt (BitVec.isLt _),
      BitVec.toNat_ofNat, Nat.shiftLeft_eq]
    omega
  have hbias : (Format.binary64.exponentBias : Int) = 1023 := by decide
  rw [pack_finite biased hpos hleast hmost hhigh]
  -- The parts are named before they are replaced, as the number holds a proof about one of them.
  generalize hpacked : packComponents .binary64 .positive (BitVec.ofNat 11 (biased + 1))
    (BitVec.ofNat 52 significand) = packed
  have hsign : unpackSign packed = 0#1 := hpacked ▸ unpackSign_packComponents_positive _ _
  have hfront : unpackExponent packed = BitVec.ofNat 11 (biased + 1) :=
    hpacked ▸ unpackExponent_packComponents
  have hback : unpackMantissa packed = BitVec.ofNat 52 significand :=
    hpacked ▸ unpackMantissa_packComponents
  have hnormal : ¬ unpackExponent packed = -1#11 ∧ ¬ unpackExponent packed = 0#11 := by
    rw [hfront]
    exact ⟨hspecial, hsmall⟩
  unfold UnpackedFloat.unpack
  dsimp only
  rw [if_neg hnormal.1, if_neg hnormal.2, UnpackedFloat.finite.injEq, hsign, hback, hfront,
    hexponent, hbias]
  exact ⟨rfl, hsignificand, by omega⟩

/-- Multiples are numbers of this form. -/
theorem unpack_pack_multiple {factor : Nat} (hleast : 2 ^ 52 ≤ factor) (hpos : 0 < factor) :
    UnpackedFloat.unpack .binary64 (UnpackedFloat.pack .binary64 (multiple factor hpos)) =
      multiple factor hpos := by
  rcases Nat.lt_or_ge factor (2 ^ 53) with hfits | hlong
  · rw [multiple_of_lt hfits]
    exact unpack_pack_finite 1085 hpos hleast hfits (by decide)
  · rw [multiple_of_le hlong]
    exact unpack_pack_finite 1086 (by decide) (by decide) (by decide) (by decide)

/-! ## Equal numbers -/

variable {m n : Nat}

/-- The nearest number to a large integer. -/
theorem floatOfInt_of_large (hlow : 0x8000000000000000 ≤ n) (hhigh : n < 0x10000000000000000)
    (hpos : 0 < nearestFactor n) :
    floatOfInt n = .ofModel (.pack (multiple (nearestFactor n) hpos)) := by
  have hword : n.toUInt64.toNat = n := Nat.mod_eq_of_lt hhigh
  rw [floatOfInt, if_neg (by omega), Int.natAbs_natCast, UInt64.toFloat, Float.Model.ofUInt64,
    UnpackedFloat.ofUInt64, hword, ofNat_of_large hlow hhigh hpos]

/-- The number for a large integer is read back as its nearest multiple. -/
theorem unpack_floatOfInt (hlow : 0x8000000000000000 ≤ n) (hhigh : n < 0x10000000000000000)
    (hpos : 0 < nearestFactor n) :
    (floatOfInt n).toModel.unpack = multiple (nearestFactor n) hpos := by
  obtain ⟨hleast, -⟩ := nearestFactor_bounds hlow hhigh
  rw [floatOfInt_of_large hlow hhigh hpos]
  exact unpack_pack_multiple hleast hpos

/-- Multiples compare as their factors do: the exponent of the greatest is greater than that of all
others. -/
theorem compare_multiple {factor other : Nat} (hmost : factor ≤ 2 ^ 53) (hother : other ≤ 2 ^ 53)
    (hpos : 0 < factor) (hopos : 0 < other) :
    (multiple factor hpos).compare (multiple other hopos) = some (compare factor other) := by
  rcases Nat.lt_or_ge factor (2 ^ 53) with hfits | hlong <;>
    rcases Nat.lt_or_ge other (2 ^ 53) with hofits | holong
  · rw [multiple_of_lt hfits, multiple_of_lt hofits]
    rfl
  · rw [multiple_of_lt hfits, multiple_of_le holong, Nat.compare_eq_lt.2 (by omega)]
    rfl
  · rw [multiple_of_le hlong, multiple_of_lt hofits, Nat.compare_eq_gt.2 (by omega)]
    rfl
  · rw [multiple_of_le hlong, multiple_of_le holong, Nat.compare_eq_eq.2 (by omega)]
    rfl

/-- Two large integers become numbers that compare as equal exactly if they are nearest to the
same multiple. -/
theorem floatOfInt_beq_iff (hlowM : 0x8000000000000000 ≤ m) (hhighM : m < 0x10000000000000000)
    (hlowN : 0x8000000000000000 ≤ n) (hhighN : n < 0x10000000000000000) :
    (floatOfInt m == floatOfInt n) = true ↔ nearestFactor m = nearestFactor n := by
  obtain ⟨hleastM, hmostM⟩ := nearestFactor_bounds hlowM hhighM
  obtain ⟨hleastN, hmostN⟩ := nearestFactor_bounds hlowN hhighN
  have hposM : 0 < nearestFactor m := by omega
  have hposN : 0 < nearestFactor n := by omega
  show ((floatOfInt m).toModel.unpack.compare (floatOfInt n).toModel.unpack == some .eq) = true ↔ _
  rw [unpack_floatOfInt hlowM hhighM hposM, unpack_floatOfInt hlowN hhighN hposN,
    compare_multiple hmostM hmostN, beq_iff_eq, Option.some.injEq, Nat.compare_eq_eq]

/-- Two large integers become one number exactly if they are nearest to the same multiple. -/
theorem floatOfInt_eq_iff (hlowM : 0x8000000000000000 ≤ m) (hhighM : m < 0x10000000000000000)
    (hlowN : 0x8000000000000000 ≤ n) (hhighN : n < 0x10000000000000000) :
    floatOfInt m = floatOfInt n ↔ nearestFactor m = nearestFactor n := by
  constructor
  · intro h
    -- A number compares as equal with itself, as it is no NaN.
    rw [← floatOfInt_beq_iff hlowM hhighM hlowN hhighN, ← h,
      floatOfInt_beq_iff hlowM hhighM hlowM hhighM]
  · intro h
    obtain ⟨hleast, -⟩ := nearestFactor_bounds hlowM hhighM
    rw [floatOfInt_of_large hlowM hhighM (by omega), floatOfInt_of_large hlowN hhighN (by omega)]
    simp only [h]

end BoundSql.Number
