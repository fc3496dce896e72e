import Mathlib.Data.Nat.Log
import PageStudio.Decimal.Places
import PageStudio.Decimal.Reading
import PageStudio.Proofs.Text.Piece

/-!
# Whole numbers in floating point

A natural number of at most 53 bits is a floating-point number without rounding, and sums, products
and quotients of such numbers that are such numbers are exact. So the text that is written for one
is its digits.

Rounding moves the mantissa to 53 bits. It is exact where the bits that are moved out are zero, and
that is the only case here.

## Main statements

* `roundWithAccuracy_shiftLeft`: rounding of a whole number in any scale.
* `ofNat_add`, `ofNat_mul`, `ofNat_mul_div`: exact arithmetic.
* `brief_ofNat`: the text of a whole number.
-/

namespace PageStudio.Decimal

open Float.Model (Format totalExponent UnpackedFloat)
open Float.Model.UnpackedFloat

/-! ## Shifts -/

theorem log2_shiftLeft {n : Nat} (positive : n ≠ 0) (k : Nat) : (n <<< k).log2 = n.log2 + k := by
  induction k with
  | zero => rfl
  | succ k ih =>
    have shifted : n <<< k ≠ 0 := fun zero => positive (Nat.shiftLeft_eq_zero_iff.mp zero)
    rw [Nat.shiftLeft_succ, Nat.log2_two_mul shifted, ih, Nat.add_assoc]

/-- Zeros that are moved out leave no trace. -/
theorem shiftRight_shiftLeft (m k : Nat) :
    ExtendedMantissa.ofMantissaAndAccuracy (m <<< k) .exact >>> k =
      ExtendedMantissa.ofMantissaAndAccuracy m .exact := by
  induction k generalizing m with
  | zero => rfl
  | succ k ih =>
    show ExtendedMantissa.shiftRightOne
      (ExtendedMantissa.ofMantissaAndAccuracy ((2 * m) <<< k) .exact >>> k) = _
    rw [ih]
    show (⟨2 * m / 2, 2 * m % 2 != 0, false⟩ : ExtendedMantissa) = ⟨m, false, false⟩
    rw [Nat.mul_div_cancel_left m (by decide), Nat.mul_mod_right]
    rfl

/-! ## Rounding -/

variable {n a b : Nat}

/-- The exponent of a whole number of at most 53 bits, in whichever scale it is given. -/
theorem targetExponent_shiftLeft (positive : 0 < n) (k : Nat) :
    Format.binary64.targetExponent (totalExponent (n <<< k) (-k)) = (n.log2 : Int) - 52 := by
  rw [totalExponent, log2_shiftLeft positive.ne']
  show max ((n.log2 + k : Nat) + 1 + -(k : Int) - (1 + 52 : Nat)) (-1074) = _
  omega

/-- The mantissa of 53 bits and the exponent of a whole number. -/
def parts (n : Nat) (positive : 0 < n) : UnpackedFloat :=
  .finite .positive (n <<< (52 - n.log2)) ((n.log2 : Int) - 52)
    (Nat.shiftLeft_pos_iff.mpr positive)

/-- A mantissa in its own scale is moved by nothing. -/
theorem shiftToTargetExponent_parts (positive : 0 < n) (small : n.log2 ≤ 52) :
    shiftToTargetExponent Format.binary64 (n <<< (52 - n.log2)) ((n.log2 : Int) - 52) .exact =
      (.ofMantissaAndAccuracy (n <<< (52 - n.log2)) .exact, (n.log2 : Int) - 52) := by
  have scale : (n.log2 : Int) - 52 = -((52 - n.log2 : Nat) : Int) := by omega
  rw [shiftToTargetExponent, scale, targetExponent_shiftLeft positive, shiftToExponent, scale,
    Int.sub_self]
  exact congrArg (_, ·) (Int.add_zero _)

/-- A whole number in a scale with enough room is rounded to itself. -/
theorem roundWithAccuracy_shiftLeft (positive : 0 < n) (small : n.log2 ≤ 52) {k : Nat}
    (room : 52 ≤ n.log2 + k) :
    roundWithAccuracy Format.binary64 .positive (n <<< k) (-k) .exact = parts n positive := by
  obtain ⟨s, rfl⟩ : ∃ s, k = 52 - n.log2 + s := ⟨n.log2 + k - 52, by omega⟩
  have moved : shiftToTargetExponent Format.binary64 (n <<< (52 - n.log2 + s))
      (-(52 - n.log2 + s : Nat)) .exact =
        (.ofMantissaAndAccuracy (n <<< (52 - n.log2)) .exact, (n.log2 : Int) - 52) := by
    have amount : ((n.log2 : Int) - 52 - -((52 - n.log2 + s : Nat) : Int)).toNat = s := by omega
    rw [shiftToTargetExponent, targetExponent_shiftLeft positive, shiftToExponent, amount,
      Nat.shiftLeft_add, shiftRight_shiftLeft]
    congr 1
    omega
  have one : ∀ m, (ExtendedMantissa.ofMantissaAndAccuracy m .exact).roundedMantissa = m :=
    fun _ => rfl
  rw [roundWithAccuracy, moved]
  dsimp only
  rw [one, shiftToTargetExponent_parts positive small]
  exact dif_neg (Nat.shiftLeft_pos_iff.mpr positive).ne'

/-- So is a whole number in any scale. -/
theorem round_shiftLeft (positive : 0 < n) (small : n.log2 ≤ 52) (k : Nat) :
    UnpackedFloat.round Format.binary64 .positive (n <<< k) (-k) = parts n positive := by
  have amount : (-(k : Int) - ((n.log2 : Int) - 52)).toNat = 52 - n.log2 - k := by omega
  have room : 52 ≤ n.log2 + (k + (52 - n.log2 - k)) := by omega
  have scale : -(k : Int) - (52 - n.log2 - k : Nat) = -(k + (52 - n.log2 - k) : Nat) := by omega
  rw [UnpackedFloat.round, targetExponent_shiftLeft positive, decreaseExponent, amount,
    ← Nat.shiftLeft_add, scale]
  exact roundWithAccuracy_shiftLeft positive small room

/-! ## Packing -/

/-- A mantissa has 53 bits. -/
theorem log2_mantissa (positive : 0 < n) (small : n.log2 ≤ 52) :
    (n <<< (52 - n.log2)).log2 = 52 := by
  rw [log2_shiftLeft positive.ne']
  omega

theorem mantissa_bounds (positive : 0 < n) (small : n.log2 ≤ 52) :
    leadingOne ≤ n <<< (52 - n.log2) ∧ n <<< (52 - n.log2) < 2 * leadingOne :=
  (Nat.log2_eq_iff (Nat.shiftLeft_pos_iff.mpr positive).ne').mp (log2_mantissa positive small)

theorem pack_parts (positive : 0 < n) (small : n.log2 ≤ 52) :
    pack Format.binary64 (parts n positive) =
      packComponents Format.binary64 .positive (BitVec.ofNat 11 (n.log2 + 1023))
        (BitVec.ofNat 52 (n <<< (52 - n.log2))) := by
  have biased : ((n.log2 : Int) - 52 + Format.binary64.exponentBias +
      Format.binary64.mantissaBitsWithoutImplicit).toNat = n.log2 + 1023 := by
    show ((n.log2 : Int) - 52 + (1023 : Nat) + (52 : Nat)).toNat = _
    omega
  have finite : ¬ 2 ^ Format.binary64.exponentBits ≤ ((n.log2 : Int) - 52 +
      Format.binary64.exponentBias + Format.binary64.mantissaBitsWithoutImplicit).toNat + 1 := by
    rw [biased]
    show ¬ 2048 ≤ n.log2 + 1023 + 1
    omega
  have normal : (n <<< (52 - n.log2)).log2 + 1 = Format.binary64.mantissaBits :=
    congrArg (· + 1) (log2_mantissa positive small)
  refine (if_neg finite).trans ((if_pos normal).trans ?_)
  rw [biased]

theorem toNat_exponent (small : n.log2 ≤ 52) :
    (BitVec.ofNat 11 (n.log2 + 1023)).toNat = n.log2 + 1023 := by
  rw [BitVec.toNat_ofNat]
  exact Nat.mod_eq_of_lt (by omega)

/-- The first bit of a mantissa is not stored. -/
theorem toNat_fraction {m : Nat} (lower : leadingOne ≤ m) (upper : m < 2 * leadingOne) :
    (BitVec.ofNat 52 m).toNat = m - leadingOne := by
  rw [BitVec.toNat_ofNat]
  show m % leadingOne = _
  rw [Nat.mod_eq_sub_mod lower, Nat.mod_eq_of_lt (by omega)]

/-- The sign is the first bit. -/
theorem ofBitVec_unpackSign {spec : Format} (sign : Sign) (exponent : BitVec spec.exponentBits)
    (mantissa : BitVec spec.mantissaBitsWithoutImplicit) :
    Sign.ofBitVec (unpackSign (packComponents spec sign exponent mantissa)) = sign := by
  have first : unpackSign (packComponents spec sign exponent mantissa) = sign.toBitVec := by
    show (BitVec.extractLsb _ _ (sign.toBitVec ++ exponent ++ mantissa)).cast _ = _
    refine BitVec.eq_of_getElem_eq fun i small => ?_
    obtain rfl : i = 0 := by omega
    simp +arith [BitVec.getElem_append]
  rw [first]
  cases sign with
  | positive => rfl
  | negative => rfl

theorem unpack_pack_parts (positive : 0 < n) (small : n.log2 ≤ 52) :
    unpack Format.binary64 (pack Format.binary64 (parts n positive)) = parts n positive := by
  rw [pack_parts positive small]
  let packed := packComponents Format.binary64 .positive (BitVec.ofNat 11 (n.log2 + 1023))
    (BitVec.ofNat 52 (n <<< (52 - n.log2)))
  have exponent : (unpackExponent packed).toNat = n.log2 + 1023 := by
    rw [unpackExponent_packComponents]
    exact toNat_exponent small
  have finite : unpackExponent packed ≠ -1#11 := by
    rw [Ne, ← BitVec.toNat_inj, exponent]
    show n.log2 + 1023 ≠ 2047
    omega
  have normal : unpackExponent packed ≠ 0#11 := by
    rw [Ne, ← BitVec.toNat_inj, exponent]
    exact Nat.succ_ne_zero _
  have mantissa : (1#1 ++ unpackMantissa packed).toNat = n <<< (52 - n.log2) := by
    obtain ⟨lower, upper⟩ := mantissa_bounds positive small
    rw [unpackMantissa_packComponents, BitVec.toNat_append,
      ← Nat.shiftLeft_add_eq_or_of_lt (BitVec.isLt _), toNat_fraction lower upper]
    exact Nat.add_sub_cancel' lower
  have scale : ((unpackExponent packed).toNat : Int) - (Format.binary64.exponentBias +
      Format.binary64.mantissaBitsWithoutImplicit) = (n.log2 : Int) - 52 := by
    rw [exponent]
    show ((n.log2 + 1023 : Nat) : Int) - ((1023 : Nat) + (52 : Nat)) = _
    omega
  refine (if_neg finite).trans ((if_neg normal).trans ?_)
  exact (UnpackedFloat.finite.injEq ..).mpr ⟨ofBitVec_unpackSign .., mantissa, scale⟩

/-! ## Arithmetic -/

theorem log2_le_of_lt (small : n < 2 * leadingOne) : n.log2 ≤ 52 := by
  rcases n.eq_zero_or_pos with rfl | positive
  · decide
  · exact Nat.le_of_lt_succ ((Nat.log2_lt positive.ne').mpr small)

theorem log2_mono (le : a ≤ b) : a.log2 ≤ b.log2 := by
  rw [Nat.log2_eq_log_two, Nat.log2_eq_log_two]
  exact Nat.log_mono_right le

/-- A product has the bits of its factors together, or one less. -/
theorem log2_mul (ha : 0 < a) (hb : 0 < b) :
    a.log2 + b.log2 ≤ (a * b).log2 ∧ (a * b).log2 ≤ a.log2 + b.log2 + 1 := by
  have product : a * b ≠ 0 := (Nat.mul_pos ha hb).ne'
  constructor
  · rw [Nat.le_log2 product, Nat.pow_add]
    exact Nat.mul_le_mul (Nat.log2_self_le ha.ne') (Nat.log2_self_le hb.ne')
  · have upper : a * b < 2 ^ (a.log2 + 1) * 2 ^ (b.log2 + 1) :=
      Nat.mul_lt_mul'' Nat.lt_log2_self Nat.lt_log2_self
    rw [← Nat.pow_add] at upper
    have := (Nat.log2_lt product).mpr upper
    omega

theorem shiftLeft_mul_shiftLeft (a b k l : Nat) : (a <<< k) * (b <<< l) = (a * b) <<< (k + l) := by
  simp only [Nat.shiftLeft_eq, Nat.pow_add]
  ac_rfl

/-- Whole numbers are multiplied exactly. -/
theorem mul_parts (ha : 0 < a) (hb : 0 < b) (small : (a * b).log2 ≤ 52) :
    mul Format.binary64 (parts a ha) (parts b hb) = parts (a * b) (Nat.mul_pos ha hb) := by
  have bits := log2_mul ha hb
  have scale : (a.log2 : Int) - 52 + ((b.log2 : Int) - 52) =
      -(52 - a.log2 + (52 - b.log2) : Nat) := by omega
  show roundWithAccuracy _ .positive (a <<< (52 - a.log2) * b <<< (52 - b.log2)) _ _ = _
  rw [shiftLeft_mul_shiftLeft, scale]
  exact roundWithAccuracy_shiftLeft (Nat.mul_pos ha hb) small (by omega)

theorem decreaseExponent_parts {k : Nat} (small : n.log2 ≤ 52)
    (scale : 52 - n.log2 ≤ k) :
    decreaseExponent (n <<< (52 - n.log2)) ((n.log2 : Int) - 52) (-k) = (n <<< k, -(k : Int)) := by
  obtain ⟨j, rfl⟩ := Nat.exists_eq_add_of_le scale
  have amount : ((n.log2 : Int) - 52 - -(52 - n.log2 + j : Nat)).toNat = j := by omega
  rw [decreaseExponent, amount, ← Nat.shiftLeft_add]
  congr 1
  omega

/-- Whole numbers are added exactly. -/
theorem add_parts (ha : 0 < a) (hb : 0 < b) (small : (a + b).log2 ≤ 52) :
    add Format.binary64 (parts a ha) (parts b hb) = parts (a + b) (Nat.add_pos_left ha b) := by
  have bitsA : a.log2 ≤ (a + b).log2 := log2_mono (Nat.le_add_right a b)
  have bitsB : b.log2 ≤ (a + b).log2 := log2_mono (Nat.le_add_left b a)
  -- Both are brought to the smaller of their scales, where neither loses a bit.
  obtain ⟨k, scale, roomA, roomB⟩ : ∃ k : Nat,
      min ((a.log2 : Int) - 52) ((b.log2 : Int) - 52) = -k ∧
      52 - a.log2 ≤ k ∧ 52 - b.log2 ≤ k :=
    ⟨max (52 - a.log2) (52 - b.log2), by omega, by omega, by omega⟩
  have sum : ((a <<< k : Nat) : Int) + (b <<< k : Nat) = ((a + b) <<< k : Nat) := by
    rw [Nat.shiftLeft_eq, Nat.shiftLeft_eq, Nat.shiftLeft_eq, Nat.add_mul]
    exact (Int.natCast_add _ _).symm
  have order : compare (((a + b) <<< k : Nat) : Int) 0 = .gt :=
    Int.compare_eq_gt.mpr (by exact_mod_cast Nat.shiftLeft_pos_iff.mpr (Nat.add_pos_left ha b))
  have added : ∀ e, min ((a.log2 : Int) - 52) ((b.log2 : Int) - 52) = e →
      add Format.binary64 (parts a ha) (parts b hb) = UnpackedFloat.normalize Format.binary64
        ((decreaseExponent (a <<< (52 - a.log2)) ((a.log2 : Int) - 52) e).1 +
          (decreaseExponent (b <<< (52 - b.log2)) ((b.log2 : Int) - 52) e).1) e .positive := by
    rintro _ rfl
    rfl
  rw [added _ scale, decreaseExponent_parts (bitsA.trans small) roomA,
    decreaseExponent_parts (bitsB.trans small) roomB, sum, UnpackedFloat.normalize, order]
  exact round_shiftLeft (Nat.add_pos_left ha b) small k

/-- Whole numbers are divided exactly where the quotient is one. -/
theorem div_parts (ha : 0 < a) (hb : 0 < b) (small : (a * b).log2 ≤ 52) :
    div Format.binary64 (parts (a * b) (Nat.mul_pos ha hb)) (parts b hb) = parts a ha := by
  have bits := log2_mul ha hb
  have logs := log2_mantissa (Nat.mul_pos ha hb) small
  have logs' := log2_mantissa hb (by omega)
  -- The dividend gets 53 bits more, and the divisor goes into it without a rest.
  obtain ⟨j, room, same⟩ : ∃ j : Nat, j + (a * b).log2 = 53 + b.log2 ∧
      52 - (a * b).log2 + 53 = j + (52 - b.log2) :=
    ⟨53 + b.log2 - (a * b).log2, by omega, by omega⟩
  have exponents : ((a * b).log2 : Int) - 52 - ((b.log2 : Int) - 52) = 53 - j := by omega
  have target : min (53 - (j : Int)) (Format.binary64.targetExponent
      (totalExponent ((a * b) <<< (52 - (a * b).log2)) (((a * b).log2 : Int) - 52) -
        totalExponent (b <<< (52 - b.log2)) ((b.log2 : Int) - 52))) = -(j : Int) := by
    rw [totalExponent, totalExponent, logs, logs']
    show min _ (max ((_ : Int) - (1 + 52 : Nat)) (-1074)) = _
    omega
  have amount : (53 - (j : Int) - -(j : Int)).toNat = 53 := by omega
  have exact : ((a * b) <<< (52 - (a * b).log2)) <<< 53 = (a <<< j) * (b <<< (52 - b.log2)) := by
    rw [← Nat.shiftLeft_add, same, shiftLeft_mul_shiftLeft]
  have divisor : 0 < b <<< (52 - b.log2) := Nat.shiftLeft_pos_iff.mpr hb
  have quotient : divCore Format.binary64 ((a * b) <<< (52 - (a * b).log2))
      (((a * b).log2 : Int) - 52) (b <<< (52 - b.log2)) ((b.log2 : Int) - 52) =
        (a <<< j, -(j : Int), .exact) := by
    simp only [divCore, exponents, target, amount, exact]
    rw [Nat.mul_div_cancel _ divisor, Nat.mul_mod_left]
    rfl
  have divided : ∀ q, divCore Format.binary64 ((a * b) <<< (52 - (a * b).log2))
      (((a * b).log2 : Int) - 52) (b <<< (52 - b.log2)) ((b.log2 : Int) - 52) = q →
      div Format.binary64 (parts (a * b) (Nat.mul_pos ha hb)) (parts b hb) =
        roundWithAccuracy Format.binary64 .positive q.1 q.2.1 q.2.2 := by
    rintro _ rfl
    rfl
  rw [divided _ quotient]
  exact roundWithAccuracy_shiftLeft ha (by omega) (by omega)

/-! ## Natural numbers as floating-point numbers -/

theorem unpack_pack (positive : 0 < n) (small : n.log2 ≤ 52) :
    (Float.Model.pack (parts n positive)).unpack = parts n positive :=
  unpack_pack_parts positive small

theorem toModel_ofNat (positive : 0 < n) (small : n.log2 ≤ 52) :
    (Float.ofNat n).toModel = .pack (parts n positive) := by
  have bound : n < Nat.pow 2 53 := (Nat.log2_lt positive.ne').mp (by omega)
  have word : n.toUInt64.toNat = n := Nat.mod_eq_of_lt (bound.trans (by decide))
  have order : compare (n : Int) 0 = .gt := Int.compare_eq_gt.mpr (by omega)
  have converted : Float.Model.ofUInt64 n.toUInt64 = .pack (parts n positive) := by
    show Float.Model.pack
      (UnpackedFloat.normalize Format.binary64 (n.toUInt64.toNat : Int) 0 .positive) = _
    rw [word, UnpackedFloat.normalize, order]
    exact congrArg Float.Model.pack (round_shiftLeft positive small 0)
  have one : (Float.Model.ofBits 0x3FF0000000000000).unpack = parts 1 Nat.one_pos := by rfl
  -- A number that fits is converted as a word, and multiplied by a power of two that is one here.
  have product : Float.ofNat n = n.toUInt64.toFloat * Float.ofBits 0x3FF0000000000000 :=
    dif_pos ⟨bound, Nat.zero_le 22⟩
  rw [product]
  show Float.Model.pack (mul _ (Float.Model.ofUInt64 n.toUInt64).unpack
    (Float.Model.ofBits 0x3FF0000000000000).unpack) = _
  rw [converted, unpack_pack positive small, one, mul_parts positive Nat.one_pos]
  · simp only [Nat.mul_one]
  · rwa [Nat.mul_one]

theorem ofModel_parts (positive : 0 < n) (small : n.log2 ≤ 52) :
    Float.ofModel (.pack (parts n positive)) = Float.ofNat n :=
  (congrArg Float.ofModel (toModel_ofNat positive small)).symm

theorem unpack_ofNat (positive : 0 < n) (small : n.log2 ≤ 52) :
    (Float.ofNat n).toModel.unpack = parts n positive := by
  rw [toModel_ofNat positive small, unpack_pack positive small]

theorem ofNat_add (ha : 0 < a) (hb : 0 < b) (small : (a + b).log2 ≤ 52) :
    Float.ofNat a + Float.ofNat b = Float.ofNat (a + b) := by
  have smallA := (log2_mono (Nat.le_add_right a b)).trans small
  have smallB := (log2_mono (Nat.le_add_left b a)).trans small
  show Float.ofModel
    (.pack (add _ (Float.ofNat a).toModel.unpack (Float.ofNat b).toModel.unpack)) = _
  rw [unpack_ofNat ha smallA, unpack_ofNat hb smallB, add_parts ha hb small,
    ofModel_parts (Nat.add_pos_left ha b) small]

theorem ofNat_mul (ha : 0 < a) (hb : 0 < b) (small : (a * b).log2 ≤ 52) :
    Float.ofNat a * Float.ofNat b = Float.ofNat (a * b) := by
  have bits := log2_mul ha hb
  show Float.ofModel
    (.pack (mul _ (Float.ofNat a).toModel.unpack (Float.ofNat b).toModel.unpack)) = _
  rw [unpack_ofNat ha (by omega), unpack_ofNat hb (by omega), mul_parts ha hb small,
    ofModel_parts (Nat.mul_pos ha hb) small]

theorem ofNat_mul_div (ha : 0 < a) (hb : 0 < b) (small : (a * b).log2 ≤ 52) :
    Float.ofNat (a * b) / Float.ofNat b = Float.ofNat a := by
  have bits := log2_mul ha hb
  show Float.ofModel
    (.pack (div _ (Float.ofNat (a * b)).toModel.unpack (Float.ofNat b).toModel.unpack)) = _
  rw [unpack_ofNat (Nat.mul_pos ha hb) small, unpack_ofNat hb (by omega), div_parts ha hb small,
    ofModel_parts ha (by omega)]

/-! ## Written forms -/

/-- The bits of a whole number: an exponent of 11 bits, and the mantissa without its first bit. -/
theorem toNat_toBits_ofNat (positive : 0 < n) (small : n.log2 ≤ 52) :
    (Float.ofNat n).toBits.toNat =
      (n.log2 + 1023) * leadingOne + (n <<< (52 - n.log2) - leadingOne) := by
  obtain ⟨lower, upper⟩ := mantissa_bounds positive small
  have bits : (Float.ofNat n).toBits.toBitVec =
      0#1 ++ BitVec.ofNat 11 (n.log2 + 1023) ++ BitVec.ofNat 52 (n <<< (52 - n.log2)) :=
    (congrArg (·.toBits.toBitVec) (toModel_ofNat positive small)).trans (pack_parts positive small)
  have exponent : (0#1 ++ BitVec.ofNat 11 (n.log2 + 1023)).toNat = n.log2 + 1023 := by
    rw [BitVec.toNat_append, toNat_exponent small]
    show (0 <<< 11 ||| (n.log2 + 1023)) = _
    rw [Nat.zero_shiftLeft, Nat.zero_or]
  show (Float.ofNat n).toBits.toBitVec.toNat = _
  rw [bits, BitVec.toNat_append, ← Nat.shiftLeft_add_eq_or_of_lt (BitVec.isLt _), exponent,
    toNat_fraction lower upper, Nat.shiftLeft_eq]
  rfl

theorem magnitude_ofNat (positive : 0 < n) (small : n.log2 ≤ 52) :
    magnitude (Float.ofNat n) = ⟨n <<< (52 - n.log2), (n.log2 : Int) - 52⟩ := by
  obtain ⟨lower, upper⟩ := mantissa_bounds positive small
  have bits := toNat_toBits_ofNat positive small
  generalize n <<< (52 - n.log2) = m at *
  have fractional : m - leadingOne < leadingOne := by omega
  have exponent : (((Float.ofNat n).toBits >>> 52) &&& 0x7FF).toNat = n.log2 + 1023 := by
    rw [UInt64.toNat_and, UInt64.toNat_shiftRight, bits]
    refine (Nat.and_two_pow_sub_one_eq_mod _ 11).trans ?_
    rw [Nat.shiftRight_eq_div_pow]
    show (_ * leadingOne + _) / leadingOne % 2048 = _
    rw [Nat.mul_comm, Nat.mul_add_div (by decide), Nat.div_eq_of_lt fractional,
      Nat.mod_eq_of_lt (by omega)]
  have fraction : ((Float.ofNat n).toBits &&& 0xFFFFFFFFFFFFF).toNat = m - leadingOne := by
    rw [UInt64.toNat_and, bits]
    refine (Nat.and_two_pow_sub_one_eq_mod _ 52).trans ?_
    show (_ * leadingOne + _) % leadingOne = _
    exact Nat.mul_add_mod_of_lt fractional
  have scale : ((n.log2 + 1023 : Nat) : Int) - 1075 = (n.log2 : Int) - 52 := by omega
  rw [magnitude, exponent, fraction, if_neg (by omega), Nat.add_sub_cancel' lower, scale]

theorem isNegative_ofNat (positive : 0 < n) (small : n.log2 ≤ 52) :
    isNegative (Float.ofNat n) = false := by
  obtain ⟨lower, upper⟩ := mantissa_bounds positive small
  have bits := toNat_toBits_ofNat positive small
  generalize n <<< (52 - n.log2) = m at *
  have sign : (Float.ofNat n).toBits >>> 63 = 0 := by
    apply UInt64.toNat_inj.mp
    rw [UInt64.toNat_shiftRight, bits, Nat.shiftRight_eq_div_pow]
    refine Nat.div_eq_of_lt ?_
    show _ < 2048 * leadingOne
    calc (n.log2 + 1023) * leadingOne + (m - leadingOne)
      _ < (n.log2 + 1023) * leadingOne + leadingOne := by omega
      _ = (n.log2 + 1024) * leadingOne := (Nat.succ_mul _ _).symm
      _ ≤ 2048 * leadingOne := Nat.mul_le_mul_right _ (by omega)
  rw [isNegative, sign]
  rfl

/-- The ratio that a whole number is with `places` decimals. -/
theorem ratio_ofNat (positive : 0 < n) (small : n.log2 ≤ 52) (places : Nat) :
    (magnitude (Float.ofNat n)).ratio places =
      (n * Nat.pow 10 places * Nat.pow 2 (52 - n.log2), Nat.pow 2 (52 - n.log2)) := by
  have up : ((n.log2 : Int) - 52).toNat = 0 := by omega
  have down : (-((n.log2 : Int) - 52)).toNat = 52 - n.log2 := by omega
  have none : (-(places : Int)).toNat = 0 := by omega
  have mantissa : n <<< (52 - n.log2) = n * Nat.pow 2 (52 - n.log2) := Nat.shiftLeft_eq ..
  rw [magnitude_ofNat positive small]
  simp only [Magnitude.ratio, up, down, none, Int.toNat_natCast, mantissa]
  refine Prod.ext ?_ (Nat.mul_one _)
  show n * Nat.pow 2 (52 - n.log2) * 1 * Nat.pow 10 places = _
  rw [Nat.mul_one, Nat.mul_right_comm]

/-- A quotient that is whole needs no rounding. -/
theorem roundDiv_mul (n : Nat) {den : Nat} (positive : 0 < den) (tie : Tie) :
    roundDiv (n * den) den tie = n := by
  have below : compare (2 * (n * den % den)) den = .lt := by
    rw [Nat.mul_mod_left]
    exact Nat.compare_eq_lt.mpr positive
  unfold roundDiv
  simp only [below, Nat.mul_div_cancel n positive]

/-- A whole number is rounded to any number of decimals by writing zeros. -/
theorem roundDiv_ratio_ofNat (positive : 0 < n) (small : n.log2 ≤ 52) (places : Nat) (tie : Tie) :
    let ratio := (magnitude (Float.ofNat n)).ratio places
    roundDiv ratio.1 ratio.2 tie = n * Nat.pow 10 places := by
  have den : 0 < Nat.pow 2 (52 - n.log2) := Nat.pow_pos (by decide)
  rw [ratio_ofNat positive small]
  exact roundDiv_mul _ den tie

/-- A whole number is an integral one. -/
theorem toIntegral_ofNat (positive : 0 < n) (small : n.log2 ≤ 52) :
    toIntegral (Float.ofNat n) = Float.ofNat n := by
  have finite : (Float.ofNat n).isFinite = true := by
    show (Float.ofNat n).toModel.unpack.isFinite = true
    rw [unpack_ofNat positive small]
    rfl
  have rounded := roundDiv_ratio_ofNat positive small 0 .awayFromZero
  unfold toIntegral
  rw [if_pos finite, isNegative_ofNat positive small]
  exact congrArg Float.ofNat (rounded.trans (Nat.mul_one n))

/-- Ten times a number is written with one more zero. -/
theorem toDigits_mul_ten (positive : 0 < n) :
    Nat.toDigits 10 (n * 10) = Nat.toDigits 10 n ++ ['0'] := by
  rw [← Nat.toDigits_zero 10, Nat.toDigits_append_toDigits (by decide) positive (by decide),
    Nat.add_zero, Nat.mul_comm]

theorem toDigits_mul_pow (positive : 0 < n) (k : Nat) :
    Nat.toDigits 10 (n * Nat.pow 10 k) = Nat.toDigits 10 n ++ List.replicate k '0' := by
  induction k with
  | zero =>
    rw [List.replicate_zero, List.append_nil]
    exact congrArg (Nat.toDigits 10) (Nat.mul_one n)
  | succ k ih =>
    have tenfold : n * Nat.pow 10 (k + 1) = n * Nat.pow 10 k * 10 := (Nat.mul_assoc ..).symm
    have more : 0 < n * Nat.pow 10 k := Nat.mul_pos positive (Nat.pow_pos (by decide))
    rw [tenfold, toDigits_mul_ten more, ih, List.append_assoc, List.replicate_succ']

/-- A whole number is written with zeros behind its point. -/
theorem fixed_ofNat (positive : 0 < n) (small : n.log2 ≤ 52) (places : Nat) :
    fixed places (Float.ofNat n) = Nat.toDigits 10 n ++ '.' :: List.replicate places '0' := by
  have nan : (Float.ofNat n).isNaN = false := by
    show (Float.ofNat n).toModel.unpack.isNaN = false
    rw [unpack_ofNat positive small]
    rfl
  have inf : (Float.ofNat n).isInf = false := by
    show (Float.ofNat n).toModel.unpack.isInf = false
    rw [unpack_ofNat positive small]
    rfl
  have digits : padded (places + 1) (n * Nat.pow 10 places) =
      Nat.toDigits 10 n ++ List.replicate places '0' := by
    have long : 0 < (Nat.toDigits 10 n).length := List.length_pos_iff.mpr Nat.toDigits_ne_nil
    have full : places + 1 - (Nat.toDigits 10 n ++ List.replicate places '0').length = 0 := by
      rw [List.length_append, List.length_replicate]
      omega
    rw [padded, toDigits_mul_pow positive, full, List.replicate_zero, List.nil_append]
  have rounded := roundDiv_ratio_ofNat positive small places .toEven
  unfold fixed
  simp only [isNegative_ofNat positive small, nan, inf, rounded, digits, List.length_append,
    List.length_replicate, Nat.add_sub_cancel, List.take_left, List.drop_left, Bool.false_eq_true,
    if_false, List.nil_append]

/-- A text is the same without what was put behind it, if it does not end so itself. -/
theorem dropBackWhile_append {c : Char} {s : List Char} (other : s.getLast? ≠ some c) (k : Nat) :
    dropBackWhile c (s ++ List.replicate k c) = s := by
  have all : ∀ d ∈ List.replicate k c, (d == c) = true := fun d mem =>
    beq_iff_eq.mpr (List.eq_of_mem_replicate mem)
  rw [dropBackWhile, List.reverse_append, List.reverse_replicate, List.dropWhile_append_of_pos all]
  cases back : s.reverse with
  | nil => exact (List.reverse_eq_nil_iff.mp back).symm
  | cons d front =>
    have last : s.getLast? = some d := by rw [← List.head?_reverse, back, List.head?_cons]
    have stays : ¬ (d == c) = true := fun same =>
      other (last.trans (congrArg some (eq_of_beq same)))
    rw [List.dropWhile_cons, if_neg stays, ← back, List.reverse_reverse]

/-- A whole number with four more digits is written as its digits. -/
theorem brief_ofNat (positive : 0 < n) (small : (n * 10000).log2 ≤ 52) :
    brief (Float.ofNat n) = String.ofList (Nat.toDigits 10 n) := by
  have few : n.log2 ≤ 52 := (log2_mono (Nat.le_mul_of_pos_right n (by decide))).trans small
  have rounded : toIntegral (Float.ofNat n * 10000) / 10000 = Float.ofNat n := by
    show toIntegral (Float.ofNat n * Float.ofNat 10000) / Float.ofNat 10000 = _
    rw [ofNat_mul positive (by decide) small,
      toIntegral_ofNat (Nat.mul_pos positive (by decide)) small,
      ofNat_mul_div positive (by decide) small]
  have some : (Float.ofNat n == 0) = false := by
    show (Float.ofNat n).toModel.unpack.beq (0 : Float).toModel.unpack = false
    rw [unpack_ofNat positive few]
    rfl
  have point : (Nat.toDigits 10 n).getLast? ≠ Option.some '.' := fun last =>
    not_mem_toDigits rfl n (List.mem_of_getLast? last)
  have written : fixed 4 (Float.ofNat n) =
      (Nat.toDigits 10 n ++ List.replicate 1 '.') ++ List.replicate 4 '0' := by
    rw [fixed_ofNat positive few, List.append_assoc]
    rfl
  have zeros : (Nat.toDigits 10 n ++ List.replicate 1 '.').getLast? ≠ Option.some '0' := by
    rw [List.replicate_one, List.getLast?_concat]
    decide
  unfold brief
  simp only [rounded, some, written, dropBackWhile_append zeros, dropBackWhile_append point,
    Bool.false_eq_true, if_false]

end PageStudio.Decimal
