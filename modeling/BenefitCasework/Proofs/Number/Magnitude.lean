import BenefitCasework.Number.Binary64
import Mathlib

/-!
Contract: how large the results of floating-point arithmetic are.

Owns:
- `Within`, a number that is defined and finite, with a bound on its exponent;
- the bound that rounding, packing and each operation leave: an operation raises
  it by what the exact result needs and by one for the carry of rounding.

The bounds are coarse. Does not own: how near a result is to the exact one.
-/

namespace BenefitCasework.Number

open Float.Model Float.Model.UnpackedFloat

/-- A finite number whose significand fits and whose exponent is at most the
limit. -/
def Within (limit : Int) : UnpackedFloat → Prop
  | .finite _ significand exponent _ => significand < 2 ^ 53 ∧ exponent ≤ limit
  | .zero _ => True
  | .infinity _ => False
  | .notANumber => False

/-! ### Rounding -/

theorem mantissa_shiftRight (extended : ExtendedMantissa) (places : Nat) :
    (extended >>> places).mantissa = extended.mantissa / 2 ^ places := by
  induction places generalizing extended with
  | zero => exact (Nat.div_one _).symm
  | succ places inductionHypothesis =>
      change (extended >>> places).mantissa / 2 = _
      rw [inductionHypothesis, Nat.div_div_eq_div_mul, Nat.pow_succ]

theorem mantissa_ofMantissaAndAccuracy (mantissa : Nat) (accuracy : Accuracy) :
    (ExtendedMantissa.ofMantissaAndAccuracy mantissa accuracy).mantissa = mantissa := by
  cases accuracy with
  | exact => rfl
  | inexact side => cases side <;> rfl

theorem roundedMantissa_le (extended : ExtendedMantissa) :
    extended.roundedMantissa ≤ extended.mantissa + 1 := by
  obtain ⟨mantissa, roundBit, stickyBit⟩ := extended
  cases roundBit <;> cases stickyBit <;>
    simp only [ExtendedMantissa.roundedMantissa, ExtendedMantissa.accuracy,
      Accuracy.roundToNearestEven] <;> omega

theorem log2_lt_of_lt {mantissa bits : Nat} (small : mantissa < 2 ^ bits) (some : 0 < bits) :
    mantissa.log2 < bits := by
  by_cases zero : mantissa = 0
  · rw [zero]
    exact some
  · exact (Nat.log2_lt zero).mpr small

/-- What is left of a mantissa after a shift fits, and the exponent stays within
a limit that the shift aims at. -/
theorem shiftToTargetExponent_fits {mantissa bits : Nat} {exponent limit : Int}
    (small : mantissa < 2 ^ bits) (some : 0 < bits) (accuracy : Accuracy) (low : -1074 ≤ limit)
    (reaches : bits + exponent ≤ limit + 53) (below : exponent ≤ limit) :
    let shifted := shiftToTargetExponent Format.binary64 mantissa exponent accuracy
    shifted.1.mantissa < 2 ^ 53 ∧ shifted.2 ≤ limit := by
  intro shifted
  have width := log2_lt_of_lt small some
  have target : Format.binary64.targetExponent (totalExponent mantissa exponent) =
      max (mantissa.log2 + 1 + exponent - 53) (-1074) := rfl
  have places : shifted = shiftToExponent mantissa exponent accuracy
      (max (mantissa.log2 + 1 + exponent - 53) (-1074)) := by
    simp only [shifted, shiftToTargetExponent, target]
  rw [places]
  simp only [shiftToExponent, mantissa_shiftRight, mantissa_ofMantissaAndAccuracy]
  generalize moved : (max ((mantissa.log2 : Int) + 1 + exponent - 53) (-1074) - exponent).toNat =
    places
  refine ⟨?_, by omega⟩
  rw [Nat.div_lt_iff_lt_mul (Nat.two_pow_pos places), ← Nat.pow_add]
  exact Nat.lt_of_lt_of_le Nat.lt_log2_self (Nat.pow_le_pow_right (by decide) (by omega))

/-- Rounding may carry into one more bit. -/
theorem within_roundWithAccuracy {mantissa bits : Nat} {exponent limit : Int}
    (small : mantissa < 2 ^ bits) (some : 0 < bits) (sign : Sign) (accuracy : Accuracy)
    (low : -1074 ≤ limit) (reaches : bits + exponent ≤ limit + 53) (below : exponent ≤ limit) :
    Within (limit + 1)
      (roundWithAccuracy Format.binary64 sign mantissa exponent accuracy) := by
  obtain ⟨fits, bounded⟩ := shiftToTargetExponent_fits small some accuracy low reaches below
  unfold roundWithAccuracy
  generalize shiftToTargetExponent Format.binary64 mantissa exponent accuracy = first at *
  have carried : first.1.roundedMantissa < 2 ^ 54 := by
    have rounded := roundedMantissa_le first.1
    omega
  have within := shiftToTargetExponent_fits carried (by decide) .exact
    (show -1074 ≤ limit + 1 by omega) (show (54 : Nat) + first.2 ≤ limit + 1 + 53 by omega)
    (by omega)
  simp only
  split
  · trivial
  · exact within

theorem within_round {mantissa bits : Nat} {exponent limit : Int} (small : mantissa < 2 ^ bits)
    (some : 0 < bits) (sign : Sign) (low : -1074 ≤ limit)
    (reaches : bits + exponent ≤ limit + 53) :
    Within (limit + 1) (UnpackedFloat.round Format.binary64 sign mantissa exponent) := by
  have width := log2_lt_of_lt small some
  have target : Format.binary64.targetExponent (totalExponent mantissa exponent) =
      max (mantissa.log2 + 1 + exponent - 53) (-1074) := rfl
  simp only [UnpackedFloat.round, decreaseExponent, target]
  generalize moved : (exponent - max ((mantissa.log2 : Int) + 1 + exponent - 53) (-1074)).toNat =
    places
  have shifted : mantissa <<< places < 2 ^ (bits + places) := by
    rw [Nat.shiftLeft_eq, Nat.pow_add]
    exact Nat.mul_lt_mul_of_pos_right small (Nat.two_pow_pos places)
  refine within_roundWithAccuracy shifted (by omega) sign .exact low ?_ (by omega)
  omega

theorem within_normalize {mantissa : Int} {bits : Nat} {exponent limit : Int}
    (small : mantissa.natAbs < 2 ^ bits) (some : 0 < bits) (zeroSign : Sign)
    (low : -1074 ≤ limit) (reaches : bits + exponent ≤ limit + 53) :
    Within (limit + 1) (UnpackedFloat.normalize Format.binary64 mantissa exponent zeroSign) := by
  unfold UnpackedFloat.normalize
  split
  · exact within_round (by omega) some .negative low reaches
  · trivial
  · exact within_round (by omega) some .positive low reaches

/-! ### Packing -/

theorem significand_lt_of_unpack {packed : BitVec Format.binary64.numBits} {sign : Sign}
    {significand : Nat} {exponent : Int} {positive : 0 < significand}
    (read : UnpackedFloat.unpack Format.binary64 packed =
      .finite sign significand exponent positive) : significand < 2 ^ 53 := by
  simp only [UnpackedFloat.unpack] at read
  split at read
  · split at read <;> nomatch read
  · split at read
    · split at read
      · nomatch read
      · injection read with _ same _
        rw [← same]
        exact Nat.lt_of_lt_of_le (BitVec.isLt _) (by decide)
    · injection read with _ same _
      rw [← same]
      exact BitVec.isLt _

theorem within_unpack_packComponents {limit : Int} (low : -1074 ≤ limit) (sign : Sign)
    {field : BitVec 11} (mantissa : BitVec 52) (finite : field ≠ -1#11)
    (bounded : (field.toNat : Int) ≤ limit + 1075) :
    Within limit (UnpackedFloat.unpack Format.binary64
      (packComponents Format.binary64 sign field mantissa)) := by
  simp only [UnpackedFloat.unpack, unpackExponent_packComponents, unpackMantissa_packComponents,
    if_neg finite]
  have bias : (Format.exponentBias Format.binary64 : Int) = 1023 := rfl
  split
  · split
    · trivial
    · rename_i zero _
      rw [zero] at bounded
      refine ⟨Nat.lt_of_lt_of_le mantissa.isLt (by decide), ?_⟩
      rw [zero, bias]
      exact low
  · refine ⟨(1#1 ++ mantissa).isLt, ?_⟩
    rw [bias]
    omega

/-- Packing keeps a limit that the largest finite numbers allow. -/
theorem within_unpack_pack {number : UnpackedFloat} {limit : Int} (within : Within limit number)
    (low : -1074 ≤ limit) (high : limit ≤ 970) :
    Within limit
      (UnpackedFloat.unpack Format.binary64 (UnpackedFloat.pack Format.binary64 number)) := by
  cases number with
  | notANumber => exact within.elim
  | infinity sign => exact within.elim
  | zero sign => exact within_unpack_packComponents low sign 0 (by decide) (by simp; omega)
  | finite sign significand exponent positive =>
      obtain ⟨-, bounded⟩ := within
      have bias : (Format.exponentBias Format.binary64 : Int) = 1023 := rfl
      simp only [UnpackedFloat.pack, bias]
      generalize biased : (exponent + 1023 + (52 : Nat)).toNat = field
      have inRange : ¬2 ^ 11 ≤ field + 1 := by omega
      rw [if_neg inRange]
      split
      · have told : (BitVec.ofNat 11 field).toNat = field := Nat.mod_eq_of_lt (by omega)
        refine within_unpack_packComponents low sign _ (fun same => ?_) (by rw [told]; omega)
        rw [same] at told
        have largest : (-1#11).toNat = 2047 := rfl
        omega
      · exact within_unpack_packComponents low sign _ (by decide) (by simp; omega)

/-! ### Arithmetic -/

/-- A machine number that is defined, finite, and within a limit. -/
def Bounded (limit : Int) (number : Float) : Prop := Within limit number.toModel.unpack

theorem not_isNaN_of_bounded {number : Float} {limit : Int} (bounded : Bounded limit number) :
    ¬number.isNaN = true := by
  intro undefined
  change UnpackedFloat.isNaN number.toModel.unpack = true at undefined
  unfold Bounded at bounded
  cases told : number.toModel.unpack with
  | notANumber => exact (told ▸ bounded).elim
  | infinity sign => exact (told ▸ bounded).elim
  | zero sign => rw [told] at undefined; nomatch undefined
  | finite sign size exponent positive => rw [told] at undefined; nomatch undefined

theorem bounded_toFloat {word : UInt64} {bits : Nat} (small : word.toNat < 2 ^ bits)
    (some : 0 < bits) (high : bits ≤ 64) :
    Bounded (bits - 52) word.toFloat := by
  have rounded : Within (bits - 53 + 1) (UnpackedFloat.ofUInt64 Format.binary64 word) :=
    within_normalize (by simpa using small) some .positive (by omega) (by omega)
  have limit : (bits : Int) - 53 + 1 = bits - 52 := by omega
  rw [limit] at rounded
  exact within_unpack_pack rounded (by omega) (by omega)

theorem Within.mono {number : UnpackedFloat} {limit later : Int} (within : Within limit number)
    (larger : limit ≤ later) : Within later number := by
  cases number with
  | finite sign significand exponent positive => exact ⟨within.1, Int.le_trans within.2 larger⟩
  | zero sign => trivial
  | infinity sign => exact within.elim
  | notANumber => exact within.elim

theorem natAbs_apply (sign : Sign) (size : Nat) : (sign.apply size).natAbs = size := by
  cases sign with
  | positive => rfl
  | negative => exact Int.natAbs_neg size

theorem shiftLeft_lt {size : Nat} (small : size < 2 ^ 53) {places room : Nat}
    (fits : places ≤ room) : size <<< places < 2 ^ (53 + room) := by
  rw [Nat.shiftLeft_eq, Nat.pow_add]
  calc size * 2 ^ places < 2 ^ 53 * 2 ^ places :=
        Nat.mul_lt_mul_of_pos_right small (Nat.two_pow_pos places)
    _ ≤ 2 ^ 53 * 2 ^ room := Nat.mul_le_mul_left _ (Nat.pow_le_pow_right (by decide) fits)

theorem within_add {left right : UnpackedFloat} {limit : Int} (leftWithin : Within limit left)
    (rightWithin : Within limit right) (low : -1074 ≤ limit) :
    Within (limit + 2) (UnpackedFloat.add Format.binary64 left right) := by
  cases left with
  | infinity sign => exact leftWithin.elim
  | notANumber => exact leftWithin.elim
  | zero leftSign =>
      cases right with
      | infinity sign => exact rightWithin.elim
      | notANumber => exact rightWithin.elim
      | zero rightSign => cases leftSign <;> cases rightSign <;> trivial
      | finite sign size exponent positive => exact rightWithin.mono (by omega)
  | finite leftSign leftSize leftExponent leftPositive =>
      cases right with
      | infinity sign => exact rightWithin.elim
      | notANumber => exact rightWithin.elim
      | zero sign => exact leftWithin.mono (by omega)
      | finite rightSign rightSize rightExponent rightPositive =>
          -- Both are brought to the smaller exponent; the sum takes one bit more.
          simp only [UnpackedFloat.add, decreaseExponent]
          obtain ⟨leftSmall, leftBelow⟩ := leftWithin
          obtain ⟨rightSmall, rightBelow⟩ := rightWithin
          generalize smaller : min leftExponent rightExponent = least
          have first : leftSize <<< (leftExponent - least).toNat <
              2 ^ (53 + (limit - least).toNat) := shiftLeft_lt leftSmall (by omega)
          have second : rightSize <<< (rightExponent - least).toNat <
              2 ^ (53 + (limit - least).toNat) := shiftLeft_lt rightSmall (by omega)
          generalize leftSize <<< (leftExponent - least).toNat = leftShifted at *
          generalize rightSize <<< (rightExponent - least).toNat = rightShifted at *
          have sum : (leftSign.apply leftShifted + rightSign.apply rightShifted).natAbs <
              2 ^ (53 + (limit - least).toNat + 1) := by
            refine Nat.lt_of_le_of_lt (Int.natAbs_add_le _ _) ?_
            rw [natAbs_apply, natAbs_apply, Nat.pow_succ]
            omega
          have within := within_normalize sum (by omega) .positive
            (show -1074 ≤ limit + 1 by omega) (show _ + least ≤ _ by omega)
          exact within.mono (by omega)

theorem bounded_add {left right : Float} {limit : Int} (leftBounded : Bounded limit left)
    (rightBounded : Bounded limit right) (low : -1074 ≤ limit) (high : limit ≤ 968) :
    Bounded (limit + 2) (left + right) :=
  within_unpack_pack (within_add leftBounded rightBounded low) (by omega) (by omega)

theorem within_div {number divisor : UnpackedFloat} {limit : Int} {sign : Sign} {size : Nat}
    {exponent : Int} {positive : 0 < size} (within : Within limit number)
    (told : divisor = .finite sign size exponent positive) (low : -1074 ≤ limit - exponent) :
    Within (limit - exponent + 1) (UnpackedFloat.div Format.binary64 number divisor) := by
  subst told
  cases number with
  | infinity sign => exact within.elim
  | notANumber => exact within.elim
  | zero sign => trivial
  | finite numberSign numberSize numberExponent numberPositive =>
      obtain ⟨small, below⟩ := within
      simp only [UnpackedFloat.div, divCore]
      generalize Format.targetExponent Format.binary64 _ = aim
      generalize moved : (numberExponent - exponent -
        min (numberExponent - exponent) aim).toNat = places
      have fits : (numberSize <<< places) / size < 2 ^ (53 + places) :=
        Nat.lt_of_le_of_lt (Nat.div_le_self _ _) (shiftLeft_lt small (Nat.le_refl places))
      exact within_roundWithAccuracy fits (by omega) _ _ low (by omega) (by omega)

theorem within_mul {left right : UnpackedFloat} {leftLimit rightLimit : Int}
    (leftWithin : Within leftLimit left) (rightWithin : Within rightLimit right)
    (low : -1074 ≤ leftLimit + rightLimit + 53) :
    Within (leftLimit + rightLimit + 54) (UnpackedFloat.mul Format.binary64 left right) := by
  cases left with
  | infinity sign => exact leftWithin.elim
  | notANumber => exact leftWithin.elim
  | zero leftSign =>
      cases right with
      | infinity sign => exact rightWithin.elim
      | notANumber => exact rightWithin.elim
      | zero sign => trivial
      | finite sign size exponent positive => trivial
  | finite leftSign leftSize leftExponent leftPositive =>
      cases right with
      | infinity sign => exact rightWithin.elim
      | notANumber => exact rightWithin.elim
      | zero sign => trivial
      | finite rightSign rightSize rightExponent rightPositive =>
          obtain ⟨leftSmall, leftBelow⟩ := leftWithin
          obtain ⟨rightSmall, rightBelow⟩ := rightWithin
          have fits : leftSize * rightSize < 2 ^ (53 + 53) := by
            rw [Nat.pow_add]
            exact Nat.mul_lt_mul'' leftSmall rightSmall
          have within := within_roundWithAccuracy fits (by decide) (leftSign * rightSign) .exact
            low (show _ + (leftExponent + rightExponent) ≤ _ by omega) (by omega)
          exact within.mono (by omega)

theorem Bounded.mono {number : Float} {limit later : Int} (bounded : Bounded limit number)
    (larger : limit ≤ later) : Bounded later number :=
  Within.mono bounded larger

/-! ### Signs -/

/-- Above zero, infinity included. -/
def Positive : UnpackedFloat → Prop
  | .finite .positive .. => True
  | .infinity .positive => True
  | _ => False

theorem Positive.exists_of_within {number : UnpackedFloat} {limit : Int}
    (positive : Positive number) (within : Within limit number) :
    ∃ size exponent some, number = .finite .positive size exponent some ∧ exponent ≤ limit := by
  cases number with
  | notANumber => exact within.elim
  | infinity sign => exact within.elim
  | zero sign => exact positive.elim
  | finite sign size exponent some =>
      cases sign with
      | negative => exact positive.elim
      | positive => exact ⟨size, exponent, some, rfl, within.2⟩

theorem lt_iff (left right : Float) :
    left < right ↔ UnpackedFloat.lt left.toModel.unpack right.toModel.unpack = true :=
  decide_eq_true_iff

theorem unpack_zero : (0.0 : Float).toModel.unpack = .zero .positive := by rfl

theorem zero_lt_iff (number : Float) : 0.0 < number ↔ Positive number.toModel.unpack := by
  rw [lt_iff, unpack_zero]
  cases number.toModel.unpack with
  | notANumber => simp [UnpackedFloat.lt, UnpackedFloat.compare, Positive]
  | zero sign => simp [UnpackedFloat.lt, UnpackedFloat.compare, Positive]
  | infinity sign => cases sign <;> simp [UnpackedFloat.lt, UnpackedFloat.compare, Positive]
  | finite sign size exponent positive =>
      cases sign <;> simp [UnpackedFloat.lt, UnpackedFloat.compare, Positive]

theorem unpackSign_packComponents {format : Format} (sign : Sign)
    (field : BitVec format.exponentBits) (mantissa : BitVec format.mantissaBitsWithoutImplicit) :
    unpackSign (packComponents format sign field mantissa) = sign.toBitVec := by
  ext place small
  obtain rfl : place = 0 := by omega
  simp [unpackSign, packComponents, BitVec.getLsbD_append, BitVec.getElem_append]

/-- A number written with a negative sign is read back as such, if at all. -/
theorem not_positive_unpack_packComponents (field : BitVec 11) (mantissa : BitVec 52) :
    ¬Positive (UnpackedFloat.unpack Format.binary64
      (packComponents Format.binary64 .negative field mantissa)) := by
  simp only [UnpackedFloat.unpack, unpackExponent_packComponents, unpackMantissa_packComponents,
    unpackSign_packComponents]
  have sign : Sign.ofBitVec (Sign.toBitVec .negative) = .negative := rfl
  rw [sign]
  split
  · split <;> exact id
  · split
    · split <;> exact id
    · exact id

theorem not_positive_unpack_pack {number : UnpackedFloat} (unsigned : ¬Positive number) :
    ¬Positive
      (UnpackedFloat.unpack Format.binary64 (UnpackedFloat.pack Format.binary64 number)) := by
  cases number with
  | notANumber => exact id
  | infinity sign =>
      cases sign with
      | positive => exact absurd trivial unsigned
      | negative => exact not_positive_unpack_packComponents _ _
  | zero sign =>
      cases sign with
      | positive => exact id
      | negative => exact not_positive_unpack_packComponents _ _
  | finite sign size exponent positive =>
      cases sign with
      | positive => exact absurd trivial unsigned
      | negative =>
          simp only [UnpackedFloat.pack]
          split
          · exact not_positive_unpack_packComponents _ _
          · split <;> exact not_positive_unpack_packComponents _ _

/-- Rounding keeps the sign. -/
theorem not_positive_roundWithAccuracy (size : Nat) (exponent : Int) (accuracy : Accuracy) :
    ¬Positive (roundWithAccuracy Format.binary64 .negative size exponent accuracy) := by
  unfold roundWithAccuracy
  simp only
  split <;> exact id

/-- A positive finite factor makes nothing positive that was not. -/
theorem not_positive_mul {left right : UnpackedFloat} {limit : Int} (unsigned : ¬Positive left)
    (factor : Positive right) (within : Within limit right) :
    ¬Positive (UnpackedFloat.mul Format.binary64 left right) := by
  obtain ⟨size, exponent, some, rfl, -⟩ := factor.exists_of_within within
  cases left with
  | notANumber => exact id
  | zero sign => exact id
  | infinity sign =>
      cases sign with
      | positive => exact absurd trivial unsigned
      | negative => exact id
  | finite sign size exponent some =>
      cases sign with
      | positive => exact absurd trivial unsigned
      | negative => exact not_positive_roundWithAccuracy _ _ _

/-! ### Order -/

theorem le_iff (left right : Float) :
    left ≤ right ↔ UnpackedFloat.le left.toModel.unpack right.toModel.unpack = true :=
  decide_eq_true_iff

theorem le_of_lt {left right : Float} (less : left < right) : left ≤ right := by
  rw [lt_iff] at less
  rw [le_iff]
  have told : UnpackedFloat.compare left.toModel.unpack right.toModel.unpack = some .lt := by
    simpa [UnpackedFloat.lt] using less
  simp [UnpackedFloat.le, told]

/-- What is not below a positive number is positive. -/
theorem Positive.of_le {left right : UnpackedFloat} (positive : Positive left)
    (small : UnpackedFloat.le left right = true) : Positive right := by
  cases left with
  | notANumber => exact positive.elim
  | zero sign => exact positive.elim
  | infinity sign =>
      cases sign with
      | negative => exact positive.elim
      | positive =>
          cases right with
          | infinity sign => cases sign <;> trivial
          | _ => nomatch small
  | finite sign size exponent some =>
      cases sign with
      | negative => exact positive.elim
      | positive =>
          cases right with
          | notANumber => nomatch small
          | zero sign => nomatch small
          | infinity sign => cases sign <;> trivial
          | finite sign size exponent some => cases sign <;> trivial

/-- What is positive and at most a bounded number is bounded. -/
theorem bounded_of_le {left right : Float} {limit : Int} (rightBounded : Bounded limit right)
    (small : left ≤ right) (positive : 0.0 < left) : Bounded limit left := by
  rw [le_iff] at small
  rw [zero_lt_iff] at positive
  obtain ⟨rightSize, rightExponent, rightSome, read, below⟩ :=
    (positive.of_le small).exists_of_within rightBounded
  rw [read] at small
  unfold Bounded
  cases told : left.toModel.unpack with
  | notANumber => exact (told ▸ positive).elim
  | zero sign => trivial
  | infinity sign =>
      cases sign with
      | negative => exact (told ▸ positive).elim
      | positive =>
          rw [told] at small
          nomatch small
  | finite sign size exponent some =>
      cases sign with
      | negative => exact (told ▸ positive).elim
      | positive =>
          refine ⟨significand_lt_of_unpack told, Int.le_trans ?_ below⟩
          by_contra larger
          have order : compare exponent rightExponent = .gt :=
            Int.compare_eq_gt.mpr (Int.not_le.mp larger)
          rw [told] at small
          simp [UnpackedFloat.le, UnpackedFloat.compare, order] at small

theorem bounded_div {number divisor : Float} {limit : Int} {sign : Sign} {size : Nat}
    {exponent : Int} {positive : 0 < size} (bounded : Bounded limit number)
    (told : divisor.toModel.unpack = .finite sign size exponent positive)
    (low : -1074 ≤ limit - exponent) (high : limit - exponent ≤ 969) :
    Bounded (limit - exponent + 1) (number / divisor) :=
  within_unpack_pack (within_div bounded told low) (by omega) (by omega)

theorem bounded_one : Bounded (-52) 1.0 := by
  have told : (1.0 : Float).toModel.unpack = .finite .positive (2 ^ 52) (-52) (by decide) := by rfl
  rw [Bounded, told]
  exact ⟨by decide, by decide⟩

theorem half_positive : Positive (0.5 : Float).toModel.unpack := by
  have told : (0.5 : Float).toModel.unpack = .finite .positive (2 ^ 52) (-53) (by decide) := by rfl
  rw [told]
  trivial

/-- A share of a number is bounded where the number is. -/
theorem bounded_share {number factor : Float} {limit : Int}
    (bounded : 0.0 < number → Bounded limit number) (atLeast : 0.5 ≤ factor)
    (atMost : factor ≤ 1.0) (low : -1074 ≤ limit) (high : limit ≤ 968)
    (positive : 0.0 < number * factor) : Bounded (limit + 2) (number * factor) := by
  have factorPositive : Positive factor.toModel.unpack :=
    half_positive.of_le ((le_iff _ _).mp atLeast)
  have factorBounded : Bounded (-52) factor :=
    bounded_of_le bounded_one atMost ((zero_lt_iff _).mpr factorPositive)
  have numberPositive : 0.0 < number := by
    rw [zero_lt_iff] at positive ⊢
    by_contra unsigned
    exact not_positive_unpack_pack (not_positive_mul unsigned factorPositive factorBounded) positive
  have within := within_mul (bounded numberPositive) factorBounded (by omega)
  exact within_unpack_pack (within.mono (by omega)) (by omega) (by omega)

/-! ### Bits -/

theorem exponentField_eq (number : Float) :
    (Binary64.ofFloat number).exponentField =
      BitVec.toNat (@unpackExponent Format.binary64 number.toModel.toBits.toBitVec) := by
  have mask : (0x7ff : Nat) = 2 ^ 11 - 1 := rfl
  simp only [Binary64.exponentField, Binary64.ofFloat, Float.toBits, unpackExponent,
    UInt64.toNat_and, UInt64.toNat_shiftRight, BitVec.toNat_cast, BitVec.extractLsb_toNat,
    UInt64.toNat_toBitVec]
  change _ &&& 0x7ff = _
  rw [mask, Nat.and_two_pow_sub_one_eq_mod]
  rfl

theorem scale_le {number : Float} {limit : Int} (bounded : Bounded limit number)
    (low : -1074 ≤ limit) : (Binary64.ofFloat number).scale ≤ limit := by
  unfold Binary64.scale
  rw [exponentField_eq]
  simp only [Bounded, Float.Model.unpack, UnpackedFloat.unpack] at bounded
  generalize @unpackExponent Format.binary64 number.toModel.toBits.toBitVec = field at *
  split
  · exact low
  · rename_i normal
    split at bounded
    · split at bounded <;> exact bounded.elim
    · split at bounded
      · rename_i zero
        rw [zero] at normal
        exact absurd rfl normal
      · have bias : (Format.exponentBias Format.binary64 : Int) = 1023 := rfl
        have below := bounded.2
        rw [bias] at below
        omega

end BenefitCasework.Number
