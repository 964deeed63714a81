import BenefitCasework.Delivery.Retry
import BenefitCasework.Proofs.Number.Magnitude

/-!
Contract: the waits of a policy can be told unless its longest wait is enormous.

Owns:
- `Drawn`, the factors that jitter draws;
- `Duration.isSome_ofSeconds?`, that seconds within a bound are a length of time;
- `RetryPolicy.isSome_delay?`, that each wait is one when the longest is below
  2 ^ 59 seconds, which are more than eighteen thousand million years.

Whatever the first wait and the multiplier are, infinite or undefined ones
included, the longest wait is the cap. Does not own: how long a wait is.
-/

namespace BenefitCasework

/-- Jitter draws from one half up to one. -/
def Drawn (factor : Float) : Prop := 0.5 ≤ factor ∧ factor ≤ 1.0

theorem drawn_one : Drawn 1.0 := by
  constructor <;> decide +kernel

instance (factor : Float) : Decidable (Drawn factor) :=
  inferInstanceAs (Decidable (_ ∧ _))

namespace Number.Binary64

theorem fraction_lt (number : Binary64) : number.fraction < 2 ^ 52 := by
  have mask : number.fraction = number.bits.toNat &&& (2 ^ 52 - 1) := by
    rw [fraction, UInt64.toNat_and]
    rfl
  rw [mask, Nat.and_two_pow_sub_one_eq_mod]
  exact Nat.mod_lt _ (Nat.two_pow_pos 52)

theorem significand_lt (number : Binary64) : number.significand < 2 ^ 53 := by
  have small := number.fraction_lt
  unfold significand
  split
  · omega
  · change 2 ^ 52 + _ < _
    omega

end Number.Binary64

namespace Duration

open Number

theorem roundHalfEven_le (numerator denominator : Nat) :
    roundHalfEven numerator denominator ≤ numerator + 1 := by
  have quotient := Nat.div_le_self numerator denominator
  unfold roundHalfEven
  simp only
  split
  · omega
  · split
    · omega
    · omega

/-- The seconds of numbers up to this scale fit into a machine word. -/
theorem isSome_ofSeconds? {number : Binary64} (small : number.scale ≤ 11) :
    (ofSeconds? number).isSome = true := by
  have bound := number.significand_lt
  have fits : nanosecondsOf number < nanosecondLimit := by
    rw [nanosecondLimit_eq]
    unfold nanosecondsOf
    simp only
    split
    · have grown : Nat.pow 2 number.scale.toNat ≤ 2 ^ 11 :=
        Nat.pow_le_pow_right (by decide) (by omega)
      have product := Nat.mul_le_mul
        (show number.significand * 1000000000 ≤ (2 ^ 53 - 1) * 1000000000 by omega) grown
      omega
    · have near := roundHalfEven_le (number.significand * 1000000000)
        (Nat.pow 2 (-number.scale).toNat)
      omega
  rw [ofSeconds?, dif_pos fits]
  rfl

theorem bounded_billion {number : Float} {limit : Int} (bounded : Bounded limit number)
    (low : -1097 ≤ limit) (high : limit ≤ 946) : Bounded (limit + 24) (number / 1000000000.0) := by
  have told : (1000000000.0 : Float).toModel.unpack =
      .finite .positive 8388608000000000 (-23) (by decide) := by rfl
  have divided := bounded_div bounded told (by omega) (by omega)
  have limit : limit - -23 + 1 = limit + 24 := by omega
  rwa [limit] at divided

theorem bounded_inSeconds {duration : Duration} (short : duration.seconds < 2 ^ 59) :
    Bounded 9 duration.inSeconds := by
  have whole : Bounded 7 (UInt64.ofNat duration.seconds).toFloat :=
    bounded_toFloat (show (UInt64.ofNat duration.seconds).toNat < 2 ^ 59 by
      rw [UInt64.toNat_ofNat']
      omega) (by decide) (by decide)
  have part : Bounded (-22) (UInt64.ofNat duration.subseconds).toFloat :=
    bounded_toFloat (show (UInt64.ofNat duration.subseconds).toNat < 2 ^ 30 by
      have below : duration.subseconds < 1000000000 := Nat.mod_lt _ (by decide)
      rw [UInt64.toNat_ofNat']
      omega) (by decide) (by decide)
  have share : Bounded 7 ((UInt64.ofNat duration.subseconds).toFloat / 1000000000.0) :=
    (bounded_billion part (by decide) (by decide)).mono (by decide)
  exact bounded_add whole share (by decide) (by decide)

end Duration

/-- The smaller of a number and a bounded one is bounded where it is positive. -/
theorem bounded_smallerOf {left right : Float} {limit : Int} (bounded : Number.Bounded limit right)
    (positive : 0.0 < smallerOf left right) : Number.Bounded limit (smallerOf left right) := by
  unfold smallerOf at positive ⊢
  split
  · exact bounded
  · rename_i leftDefined
    rw [if_neg leftDefined] at positive
    split
    · rename_i undefined
      exact absurd undefined (Number.not_isNaN_of_bounded bounded)
    · rename_i rightDefined
      rw [if_neg rightDefined] at positive
      split
      · rename_i less
        rw [if_pos less] at positive
        exact Number.bounded_of_le bounded (Number.le_of_lt less) positive
      · exact bounded

/-- Zero is a length of time, and so is any positive number of seconds that is
bounded. -/
theorem isSome_ofSeconds?_atLeastZero {number : Float}
    (bounded : 0.0 < number → Number.Bounded 11 number) :
    (Duration.ofSeconds? (.ofFloat (atLeastZero number))).isSome = true := by
  unfold atLeastZero
  split
  · rename_i positive
    exact Duration.isSome_ofSeconds? (Number.scale_le (bounded positive) (by decide))
  · decide +kernel

namespace RetryPolicy

/-- Every wait can be told when the longest is not enormous. -/
theorem isSome_delay? {policy : RetryPolicy} (short : policy.maxDelay.seconds < 2 ^ 59)
    {factor : Float} (drawn : Drawn factor) (attempt : UInt32) :
    (policy.delay? factor attempt).isSome = true := by
  have capped : 0.0 < policy.cappedSeconds attempt →
      Number.Bounded 9 (policy.cappedSeconds attempt) :=
    bounded_smallerOf (Duration.bounded_inSeconds short)
  have share : Drawn (if policy.jitter then factor else 1.0) := by
    split
    · exact drawn
    · exact drawn_one
  exact isSome_ofSeconds?_atLeastZero
    (Number.bounded_share capped share.1 share.2 (by decide) (by decide))

end RetryPolicy

namespace Sample

/-- The longest length of time as the longest wait, and infinite growth. -/
def boundless : RetryPolicy :=
  ⟨2, .ofMilliseconds 1, ⟨2 ^ 64 * 1000000000 - 1, by decide⟩, .ofFloat (1.0 / 0.0), false⟩

end Sample

/-- The second wait of a boundless policy cannot be told. -/
example : Sample.boundless.delay? 1.0 0 = some (.ofMilliseconds 1) ∧
    Sample.boundless.delay? 1.0 1 = none := by decide +kernel

end BenefitCasework
