/-!
Contract: binary floating-point numbers of sixty-four bits, seen exactly.

Owns:
- `Binary64`, a number kept as its bits, so that equality is decidable;
- `Binary64.significand` and `Binary64.scale`, which write a finite number as
  `significand * 2 ^ scale`;
- `roundHalfEven`, a quotient brought to the nearest whole number.

Arithmetic on these numbers is the machine's. Does not own: their text.
-/

namespace BenefitCasework.Number

/-- A floating-point number of sixty-four bits. -/
structure Binary64 where
  bits : UInt64
deriving DecidableEq, Repr, Inhabited

namespace Binary64

def ofFloat (value : Float) : Binary64 := ⟨value.toBits⟩

def toFloat (number : Binary64) : Float := Float.ofBits number.bits

def isNegative (number : Binary64) : Bool := number.bits >>> 63 == 1

def exponentField (number : Binary64) : Nat := ((number.bits >>> 52) &&& 0x7ff).toNat

def fraction (number : Binary64) : Nat := (number.bits &&& 0xfffffffffffff).toNat

def isFinite (number : Binary64) : Bool := number.exponentField != 0x7ff

def isUndefined (number : Binary64) : Bool := number.exponentField == 0x7ff && number.fraction != 0

/-- The whole number whose multiple by a power of two is the magnitude. -/
def significand (number : Binary64) : Nat :=
  if number.exponentField = 0 then number.fraction else Nat.pow 2 52 + number.fraction

def scale (number : Binary64) : Int :=
  if number.exponentField = 0 then -1074 else (number.exponentField : Int) - 1075

/-- The next smaller magnitude is only half as far away as the next larger. -/
def hasShortGapBelow (number : Binary64) : Bool :=
  number.fraction == 0 && 1 < number.exponentField

end Binary64

/-- The quotient brought to the nearest whole number; a half goes to the even
neighbour. -/
def roundHalfEven (numerator denominator : Nat) : Nat :=
  let below := numerator / denominator
  let twice := 2 * (numerator % denominator)
  if twice < denominator then below
  else if denominator < twice then below + 1
  else below + below % 2

/-- Rounding moves a quotient by at most one half. -/
theorem roundHalfEven_near (numerator denominator : Nat) (positive : 0 < denominator) :
    2 * (roundHalfEven numerator denominator * denominator) ≤ 2 * numerator + denominator ∧
      2 * numerator ≤ 2 * (roundHalfEven numerator denominator * denominator) + denominator := by
  have whole := Nat.div_add_mod numerator denominator
  have small := Nat.mod_lt numerator positive
  have expanded (quotient : Nat) :
      (quotient + 1) * denominator = denominator * quotient + denominator := by
    rw [Nat.add_mul, Nat.mul_comm, Nat.one_mul]
  have swapped : numerator / denominator * denominator = denominator * (numerator / denominator) :=
    Nat.mul_comm _ _
  unfold roundHalfEven
  simp only
  split
  · rw [swapped]
    omega
  · split
    · rw [expanded]
      omega
    · rcases Nat.mod_two_eq_zero_or_one (numerator / denominator) with even | odd
      · rw [even, Nat.add_zero, swapped]
        omega
      · rw [odd, expanded]
        omega

end BenefitCasework.Number
