import BenefitCasework.Number.Shortest
import BenefitCasework.Text.Digits

/-!
Contract: lengths of time.

Owns:
- `Duration`, a length of time in whole nanoseconds, with seconds that fit into
  a machine word;
- `Duration.inSeconds` and `Duration.ofSeconds?`, to and from floating-point
  seconds, the way back to the nearest nanosecond, a half going to the even
  one; there is no way back from more seconds than a machine word can tell;
- `Duration.text`, the length in the largest unit that leaves it at least one.

Does not own: moments, which belong to the calendar.
-/

namespace BenefitCasework

/-- The nanoseconds from which on the seconds no longer fit. -/
def nanosecondLimit : Nat := Nat.pow 2 64 * 1000000000

theorem nanosecondLimit_eq : nanosecondLimit = 18446744073709551616000000000 := rfl

/-- A length of time. -/
structure Duration where
  nanoseconds : Nat
  bounded : nanoseconds < nanosecondLimit
deriving DecidableEq, Repr

namespace Duration

def zero : Duration := ⟨0, by decide⟩

instance : Inhabited Duration := ⟨zero⟩

def ofMilliseconds (milliseconds : UInt64) : Duration :=
  ⟨milliseconds.toNat * 1000000, by
    have small := milliseconds.toNat_lt
    simp only [nanosecondLimit_eq]
    omega⟩

def seconds (duration : Duration) : Nat := duration.nanoseconds / 1000000000

def subseconds (duration : Duration) : Nat := duration.nanoseconds % 1000000000

/-- The whole milliseconds needed to cover a length of time. -/
def milliseconds (duration : Duration) : Nat := (duration.nanoseconds + 999999) / 1000000

def inSeconds (duration : Duration) : Float :=
  (UInt64.ofNat duration.seconds).toFloat +
    (UInt64.ofNat duration.subseconds).toFloat / 1000000000.0

/-- The nanoseconds that a nonnegative number of seconds comes nearest to. -/
def nanosecondsOf (number : Number.Binary64) : Nat :=
  let scaled := number.significand * 1000000000
  if 0 ≤ number.scale then scaled * Nat.pow 2 number.scale.toNat
  else Number.roundHalfEven scaled (Nat.pow 2 (-number.scale).toNat)

/-- The length of time that a nonnegative number of seconds comes nearest to, if
the seconds fit. Infinity and what is undefined have none. -/
def ofSeconds? (number : Number.Binary64) : Option Duration :=
  if fits : nanosecondsOf number < nanosecondLimit then some ⟨nanosecondsOf number, fits⟩ else none

/-- The digits behind the point, without zeros at the end. -/
def fraction (width value : Nat) : String :=
  let digits := (Text.padded width value).toList.reverse.dropWhile (· == '0')
  if digits.isEmpty then "" else String.ofList ('.' :: digits.reverse)

/-- A length of time in one unit of ten to the `width` nanoseconds. -/
def inUnit (duration : Duration) (width : Nat) (unit : String) : String :=
  Text.natural (duration.nanoseconds / Nat.pow 10 width) ++
    fraction width (duration.nanoseconds % Nat.pow 10 width) ++ unit

/-- A length of time in the largest unit that leaves it at least one. -/
def text (duration : Duration) : String :=
  if 1000000000 ≤ duration.nanoseconds then duration.inUnit 9 "s"
  else if 1000000 ≤ duration.nanoseconds then duration.inUnit 6 "ms"
  else if 1000 ≤ duration.nanoseconds then duration.inUnit 3 "µs"
  else duration.inUnit 0 "ns"

end Duration

end BenefitCasework
