import BenefitCasework.Duration

/-!
Contract: trying again.

Owns:
- `RetryPolicy`, how often an activity is tried again and how long to wait
  before that;
- `RetryPolicy.delay?`, the wait behind each try: it grows by the multiplier up
  to the longest wait, and jitter takes a share of it;
- `RetryPolicy.verdict`, what follows from a failed try;
- `RetryPolicy.run`, an activity tried until it succeeds or the tries run out,
  with its calls and the waits between them in their order.

The count of tries is a machine word, as the number of retries is. A wait that
is longer than a length of time can tell is a panic, and the tries end without
an answer. Does not own: the activities, and the passing of time.
-/

namespace BenefitCasework

/-- How often, and after which waits, an activity is tried again. -/
structure RetryPolicy where
  maxRetries : UInt32
  initialDelay : Duration
  maxDelay : Duration
  multiplier : Number.Binary64
  jitter : Bool
deriving DecidableEq, Repr

/-- A power by repeated squaring, the lowest bit of the exponent first. -/
def powerBySquaring : Nat → Float → Float → Nat → Float
  | 0, product, _, _ => product
  | bits + 1, product, base, exponent =>
      let next := if exponent % 2 = 1 then product * base else product
      if exponent / 2 = 0 then next
      else powerBySquaring bits next (base * base) (exponent / 2)

/-- The smaller of two numbers; an undefined one gives way to the other. -/
def smallerOf (left right : Float) : Float :=
  if left.isNaN then right else if right.isNaN then left else if left < right then left else right

/-- A number that is not negative, zero in place of any other. -/
def atLeastZero (number : Float) : Float := if 0.0 < number then number else 0.0

namespace RetryPolicy

/-- Five retries after waits that double from a tenth of a second to ten
seconds, with jitter. -/
def standard : RetryPolicy :=
  { maxRetries := 5
    initialDelay := .ofMilliseconds 100
    maxDelay := .ofMilliseconds 10000
    multiplier := .ofFloat 2.0
    jitter := true }

def exponentLimit : Nat := 2147483647

/-- The wait behind a try in seconds, counted from zero, before any jitter. -/
def cappedSeconds (policy : RetryPolicy) (attempt : UInt32) : Float :=
  let growth := powerBySquaring 31 1.0 policy.multiplier.toFloat (min attempt.toNat exponentLimit)
  smallerOf (policy.initialDelay.inSeconds * growth) policy.maxDelay.inSeconds

/-- The wait behind a try, counted from zero, for which a factor was drawn. Only
jitter asks for the factor; it draws from one half up to one. -/
def delay? (policy : RetryPolicy) (factor : Float) (attempt : UInt32) : Option Duration :=
  let share := if policy.jitter then factor else 1.0
  Duration.ofSeconds? (.ofFloat (atLeastZero (policy.cappedSeconds attempt * share)))

/-- What follows from a failed try. -/
inductive Verdict where
  | again (wait : Duration)
  | giveUp (attempts : UInt32)
  | unwind
deriving DecidableEq, Repr

/-- What follows when the try with a number, counted from zero, has failed. The
wait is asked for only while retries are left. -/
def verdict (policy : RetryPolicy) (factor : Float) (attempt : UInt32) : Verdict :=
  if policy.maxRetries ≤ attempt then .giveUp (attempt + 1)
  else match policy.delay? factor attempt with
    | some wait => .again wait
    | none => .unwind

def text (policy : RetryPolicy) : String :=
  "RetryPolicy \x7b max_retries: " ++ Text.natural policy.maxRetries.toNat ++
    ", initial_delay: " ++ policy.initialDelay.text ++ ", max_delay: " ++ policy.maxDelay.text ++
    ", multiplier: " ++ policy.multiplier.text .description ++ ", jitter: " ++
    (if policy.jitter then "true" else "false") ++ " \x7d"

end RetryPolicy

/-- An activity that was given up, with its last error. -/
structure Exhausted (ε : Type) where
  attempts : UInt32
  lastError : ε
deriving DecidableEq, Repr

def Exhausted.text {ε : Type} (exhausted : Exhausted ε) (message : ε → String) : String :=
  "gave up after " ++ Text.natural exhausted.attempts.toNat ++ " attempts: " ++
    message exhausted.lastError

/-- An activity that succeeded, with the number of tries. -/
structure Succeeded (α : Type) where
  value : α
  attempts : UInt32
deriving DecidableEq, Repr

/-- What happens while an activity is tried: it is called, or a wait goes by. -/
inductive TryStep where
  | call
  | wait (length : Duration)
deriving DecidableEq, Repr

/-- All tries of an activity: what happened, and how it ended. There is no
ending when the tries were unwound by a panic. -/
structure Tries (ε α : Type) where
  steps : List TryStep
  ending : Option (Except (Exhausted ε) (Succeeded α))

namespace Tries

variable {ε α : Type}

def calls (tries : Tries ε α) : Nat := tries.steps.count .call

/-- The number of tries that an ending tells. -/
def told : Except (Exhausted ε) (Succeeded α) → UInt32
  | .ok succeeded => succeeded.attempts
  | .error exhausted => exhausted.attempts

def momentsFrom (now : Nat) : List TryStep → List Nat
  | [] => []
  | .call :: rest => now :: momentsFrom now rest
  | .wait length :: rest => momentsFrom (now + length.milliseconds) rest

/-- The moments of the tries in milliseconds, the first being at zero. -/
def moments (tries : Tries ε α) : List Nat := momentsFrom 0 tries.steps

end Tries

namespace RetryPolicy

variable {ε α : Type}

section Verdict

variable {policy : RetryPolicy} {factor : Float} {attempt : UInt32} {wait : Duration}

theorem verdict_of_spent (spent : policy.maxRetries ≤ attempt) (factor : Float) :
    policy.verdict factor attempt = .giveUp (attempt + 1) := if_pos spent

theorem verdict_of_told (left : attempt < policy.maxRetries)
    (told : policy.delay? factor attempt = some wait) :
    policy.verdict factor attempt = .again wait := by
  rw [verdict, if_neg (UInt32.not_le.mpr left), told]

theorem verdict_of_untold (left : attempt < policy.maxRetries)
    (untold : policy.delay? factor attempt = none) : policy.verdict factor attempt = .unwind := by
  rw [verdict, if_neg (UInt32.not_le.mpr left), untold]

theorem lt_maxRetries_of_again (again : policy.verdict factor attempt = .again wait) :
    attempt < policy.maxRetries := by
  unfold verdict at again
  split at again
  · nomatch again
  · exact UInt32.not_le.mp ‹_›

end Verdict

/-- The tries are counted while retries are left. -/
theorem toNat_next_try {tried limit : UInt32} (below : tried < limit) :
    (tried + 1).toNat = tried.toNat + 1 := by
  have bound := UInt32.lt_iff_toNat_lt.mp below
  have small := limit.toNat_lt
  rw [UInt32.toNat_add, UInt32.toNat_one]
  exact Nat.mod_eq_of_lt (by omega)

/-- Tries an activity on. Its calls come out as given, counted from zero; the
factors are those that jitter draws. What happened so far stands with the
latest first. -/
def tryOn (policy : RetryPolicy) (factor : Nat → Float) (outcome : Nat → Except ε α)
    (called : Nat) (attempt : UInt32) (earlier : List TryStep) : Tries ε α :=
  match outcome called with
  | .ok value => ⟨(.call :: earlier).reverse, some (.ok ⟨value, attempt + 1⟩)⟩
  | .error reason =>
      match decided : policy.verdict (factor called) attempt with
      | .giveUp attempts => ⟨(.call :: earlier).reverse, some (.error ⟨attempts, reason⟩)⟩
      | .unwind => ⟨(.call :: earlier).reverse, none⟩
      | .again wait =>
          policy.tryOn factor outcome (called + 1) (attempt + 1) (.wait wait :: .call :: earlier)
termination_by policy.maxRetries.toNat - attempt.toNat
decreasing_by
  have below := lt_maxRetries_of_again decided
  have next := toNat_next_try below
  have bound := UInt32.lt_iff_toNat_lt.mp below
  omega

/-- Tries an activity until it succeeds, the retries are used up, or a wait cannot
be told. -/
def runDrawing (policy : RetryPolicy) (factor : Nat → Float) (outcome : Nat → Except ε α) :
    Tries ε α :=
  policy.tryOn factor outcome 0 0 []

/-- Tries an activity, with the full wait behind every try. -/
def run (policy : RetryPolicy) (outcome : Nat → Except ε α) : Tries ε α :=
  policy.runDrawing (fun _ => 1.0) outcome

end RetryPolicy

end BenefitCasework
