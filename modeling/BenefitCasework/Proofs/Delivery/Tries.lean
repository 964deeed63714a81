import BenefitCasework.Proofs.Delivery.RelayMoves
import BenefitCasework.Proofs.Delivery.Waits
import Mathlib.Data.ENat.Lattice

/-!
Contract: an activity is tried until its first success, or until the retries are used up,
or until a wait cannot be told.

Owns:
- `firstSuccess`, the first call of an activity that succeeds, and
  `RetryPolicy.firstUntold`, the first call with no wait behind it;
- `stepsBefore`, calls with the waits behind them;
- `RetryPolicy.exists_last`, how the tries of an activity come to their end;
- `tries_end_with_the_first_success`, and `count_of_tries_starts_anew`, where the number
  that is told is not the number of the tries;
- `Relay.attempt_of_tries`, that the relay makes the same tries with each envelope.

The calls come out in any way, and jitter draws any factors. The number of tries is a
machine word, and the longest row has one try more than such a word can tell. Does not
own: how long the waits are.
-/

namespace BenefitCasework

/-! ### First places -/

/-- The first place with a property; it is beyond all numbers if there is none. -/
noncomputable def firstPlace (property : Nat → Prop) : ℕ∞ :=
  ⨅ (place : Nat) (_ : property place), (place : ℕ∞)

section FirstPlace

variable {property : Nat → Prop} {place : Nat}

theorem le_firstPlace (none : ∀ earlier < place, ¬ property earlier) :
    (place : ℕ∞) ≤ firstPlace property := by
  refine le_iInf₂ fun found has => Nat.cast_le.mpr ?_
  by_contra before
  exact none found (by omega) has

theorem lt_firstPlace (none : ∀ earlier ≤ place, ¬ property earlier) :
    (place : ℕ∞) < firstPlace property :=
  lt_of_lt_of_le (Nat.cast_lt.mpr (Nat.lt_succ_self place))
    (le_firstPlace fun earlier before => none earlier (Nat.le_of_lt_succ before))

theorem firstPlace_eq (none : ∀ earlier < place, ¬ property earlier) (has : property place) :
    firstPlace property = place :=
  le_antisymm (iInf₂_le place has) (le_firstPlace none)

theorem firstPlace_eq_top (none : ∀ place, ¬ property place) : firstPlace property = ⊤ :=
  iInf₂_eq_top.mpr fun place has => absurd has (none place)

end FirstPlace

section Outcomes

variable {ε α : Type} {outcome : Nat → Except ε α} {place : Nat}

/-- A call, counted from zero, comes out with an error. -/
def Fails (outcome : Nat → Except ε α) (place : Nat) : Prop :=
  ∃ reason, outcome place = .error reason

/-- The first call that succeeds; it is beyond all numbers if none does. -/
noncomputable def firstSuccess (outcome : Nat → Except ε α) : ℕ∞ :=
  firstPlace fun place => ¬ Fails outcome place

theorem not_fails_of_ok {value : α} (succeeds : outcome place = .ok value) :
    ¬ Fails outcome place := by
  rintro ⟨reason, fails⟩
  rw [succeeds] at fails
  cases fails

end Outcomes

/-- Calls, each with the wait behind it. -/
def stepsBefore (waits : List Duration) : List TryStep :=
  waits.flatMap fun wait => [.call, .wait wait]

theorem count_stepsBefore (waits : List Duration) :
    (stepsBefore waits).count .call = waits.length := by
  induction waits with
  | nil => rfl
  | cons wait rest inductionHypothesis =>
      rw [stepsBefore, List.flatMap_cons, ← stepsBefore, List.count_append, inductionHypothesis,
        List.length_cons, Nat.add_comm]
      rfl

namespace RetryPolicy

/-- The first call behind which no wait can be told; it is beyond all numbers if there is
none. -/
noncomputable def firstUntold (policy : RetryPolicy) (factor : Nat → Float) : ℕ∞ :=
  firstPlace fun place => policy.delay? (factor place) (.ofNat place) = none

section Rows

variable {ε α : Type} {policy : RetryPolicy} {factor : Nat → Float} {outcome : Nat → Except ε α}

/-! ### One call -/

section Call

variable {called : Nat} {attempt : UInt32}

theorem tryOn_of_ok {value : α} (succeeds : outcome called = .ok value) (earlier : List TryStep) :
    policy.tryOn factor outcome called attempt earlier =
      ⟨(.call :: earlier).reverse, some (.ok ⟨value, attempt + 1⟩)⟩ := by
  rw [tryOn, succeeds]

/-- With retries left, a call that fails is followed by the next one. -/
theorem tryOn_of_told {reason : ε} (fails : outcome called = .error reason)
    (left : attempt < policy.maxRetries) {wait : Duration}
    (told : policy.delay? (factor called) attempt = some wait) (earlier : List TryStep) :
    policy.tryOn factor outcome called attempt earlier =
      policy.tryOn factor outcome (called + 1) (attempt + 1)
        (.wait wait :: .call :: earlier) := by
  have again := verdict_of_told left told
  rw [tryOn, fails]
  simp only
  split <;> simp_all

/-- With retries left and no wait to be told, a call that fails is the last one. -/
theorem tryOn_of_untold {reason : ε} (fails : outcome called = .error reason)
    (left : attempt < policy.maxRetries)
    (untold : policy.delay? (factor called) attempt = none) (earlier : List TryStep) :
    policy.tryOn factor outcome called attempt earlier = ⟨(.call :: earlier).reverse, none⟩ := by
  have unwinds := verdict_of_untold left untold
  rw [tryOn, fails]
  simp only
  split <;> simp_all

/-- With no retries left, a call that fails is the last one. -/
theorem tryOn_of_spent {reason : ε} (fails : outcome called = .error reason)
    (spent : policy.maxRetries ≤ attempt) (earlier : List TryStep) :
    policy.tryOn factor outcome called attempt earlier =
      ⟨(.call :: earlier).reverse, some (.error ⟨attempt + 1, reason⟩)⟩ := by
  have last := verdict_of_spent spent (factor called)
  rw [tryOn, fails]
  simp only
  split <;> simp_all

end Call

/-! ### Rows of calls -/

/-- The number of a try with retries left. -/
theorem ofNat_lt_maxRetries {called : Nat} (few : called < policy.maxRetries.toNat) :
    UInt32.ofNat called < policy.maxRetries := by
  have limit := policy.maxRetries.toNat_lt
  have small : called < UInt32.size := by
    rw [UInt32.size]
    omega
  rw [UInt32.lt_iff_toNat_lt, UInt32.toNat_ofNat_of_lt' small]
  exact few

/-- How tries come to their end at a call: it succeeds, no retries are left, or no wait
can be told. -/
inductive EndsAt (policy : RetryPolicy) (factor : Nat → Float) (outcome : Nat → Except ε α)
    (last : Nat) : Option (Except (Exhausted ε) (Succeeded α)) → Prop
  | succeeded {value : α} (succeeds : outcome last = .ok value) :
      EndsAt policy factor outcome last (some (.ok ⟨value, .ofNat (last + 1)⟩))
  | exhausted {reason : ε} (fails : outcome last = .error reason)
      (spent : last = policy.maxRetries.toNat) :
      EndsAt policy factor outcome last (some (.error ⟨.ofNat (last + 1), reason⟩))
  | unwound {reason : ε} (fails : outcome last = .error reason)
      (left : last < policy.maxRetries.toNat)
      (untold : policy.delay? (factor last) (.ofNat last) = none) :
      EndsAt policy factor outcome last none

/-- From a call on, all calls up to the last one fail and have a wait behind them. -/
theorem exists_last_from (called : Nat) (few : called ≤ policy.maxRetries.toNat)
    (earlier : List TryStep) :
    let tries := policy.tryOn factor outcome called (.ofNat called) earlier
    ∃ more waits, called + more ≤ policy.maxRetries.toNat ∧
      (∀ place, called ≤ place → place < called + more → Fails outcome place) ∧
      waits.map some =
        (List.range' called more).map (fun place => policy.delay? (factor place) (.ofNat place)) ∧
      tries.steps = earlier.reverse ++ stepsBefore waits ++ [.call] ∧
      EndsAt policy factor outcome (called + more) tries.ending := by
  intro tries
  have none : ∀ place, called ≤ place → place < called + 0 → Fails outcome place := by
    intro place notBefore before
    omega
  cases result : outcome called with
  | ok value =>
      have reached : tries = _ := tryOn_of_ok result earlier
      refine ⟨0, [], few, none, rfl, ?_, ?_⟩
      · rw [reached, List.reverse_cons]
        simp [stepsBefore]
      · rw [reached, ← UInt32.ofNat_one, ← UInt32.ofNat_add]
        exact .succeeded result
  | error reason =>
      rcases Nat.lt_or_eq_of_le few with left | spent
      · cases told : policy.delay? (factor called) (.ofNat called) with
        | none =>
            have reached : tries = _ :=
              tryOn_of_untold result (ofNat_lt_maxRetries left) told earlier
            refine ⟨0, [], few, none, rfl, ?_, ?_⟩
            · rw [reached, List.reverse_cons]
              simp [stepsBefore]
            · rw [reached]
              exact .unwound result left told
        | some wait =>
            have onward : tries = _ := tryOn_of_told result (ofNat_lt_maxRetries left) told earlier
            obtain ⟨more, waits, within, failing, lengths, steps, ends⟩ :=
              exists_last_from (called + 1) left (.wait wait :: .call :: earlier)
            rw [UInt32.ofNat_add] at steps ends
            refine ⟨more + 1, wait :: waits, by omega, ?_, ?_, ?_, ?_⟩
            · intro place notBefore before
              rcases Nat.lt_or_eq_of_le notBefore with later | rfl
              · exact failing place later (by omega)
              · exact ⟨reason, result⟩
            · rw [List.map_cons, lengths, List.range'_succ, List.map_cons, told]
            · rw [onward]
              refine Eq.trans steps ?_
              simp [stepsBefore]
            · rw [onward, Nat.add_comm more 1, ← Nat.add_assoc]
              exact ends
      · have reached : tries = _ := tryOn_of_spent result
          (by rw [spent, UInt32.ofNat_toNat]; exact UInt32.le_refl _) earlier
        refine ⟨0, [], few, none, rfl, ?_, ?_⟩
        · rw [reached, List.reverse_cons]
          simp [stepsBefore]
        · rw [reached, ← UInt32.ofNat_one, ← UInt32.ofNat_add]
          exact .exhausted result spent
termination_by policy.maxRetries.toNat - called

/-- The tries of an activity come to their end: at its first success, behind the last
retry, or where no wait can be told. -/
theorem exists_last (policy : RetryPolicy) (factor : Nat → Float) (outcome : Nat → Except ε α) :
    let tries := policy.runDrawing factor outcome
    ∃ last waits, last ≤ policy.maxRetries.toNat ∧ (∀ earlier < last, Fails outcome earlier) ∧
      (∀ earlier < last, policy.delay? (factor earlier) (.ofNat earlier) ≠ none) ∧
      waits.map some =
        (List.range last).map (fun place => policy.delay? (factor place) (.ofNat place)) ∧
      tries.steps = stepsBefore waits ++ [.call] ∧ tries.calls = last + 1 ∧
      EndsAt policy factor outcome last tries.ending := by
  intro tries
  obtain ⟨last, waits, few, failing, lengths, steps, ends⟩ :=
    exists_last_from 0 (Nat.zero_le _) []
  rw [Nat.zero_add] at few failing ends
  rw [← List.range_eq_range'] at lengths
  have counted : waits.length = last := by
    simpa using congrArg List.length lengths
  refine ⟨last, waits, few, fun earlier before => failing earlier (Nat.zero_le _) before, ?_,
    lengths, steps, ?_, ends⟩
  · intro earlier before untold
    have inRow : (waits.map some)[earlier]? = some none := by
      rw [lengths, List.getElem?_map, List.getElem?_range before, Option.map_some, untold]
    rw [List.getElem?_map] at inRow
    simp at inRow
  · rw [Tries.calls, show tries.steps = _ from steps, List.reverse_nil, List.nil_append,
      List.count_append, count_stepsBefore, counted]
    rfl

end Rows

end RetryPolicy

/-- A machine word tells every number of calls but the largest one. -/
theorem toNat_ofNat_calls_iff {last : Nat} (bounded : last < 2 ^ 32) :
    (UInt32.ofNat (last + 1)).toNat = last + 1 ↔ last < 2 ^ 32 - 1 := by
  rw [UInt32.toNat_ofNat']
  omega

/-! ### The last call -/

namespace RetryPolicy.EndsAt

variable {ε α : Type} {policy : RetryPolicy} {factor : Nat → Float} {outcome : Nat → Except ε α}
  {last : Nat} {ending : Option (Except (Exhausted ε) (Succeeded α))}

/-- Where the last call fails as well, the first success comes later. -/
theorem lt_firstSuccess {reason : ε} (fails : outcome last = .error reason)
    (failing : ∀ earlier < last, Fails outcome earlier) : (last : ℕ∞) < firstSuccess outcome := by
  refine lt_firstPlace fun earlier upTo succeeds => succeeds ?_
  rcases Nat.lt_or_eq_of_le upTo with before | rfl
  · exact failing earlier before
  · exact ⟨reason, fails⟩

/-- The last call is the first one behind which nothing more is to be done. -/
theorem least (ends : policy.EndsAt factor outcome last ending)
    (few : last ≤ policy.maxRetries.toNat) (failing : ∀ earlier < last, Fails outcome earlier)
    (told : ∀ earlier < last, policy.delay? (factor earlier) (.ofNat earlier) ≠ none) :
    min (firstSuccess outcome) (min policy.maxRetries.toNat (policy.firstUntold factor)) =
      (last : ℕ∞) := by
  have succeedsLater : (last : ℕ∞) ≤ firstSuccess outcome :=
    le_firstPlace fun earlier before succeeds => succeeds (failing earlier before)
  have untoldLater : (last : ℕ∞) ≤ policy.firstUntold factor := le_firstPlace told
  have fewer : (last : ℕ∞) ≤ policy.maxRetries.toNat := Nat.cast_le.mpr few
  apply le_antisymm
  · cases ends with
    | succeeded succeeds =>
        exact (min_le_left _ _).trans (iInf₂_le last (not_fails_of_ok succeeds))
    | exhausted fails spent =>
        exact (min_le_right _ _).trans
          ((min_le_left _ _).trans (Nat.cast_le.mpr (Nat.le_of_eq spent.symm)))
    | unwound fails left untold =>
        exact (min_le_right _ _).trans ((min_le_right _ _).trans (iInf₂_le last untold))
  · exact le_min succeedsLater (le_min fewer untoldLater)

/-- Where the last call is the first success, its value is the ending. -/
theorem exists_ok (ends : policy.EndsAt factor outcome last ending)
    (failing : ∀ earlier < last, Fails outcome earlier) (first : firstSuccess outcome = last) :
    ∃ value, outcome last = .ok value ∧ ending = some (.ok ⟨value, .ofNat (last + 1)⟩) := by
  cases ends with
  | succeeded succeeds => exact ⟨_, succeeds, rfl⟩
  | exhausted fails spent => exact absurd first (ne_of_gt (lt_firstSuccess fails failing))
  | unwound fails left untold => exact absurd first (ne_of_gt (lt_firstSuccess fails failing))

/-- Where the last call is the last retry and comes before the first success, its reason is
the ending. -/
theorem exists_error (ends : policy.EndsAt factor outcome last ending)
    (before : (last : ℕ∞) < firstSuccess outcome) (spent : policy.maxRetries.toNat = last) :
    ∃ reason, outcome last = .error reason ∧
      ending = some (.error ⟨.ofNat (last + 1), reason⟩) := by
  cases ends with
  | succeeded succeeds =>
      exact absurd before (not_lt_of_ge (iInf₂_le last (not_fails_of_ok succeeds)))
  | exhausted fails _ => exact ⟨_, fails, rfl⟩
  | unwound fails left untold => exact absurd left (by omega)

/-- There is no ending exactly where the first wait that cannot be told comes before the
first success and the last retry. -/
theorem eq_none_iff (ends : policy.EndsAt factor outcome last ending)
    (failing : ∀ earlier < last, Fails outcome earlier)
    (told : ∀ earlier < last, policy.delay? (factor earlier) (.ofNat earlier) ≠ none) :
    ending = none ↔
      policy.firstUntold factor < min (firstSuccess outcome) policy.maxRetries.toNat := by
  have later : (last : ℕ∞) ≤ policy.firstUntold factor := le_firstPlace told
  cases ends with
  | succeeded succeeds =>
      have atMost : firstSuccess outcome ≤ last := iInf₂_le last (not_fails_of_ok succeeds)
      exact ⟨nofun, fun before => absurd (later.trans_lt before)
        (not_lt_of_ge ((min_le_left _ _).trans atMost))⟩
  | exhausted fails spent =>
      refine ⟨nofun, fun before => absurd (later.trans_lt before) (not_lt_of_ge ?_)⟩
      rw [spent]
      exact min_le_right _ _
  | unwound fails left untold =>
      have here : policy.firstUntold factor ≤ last := iInf₂_le last untold
      exact ⟨fun _ => here.trans_lt (lt_min (lt_firstSuccess fails failing)
        (Nat.cast_lt.mpr left)), fun _ => rfl⟩

end RetryPolicy.EndsAt

/-- An activity is called until it first succeeds, until the retries are used up, or until
the wait behind a failed call cannot be told, whichever comes first, with one wait between
any two calls, of the length that belongs to the first of the two. The ending is that of
the last call, and there is none exactly when a wait cannot be told; that does not happen
with a longest wait below 2 ^ 59 seconds. The number of calls is told in a machine word:
it is told wrong exactly when there are as many retries as such a word can tell and none
of the calls but perhaps the last one succeeds. -/
theorem tries_end_with_the_first_success {ε α : Type} (policy : RetryPolicy)
    (factor : Nat → Float) (outcome : Nat → Except ε α) :
    let tries := policy.runDrawing factor outcome
    let retries := policy.maxRetries.toNat
    let untold := policy.firstUntold factor
    (tries.calls : ℕ∞) = min (firstSuccess outcome) (min retries untold) + 1 ∧
    (∃ waits : List Duration,
      waits.map some = (List.range (tries.calls - 1)).map
        (fun place => policy.delay? (factor place) (.ofNat place)) ∧
      tries.steps = (waits.flatMap fun wait => [.call, .wait wait]) ++ [.call]) ∧
    (∀ place : Nat, firstSuccess outcome = place → place ≤ min (retries : ℕ∞) untold →
      ∃ value, outcome place = .ok value ∧
        tries.ending = some (.ok ⟨value, .ofNat tries.calls⟩)) ∧
    (retries < firstSuccess outcome → retries ≤ untold →
      ∃ reason, outcome retries = .error reason ∧
        tries.ending = some (.error ⟨.ofNat tries.calls, reason⟩)) ∧
    (tries.ending = none ↔ untold < min (firstSuccess outcome) retries) ∧
    (policy.maxDelay.seconds < 2 ^ 59 → (∀ place, Drawn (factor place)) → untold = ⊤) ∧
    ((UInt32.ofNat tries.calls).toNat = tries.calls ↔
      ¬ (retries = 2 ^ 32 - 1 ∧
        ((2 ^ 32 - 1 : Nat) : ℕ∞) ≤ min (firstSuccess outcome) untold)) := by
  intro tries retries untold
  obtain ⟨last, waits, few, failing, told, lengths, steps, calls, ends⟩ :=
    policy.exists_last factor outcome
  have limit : retries < 2 ^ 32 := policy.maxRetries.toNat_lt
  have least := ends.least few failing told
  have made : tries = policy.runDrawing factor outcome := rfl
  clear_value tries
  rw [← made] at steps calls ends
  rw [calls, Nat.add_sub_cancel]
  refine ⟨?_, ⟨waits, lengths, steps⟩, ?_, ?_, ends.eq_none_iff failing told, ?_, ?_⟩
  · rw [least, Nat.cast_add, Nat.cast_one]
  · intro place first within
    rw [first, min_eq_left within, Nat.cast_inj] at least
    subst least
    exact ends.exists_ok failing first
  · intro beyond within
    rw [min_eq_left within, min_eq_right (le_of_lt beyond), Nat.cast_inj] at least
    obtain ⟨reason, fails, same⟩ := ends.exists_error (least ▸ beyond) least
    exact ⟨reason, least ▸ fails, same⟩
  · intro short drawn
    refine firstPlace_eq_top fun place unfit => ?_
    have some := RetryPolicy.isSome_delay? short (drawn place) (.ofNat place)
    rw [unfit] at some
    nomatch some
  · have most : 2 ^ 32 - 1 ≤ last ↔ 2 ^ 32 - 1 ≤ retries ∧
        ((2 ^ 32 - 1 : Nat) : ℕ∞) ≤ min (firstSuccess outcome) untold := by
      rw [← Nat.cast_le (α := ℕ∞), ← least, le_min_iff, le_min_iff, le_min_iff, Nat.cast_le]
      exact and_left_comm
    have full : 2 ^ 32 - 1 ≤ retries ↔ retries = 2 ^ 32 - 1 := by omega
    rw [toNat_ofNat_calls_iff (by omega), ← Nat.not_le, most, full]

/-- With waits that can be told, calls that fail go on up to the last retry. -/
theorem RetryPolicy.ends_behind_last_retry {ε α : Type} {policy : RetryPolicy}
    {factor : Nat → Float} {outcome : Nat → Except ε α}
    (short : policy.maxDelay.seconds < 2 ^ 59) (drawn : ∀ place, Drawn (factor place))
    (failing : ∀ earlier < policy.maxRetries.toNat, Fails outcome earlier) :
    (policy.runDrawing factor outcome).calls = policy.maxRetries.toNat + 1 ∧
      policy.EndsAt factor outcome policy.maxRetries.toNat
        (policy.runDrawing factor outcome).ending := by
  obtain ⟨last, waits, few, -, -, -, -, calls, ends⟩ := policy.exists_last factor outcome
  have isLast : last = policy.maxRetries.toNat := by
    refine Nat.le_antisymm few (Nat.le_of_not_lt fun before => ?_)
    generalize (policy.runDrawing factor outcome).ending = ending at ends
    cases ends with
    | succeeded succeeds => exact not_fails_of_ok succeeds (failing last before)
    | exhausted fails spent => exact absurd before (by omega)
    | unwound fails left untold =>
        have some := RetryPolicy.isSome_delay? short (drawn last) (.ofNat last)
        rw [untold] at some
        nomatch some
  exact isLast ▸ ⟨calls, ends⟩

namespace Sample

/-- As many retries as a machine word can tell. -/
def patient : RetryPolicy := { RetryPolicy.standard with maxRetries := 4294967295 }

/-- Of the calls that such patience allows, only the last one succeeds. -/
def lateSuccess (call : Nat) : Except String Nat :=
  if call < 4294967295 then .error "down" else .ok call

end Sample

/-- The number of calls that is told starts anew behind the last one that a machine word
can tell, whether the call there succeeds or fails. -/
theorem count_of_tries_starts_anew :
    ((Sample.patient.run Sample.lateSuccess).calls = 4294967296 ∧
      (Sample.patient.run Sample.lateSuccess).ending = some (.ok ⟨4294967295, 0⟩)) ∧
    ((Sample.patient.run fun _ => (.error "down" : Except String Nat)).calls = 4294967296 ∧
      (Sample.patient.run fun _ => (.error "down" : Except String Nat)).ending =
        some (.error ⟨0, "down"⟩)) := by
  have short : Sample.patient.maxDelay.seconds < 2 ^ 59 := by decide
  have drawn : ∀ place : Nat, Drawn ((fun _ => 1.0) place) := fun _ => drawn_one
  constructor
  · obtain ⟨calls, ends⟩ := RetryPolicy.ends_behind_last_retry short drawn
      fun earlier (before : earlier < 4294967295) =>
        show Fails Sample.lateSuccess earlier from ⟨"down", if_pos before⟩
    refine ⟨calls, ?_⟩
    change (Sample.patient.runDrawing (fun _ => 1.0) Sample.lateSuccess).ending = _
    generalize (Sample.patient.runDrawing (fun _ => 1.0) Sample.lateSuccess).ending = ending
      at ends ⊢
    cases ends with
    | succeeded succeeds =>
        cases (if_neg (Nat.lt_irrefl _)).symm.trans succeeds
        rfl
    | exhausted fails spent => cases (if_neg (Nat.lt_irrefl _)).symm.trans fails
    | unwound fails left untold => exact absurd left (Nat.lt_irrefl _)
  · obtain ⟨calls, ends⟩ := RetryPolicy.ends_behind_last_retry short drawn
      fun earlier (before : earlier < 4294967295) =>
        show Fails (fun _ => (.error "down" : Except String Nat)) earlier from ⟨"down", rfl⟩
    refine ⟨calls, ?_⟩
    change (Sample.patient.runDrawing (fun _ => 1.0) fun _ => _).ending = _
    generalize (Sample.patient.runDrawing (fun _ => 1.0) fun _ => _).ending = ending at ends ⊢
    cases ends with
    | succeeded succeeds => cases succeeds
    | exhausted fails spent =>
        cases fails
        rfl
    | unwound fails left untold => exact absurd left (Nat.lt_irrefl _)

namespace Sample

/-- The third call succeeds. -/
def thirdSucceeds (call : Nat) : Except String Nat :=
  if call < 2 then .error "down" else .ok call

end Sample

/-- With the standard patience, two failures make three calls with two waits. -/
theorem third_call_is_the_last :
    let tries := RetryPolicy.standard.runDrawing (fun _ => 1.0) Sample.thirdSucceeds
    firstSuccess Sample.thirdSucceeds = (2 : Nat) ∧ tries.calls = 3 ∧
      tries.ending = some (.ok ⟨2, 3⟩) := by
  intro tries
  have first : firstSuccess Sample.thirdSucceeds = (2 : Nat) := by
    refine firstPlace_eq (fun earlier before succeeds => succeeds ?_) (not_fails_of_ok rfl)
    exact ⟨"down", if_pos before⟩
  obtain ⟨calls, -, succeeds, -, -, told, -⟩ :=
    tries_end_with_the_first_success RetryPolicy.standard (fun _ => 1.0) Sample.thirdSucceeds
  have untold := told (by decide) fun _ => drawn_one
  have within : ((2 : Nat) : ℕ∞) ≤ RetryPolicy.standard.maxRetries.toNat :=
    Nat.cast_le.mpr (by decide)
  have three : tries.calls = 3 := by
    rw [first, untold, min_top_right, min_eq_left within] at calls
    exact_mod_cast calls
  obtain ⟨value, same, ended⟩ := succeeds 2 first (by rw [untold, min_top_right]; exact within)
  cases same
  refine ⟨first, three, ended.trans ?_⟩
  rw [show Tries.calls _ = 3 from three]
  rfl

/-! ### The tries of the relay -/

namespace Relay

variable {relay : Relay} {source : Source} {factor : Nat → Float}
  {answers : Nat → Except BusError Unit} {last : Nat}

/-- The answers of the bus, with the factors that jitter draws behind refusals. -/
def drawing (factor : Nat → Float) (answers : Nat → Except BusError Unit) (place : Nat) :
    Except Setback Unit :=
  (answers place).mapError fun reason => ⟨reason, factor place⟩

/-- A relay behind so many answers of the bus. -/
def answered (relay : Relay) (answers : Nat → Except Setback Unit) : Nat → Relay
  | 0 => relay
  | asked + 1 => ((relay.answered answers asked).attempt (answers asked)).1

/-- With retries left and a wait to be told, a refused envelope stays in hand. -/
theorem exists_attempt_drawing (source : Source) {place : Nat} {reason : BusError}
    {wait : Duration} (live : relay.unwound = false) (left : place < relay.policy.maxRetries.toNat)
    (fails : answers place = .error reason)
    (told : relay.policy.delay? (factor place) (.ofNat place) = some wait) (earlier : Tally) :
    ∃ tally, (relay.midway (some ⟨source, .ofNat place⟩) earlier).attempt
        (drawing factor answers place) =
      (relay.midway (some ⟨source, .ofNat (place + 1)⟩) tally, .waiting wait) := by
  have inHand : (relay.midway (some ⟨source, .ofNat place⟩) earlier).pass =
    some ⟨source, .ofNat place⟩ := rfl
  obtain ⟨tally, moved⟩ := attempt_of_retry inHand live
    (RetryPolicy.ofNat_lt_maxRetries left) ⟨reason, factor place⟩ told
  refine ⟨tally, ?_⟩
  rw [drawing, fails, UInt32.ofNat_add]
  exact moved

/-- As long as the bus refuses, retries are left and waits can be told, the envelope stays
in hand. -/
theorem exists_answered_eq (under : relay.pass = some ⟨source, 0⟩) (live : relay.unwound = false)
    (few : last ≤ relay.policy.maxRetries.toNat)
    (failing : ∀ earlier < last, Fails answers earlier)
    (told : ∀ earlier < last, relay.policy.delay? (factor earlier) (.ofNat earlier) ≠ none) :
    ∃ tally, relay.answered (drawing factor answers) last =
      relay.midway (some ⟨source, .ofNat last⟩) tally := by
  induction last with
  | zero =>
      refine ⟨relay.tally, ?_⟩
      rw [midway, show UInt32.ofNat 0 = 0 from rfl, ← under]
      rfl
  | succ last inductionHypothesis =>
      obtain ⟨earlierTally, reached⟩ := inductionHypothesis (by omega)
        (fun earlier before => failing earlier (by omega))
        fun earlier before => told earlier (by omega)
      obtain ⟨reason, fails⟩ := failing last (Nat.lt_succ_self last)
      obtain ⟨wait, toldNow⟩ := Option.ne_none_iff_exists'.mp (told last (Nat.lt_succ_self last))
      obtain ⟨tally, moved⟩ := exists_attempt_drawing source live few fails toldNow earlierTally
      exact ⟨tally, by rw [answered, reached, moved]⟩

/-- The relay tries an envelope as an activity is tried that comes out as the bus answers:
it waits behind each failed try but the last one, and then the envelope has gone out or is
given up, with the number of tries that is told, or the pass is unwound. -/
theorem attempt_of_tries (under : relay.pass = some ⟨source, 0⟩) (live : relay.unwound = false)
    (factor : Nat → Float) (answers : Nat → Except BusError Unit) :
    let tries := relay.policy.runDrawing factor answers
    let last := tries.calls - 1
    let asked := drawing factor answers
    (∀ place < last, ∃ wait, relay.policy.delay? (factor place) (.ofNat place) = some wait ∧
      ((relay.answered asked place).attempt (asked place)).2 = .waiting wait) ∧
    (relay.answered asked last).attempt (asked last) =
      match tries.ending with
      | some (.ok succeeded) =>
          ((relay.answered asked last).countPublished source.envelope
            succeeded.attempts).published source
      | some (.error exhausted) =>
          ((relay.answered asked last).countGivenUp exhausted.attempts).givenUp source
            exhausted.attempts exhausted.lastError.message
      | none => (relay.answered asked last).unwind := by
  intro tries last asked
  obtain ⟨final, waits, few, failing, told, -, -, calls, ends⟩ :=
    relay.policy.exists_last factor answers
  have isLast : last = final := by
    rw [show last = tries.calls - 1 from rfl, show tries.calls = final + 1 from calls,
      Nat.add_sub_cancel]
  rw [isLast]
  constructor
  · intro place before
    obtain ⟨earlierTally, reached⟩ := exists_answered_eq under live
      (show place ≤ relay.policy.maxRetries.toNat by omega)
      (fun earlier sooner => failing earlier (by omega))
      fun earlier sooner => told earlier (by omega)
    obtain ⟨reason, fails⟩ := failing place before
    obtain ⟨wait, toldNow⟩ := Option.ne_none_iff_exists'.mp (told place before)
    obtain ⟨tally, moved⟩ := exists_attempt_drawing source live
      (show place < relay.policy.maxRetries.toNat by omega) fails toldNow earlierTally
    refine ⟨wait, toldNow, ?_⟩
    rw [reached, moved]
  · obtain ⟨tally, reached⟩ := exists_answered_eq under live few failing told
    have inHand : (relay.midway (some ⟨source, .ofNat final⟩) tally).pass =
      some ⟨source, .ofNat final⟩ := rfl
    have answer : asked final = (answers final).mapError fun reason => ⟨reason, factor final⟩ :=
      rfl
    rw [show tries.ending = (relay.policy.runDrawing factor answers).ending from rfl, reached]
    generalize (relay.policy.runDrawing factor answers).ending = ending at ends ⊢
    cases ends with
    | succeeded succeeds =>
        rw [answer, succeeds, UInt32.ofNat_add]
        exact attempt_of_accepted inHand live
    | exhausted fails spent =>
        have last : relay.policy.maxRetries ≤ .ofNat final := by
          rw [spent, UInt32.ofNat_toNat]
          exact UInt32.le_refl _
        rw [answer, fails, UInt32.ofNat_add]
        exact attempt_of_last inHand live last _
    | unwound fails left untold =>
        rw [answer, fails]
        exact attempt_of_untold inHand live (RetryPolicy.ofNat_lt_maxRetries left) untold

end Relay

end BenefitCasework
