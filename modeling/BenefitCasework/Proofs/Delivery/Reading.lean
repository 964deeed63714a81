import BenefitCasework.Delivery.Bus

/-!
Contract: who reads one topic receives its envelopes one after the other.

Owns:
- `Bus.sent_publish`, what an offer adds to a topic;
- `Subscription.Follows`, a subscriber of one topic with the number of envelopes
  that lie behind it;
- `Subscription.receives`, what such a subscriber receives.

Does not own: subscribers of many topics.
-/

namespace BenefitCasework

namespace Bus

/-- What an answer to an offer puts behind the envelopes of a topic. -/
def taken (topic other : String) (envelope : Envelope) (answer : Except BusError Unit) :
    List Envelope :=
  match answer with
  | .ok () => if topic = other then [envelope] else []
  | .error _ => []

theorem sent_publish (bus : Bus) (topic other : String) (envelope : Envelope) :
    (bus.publish topic envelope).1.sent other =
      bus.sent other ++ taken topic other envelope (bus.publish topic envelope).2 := by
  unfold publish
  split
  · simp [taken, sent]
  · split
    · simp [taken, sent]
    · split
      · simp [taken, sent]
      · by_cases same : topic = other
        · simp [taken, sent, same]
        · simp [taken, sent, same]

end Bus

theorem Feed.length_places (topic : String) (place : Nat) (accepted : List (String × Envelope)) :
    (places topic place accepted).length =
      (accepted.filter fun entry => entry.1 == topic).length := by
  induction accepted generalizing place with
  | nil => rfl
  | cons entry rest inductionHypothesis =>
      obtain ⟨other, envelope⟩ := entry
      by_cases same : (other == topic) = true
      · simp [places, same, inductionHypothesis]
      · simp [places, same, inductionHypothesis]

/-- Something is unread while not all envelopes lie behind a feed. -/
theorem Feed.isNone_firstUnread?_iff (feed : Feed) (bus : Bus) :
    (feed.firstUnread? bus).isNone = true ↔ (bus.sent feed.topic).length ≤ feed.seen := by
  rw [firstUnread?, Option.isNone_iff_eq_none, List.getElem?_eq_none_iff, length_places, Bus.sent,
    List.length_map]

namespace Subscription

/-- The subscriber of one topic, behind which some envelopes lie. -/
def Follows (subscription : Subscription) (topic : String) (seen : Nat) : Prop :=
  subscription = ⟨[⟨topic, seen⟩], []⟩ ∨ subscription = ⟨[], [⟨topic, seen⟩]⟩

variable {bus : Bus} {topic : String} {seen : Nat}

theorem follows_start {subscription : Subscription}
    (started : start bus [topic] = .ok subscription) :
    subscription.Follows topic (bus.sent topic).length := by
  unfold start at started
  split at started
  · cases started
  · cases started
    exact .inl rfl

/-- What a subscriber of one topic receives: a complaint when too many envelopes
have gone by, the next envelope, or nothing when all lie behind it. -/
inductive Receives (bus : Bus) (topic : String) (seen : Nat) :
    Option (Except BusError Envelope) × Subscription → Prop where
  | lagged (reason : BusError) (rest : Subscription) :
      Receives bus topic seen (some (.error reason), rest)
  | next {envelope : Envelope} {rest : Subscription}
      (here : (bus.sent topic)[seen]? = some envelope) (follows : rest.Follows topic (seen + 1)) :
      Receives bus topic seen (some (.ok envelope), rest)
  | nothing {rest : Subscription} (all : (bus.sent topic).length ≤ seen)
      (follows : rest.Follows topic seen) : Receives bus topic seen (none, rest)

/-- What a feed reads is where it stands, unless too much has gone by. -/
theorem read_cases {found : Except BusError Envelope} {moved : Feed}
    (read : Feed.read ⟨topic, seen⟩ bus = some (found, moved)) :
    (∃ reason, found = .error reason) ∨
      ∃ envelope, found = .ok envelope ∧ (bus.sent topic)[seen]? = some envelope ∧
        moved = ⟨topic, seen + 1⟩ := by
  simp only [Feed.read] at read
  split at read
  · cases read
    exact .inl ⟨_, rfl⟩
  · split at read
    · rename_i envelope here
      cases read
      exact .inr ⟨envelope, rfl, here, rfl⟩
    · cases read

theorem all_of_read_none (read : Feed.read ⟨topic, seen⟩ bus = none) :
    (bus.sent topic).length ≤ seen := by
  simp only [Feed.read] at read
  split at read
  · cases read
  · split at read
    · cases read
    · rename_i nothing
      exact List.getElem?_eq_none_iff.mp nothing

section

-- Opened, the comparison with the length of the buffer is counted down by ones.
attribute [local irreducible] Bus.topicBuffer

theorem ask_cons (bus : Bus) (waiting rest : List Feed) (feed : Feed) :
    ask bus waiting (feed :: rest) =
      match feed.read bus with
      | some (found, moved) => (some found, ⟨rest ++ [moved], waiting⟩)
      | none => ask bus (waiting ++ [feed]) rest :=
  rfl

end

/-- A ready feed is asked. -/
theorem receives_ask (bus : Bus) (topic : String) (seen : Nat) :
    Receives bus topic seen (ask bus [] [⟨topic, seen⟩]) := by
  cases read : Feed.read ⟨topic, seen⟩ bus with
  | none =>
      have nothing : ask bus [] [⟨topic, seen⟩] = (none, ⟨[], [⟨topic, seen⟩]⟩) := by
        rw [ask_cons, read]
        rfl
      rw [nothing]
      exact .nothing (all_of_read_none read) (.inr rfl)
  | some answer =>
      obtain ⟨found, moved⟩ := answer
      have asked : ask bus [] [⟨topic, seen⟩] = (some found, ⟨[moved], []⟩) := by
        rw [ask_cons, read]
        rfl
      rw [asked]
      rcases read_cases read with ⟨reason, rfl⟩ | ⟨envelope, rfl, here, rfl⟩
      · exact .lagged reason _
      · exact .next here (.inl rfl)

theorem receives (bus : Bus) {subscription : Subscription}
    (follows : subscription.Follows topic seen) :
    Receives bus topic seen (subscription.receive bus) := by
  rcases follows with rfl | rfl
  · exact receives_ask bus topic seen
  · by_cases behind : (Feed.firstUnread? ⟨topic, seen⟩ bus).isNone = true
    · have all := (Feed.isNone_firstUnread?_iff _ bus).mp behind
      have asleep := Option.isNone_iff_eq_none.mp behind
      have nothing : Subscription.receive ⟨[], [⟨topic, seen⟩]⟩ bus =
          (none, ⟨[], [⟨topic, seen⟩]⟩) := by
        simp only [receive, wake, List.reverse_singleton, awakened, asleep, List.filter_cons,
          Option.isNone_none, if_true, List.filter_nil, List.map_nil, List.append_nil]
        rfl
      rw [nothing]
      exact .nothing all (.inr rfl)
    · obtain ⟨place, unread⟩ : ∃ place, Feed.firstUnread? ⟨topic, seen⟩ bus = some place := by
        simpa [Option.isNone_iff_eq_none, Option.ne_none_iff_exists'] using behind
      have awake : Subscription.receive ⟨[], [⟨topic, seen⟩]⟩ bus = ask bus [] [⟨topic, seen⟩] := by
        simp only [receive, wake, List.reverse_singleton, awakened, unread, List.filter_cons,
          Option.isNone_some, Bool.false_eq_true, if_false, List.filter_nil, insertByPlace,
          List.map_cons, List.map_nil, List.nil_append]
      rw [awake]
      exact receives_ask bus topic seen

end Subscription

end BenefitCasework
