import BenefitCasework.Proofs.Notice.Dispatch

/-!
Contract: what is told again is not accepted again, and what is numbered from one
on is accepted as it comes.

Owns:
- `Retells`, the same news in the same order, apart from what is told again;
- `ofRequest_acceptedEvents`, which says that requests do not disturb each other;
- `Numbered.acceptedEvents_eq_take`.

Does not own: who tells events again.
-/

namespace BenefitCasework

section Exceeding

variable {event : Event} {earlier others : List Event}

/-- Only which events came earlier matters, not in which order. -/
theorem Event.exceeds_congr (same : ∀ other, other ∈ others ↔ other ∈ earlier) :
    event.Exceeds others ↔ event.Exceeds earlier := by
  simp only [Event.Exceeds, mem_ofRequest, same]

theorem Event.not_exceeds_of_mem (member : event ∈ earlier) : ¬ event.Exceeds earlier := by
  intro exceeds
  have above := exceeds.2 event (mem_ofRequest.mpr ⟨member, rfl⟩)
  exact UInt64.lt_irrefl _ above

/-- Events of other requests do not matter. -/
theorem Event.exceeds_ofRequest_iff :
    event.Exceeds (ofRequest event.request earlier) ↔ event.Exceeds earlier := by
  simp only [Event.Exceeds, mem_ofRequest, and_assoc, and_self]

theorem acceptedEvents_isPrefix (front back : List Event) :
    acceptedEvents front <+: acceptedEvents (front ++ back) := by
  rw [acceptedEvents, acceptedEvents, acceptedBehind_append]
  exact List.prefix_append _ _

/-- Nothing is accepted of what has come by before. -/
theorem acceptedEvents_append_of_subset (front back : List Event)
    (known : ∀ event ∈ back, event ∈ front) :
    acceptedEvents (front ++ back) = acceptedEvents front := by
  induction back using List.reverseRecOn with
  | nil => rw [List.append_nil]
  | append_singleton back last inductionHypothesis =>
      have before : last ∈ front ++ back :=
        List.mem_append_left _ (known last (List.mem_append_right _ List.mem_cons_self))
      rw [← List.append_assoc,
        acceptedEvents_append_of_not_exceeds (Event.not_exceeds_of_mem before)]
      exact inductionHypothesis fun event member => known event (List.mem_append_left _ member)

end Exceeding

/-! ### Telling again -/

/-- Some events tell what others have told, nothing less, nothing new, and the news in
their order. -/
structure Retells (told retold : List Event) : Prop where
  members : ∀ event, event ∈ retold ↔ event ∈ told
  accepted : acceptedEvents retold = acceptedEvents told

namespace Retells

variable {told retold : List Event}

theorem refl (told : List Event) : Retells told told := ⟨fun _ => Iff.rfl, rfl⟩

/-- Both go on with the same event. -/
theorem append (retells : Retells told retold) (event : Event) :
    Retells (told ++ [event]) (retold ++ [event]) := by
  refine ⟨fun other => by simp [retells.members], ?_⟩
  by_cases exceeds : event.Exceeds told
  · rw [acceptedEvents_append_of_exceeds exceeds,
      acceptedEvents_append_of_exceeds ((Event.exceeds_congr retells.members).mpr exceeds),
      retells.accepted]
  · rw [acceptedEvents_append_of_not_exceeds exceeds, acceptedEvents_append_of_not_exceeds
      (mt (Event.exceeds_congr retells.members).mp exceeds), retells.accepted]

/-- Some event is told again. -/
theorem again (retells : Retells told retold) {event : Event} (known : event ∈ retold) :
    Retells told (retold ++ [event]) := by
  refine ⟨fun other => ?_, ?_⟩
  · rw [List.mem_append, List.mem_singleton, ← retells.members other]
    exact or_iff_left_of_imp fun same => same ▸ known
  · rw [acceptedEvents_append_of_not_exceeds (Event.not_exceeds_of_mem known), retells.accepted]

end Retells

/-! ### Request by request -/

theorem ofRequest_acceptedEvents (request : Identifier) (events : List Event) :
    ofRequest request (acceptedEvents events) = acceptedEvents (ofRequest request events) := by
  induction events using List.reverseRecOn with
  | nil => rfl
  | append_singleton events last inductionHypothesis =>
      by_cases same : last.request = request
      · subst same
        rw [ofRequest_append, ofRequest_cons_of_eq rfl, ofRequest_nil]
        by_cases exceeds : last.Exceeds events
        · rw [acceptedEvents_append_of_exceeds exceeds, acceptedEvents_append_of_exceeds
            (Event.exceeds_ofRequest_iff.mpr exceeds), ofRequest_append, inductionHypothesis,
            ofRequest_cons_of_eq rfl, ofRequest_nil]
        · rw [acceptedEvents_append_of_not_exceeds exceeds, acceptedEvents_append_of_not_exceeds
            (mt Event.exceeds_ofRequest_iff.mp exceeds), inductionHypothesis]
      · rw [ofRequest_append, ofRequest_cons_of_ne same, ofRequest_nil, List.append_nil,
          ← inductionHypothesis]
        by_cases exceeds : last.Exceeds events
        · rw [acceptedEvents_append_of_exceeds exceeds, ofRequest_append,
            ofRequest_cons_of_ne same, ofRequest_nil, List.append_nil]
        · rw [acceptedEvents_append_of_not_exceeds exceeds]

/-! ### Numbered events -/

namespace Numbered

variable {id : Identifier} {events front back : List Event} {last : UInt64}

theorem left (numbered : Numbered id (front ++ back) last) :
    Numbered id front (UInt64.ofNat front.length) := by
  refine ⟨fun event member => numbered.sameRequest event (List.mem_append_left _ member), ?_, rfl⟩
  have inTurn := numbered.inTurn
  rw [List.map_append, List.length_append, ← List.range'_append_1, List.map_append] at inTurn
  exact (List.append_inj inTurn (by simp)).1

theorem sequence_getElem (numbered : Numbered id events last) {place : Nat}
    (present : place < events.length) :
    events[place].sequence = UInt64.ofNat (place + 1) := by
  have inTurn := congrArg (fun numbers => numbers[place]?) numbered.inTurn
  simpa [present, Nat.add_comm] using inTurn

/-- While the numbers fit into words, the next event exceeds all others. -/
theorem exceeds {event : Event} (numbered : Numbered id (front ++ [event]) last)
    (few : front.length + 1 < UInt64.size) : event.Exceeds front := by
  have next : event.sequence = UInt64.ofNat (front.length + 1) := by
    have here : front.length < (front ++ [event]).length := by simp
    simpa using numbered.sequence_getElem here
  have value : event.sequence.toNat = front.length + 1 := by
    rw [next, UInt64.toNat_ofNat_of_lt' few]
  constructor
  · rw [UInt64.lt_iff_toNat_lt, value]
    exact Nat.succ_pos _
  · intro other member
    obtain ⟨place, present, found⟩ := List.getElem_of_mem (mem_ofRequest.mp member).1
    rw [UInt64.lt_iff_toNat_lt, value, ← found, numbered.left.sequence_getElem present,
      UInt64.toNat_ofNat_of_lt' (by omega)]
    omega

/-- Behind the largest word, nothing exceeds what was before. -/
theorem not_exceeds {event : Event} (numbered : Numbered id (front ++ [event]) last)
    (many : UInt64.size ≤ front.length + 1) : ¬ event.Exceeds front := by
  intro exceeds
  have size : 2 ≤ UInt64.size := by decide
  have present : UInt64.size - 2 < front.length := by omega
  have sameRequest : front[UInt64.size - 2].request = event.request := by
    rw [numbered.sameRequest _ (List.mem_append_left _ (List.getElem_mem present)),
      numbered.sameRequest event (by simp)]
  have below := exceeds.2 _ (mem_ofRequest.mpr ⟨List.getElem_mem present, sameRequest⟩)
  rw [UInt64.lt_iff_toNat_lt, numbered.left.sequence_getElem present,
    UInt64.toNat_ofNat_of_lt' (by decide)] at below
  have bound := event.sequence.toNat_lt_size
  omega

/-- As many events are accepted as there are words to number them. -/
theorem acceptedEvents_eq_take (numbered : Numbered id events last) :
    acceptedEvents events = events.take (UInt64.size - 1) := by
  induction events using List.reverseRecOn generalizing last with
  | nil => rfl
  | append_singleton front event inductionHypothesis =>
      have before := inductionHypothesis numbered.left
      by_cases few : front.length + 1 < UInt64.size
      · have all : (front ++ [event]).length ≤ UInt64.size - 1 := by
          rw [List.length_append, List.length_singleton]
          omega
        rw [acceptedEvents_append_of_exceeds (numbered.exceeds few), before,
          List.take_of_length_le all, List.take_of_length_le (by omega)]
      · have enough : UInt64.size - 1 ≤ front.length := by omega
        rw [acceptedEvents_append_of_not_exceeds (numbered.not_exceeds (by omega)), before,
          List.take_append_of_le_length enough]

end Numbered

end BenefitCasework
